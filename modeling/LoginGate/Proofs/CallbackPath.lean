/-
# Which addresses lead to the callback

The callback path may occur in an address more than once: the context path may hold it, or a longer
segment may begin with it.  The address is tested at the first occurrence alone.

| predicate | the callback path |
| --- | --- |
| `NamesCallback` | occurs, and ends the address or stands before a delimiter there |
| `ObscuresCallback` | occurs for the first time in front of another character |

An address leads to the callback if it names the callback and does not obscure it.  Below a context
path the callback address names the callback, and obscures it exactly if the context path does.
-/

import LoginGate.Request

namespace LoginGate

/-! ## The first occurrence of a pattern -/

namespace Text

variable {α : Type} {p l a b : List α}

/-- A pattern whose first element is found nowhere else in it does not overlap with itself: where it
follows a list, it occurs within the list or after it. -/
theorem append_eq_cases {x : α} {k m r : List α} (single : x ∉ k)
    (h : m ++ x :: k = l ++ x :: k ++ r) :
    (∃ s, m = l ++ x :: k ++ s ∧ r = s ++ x :: k) ∨ (l = m ∧ r = []) := by
  rw [List.append_assoc] at h
  obtain ⟨t, rfl, rest⟩ | ⟨t, rfl, rest⟩ := List.append_eq_append_iff.1 h
  · -- The pattern begins after the list.
    cases t with
    | nil => exact .inr ⟨List.append_nil m, List.append_right_eq_self.1 rest.symm⟩
    | cons y t =>
      have inside : x ∈ k := by
        rw [(List.cons.inj rest).2]
        exact List.mem_append_right t List.mem_cons_self
      exact absurd inside single
  · obtain ⟨s, rfl, rfl⟩ | ⟨s, outer, inner⟩ := List.append_eq_append_iff.1 rest
    · exact .inl ⟨s, (List.append_assoc ..).symm, rfl⟩
    · cases t with
      | nil =>
        rw [List.nil_append] at outer
        subst outer
        exact .inr ⟨(List.append_nil l).symm, List.append_right_eq_self.1 inner.symm⟩
      | cons y t =>
        cases s with
        | nil =>
          rw [List.append_nil] at outer
          exact .inl ⟨[], by rw [outer, List.append_nil], inner.symm⟩
        | cons z s =>
          -- The pattern begins within the list and ends after it.
          have inside : x ∈ k := by
            rw [(List.cons.inj outer).2, (List.cons.inj inner).1]
            exact List.mem_append_right t List.mem_cons_self
          exact absurd inside single

variable [DecidableEq α]

/-- What occurs is found. -/
theorem exists_find? (h : p <:+: l) : ∃ a b, find? p l = some (a, b) := by
  induction l with
  | nil =>
    rw [List.infix_nil.1 h]
    exact ⟨[], [], rfl⟩
  | cons x l ih =>
    rw [find?]
    by_cases front : p.isPrefixOf (x :: l) = true
    · rw [if_pos front]
      exact ⟨_, _, rfl⟩
    · obtain here | later := List.infix_cons_iff.1 h
      · exact absurd (List.isPrefixOf_iff_prefix.2 here) front
      · obtain ⟨a, b, found⟩ := ih later
        rw [if_neg front, found]
        exact ⟨_, _, rfl⟩

/-- No occurrence begins before the one that is found. -/
theorem length_le_of_find? (found : find? p l = some (a, b)) {a' b' : List α}
    (h : l = a' ++ p ++ b') : a.length ≤ a'.length := by
  induction l generalizing a a' with
  | nil =>
    rw [find?] at found
    split at found
    · rw [← (Prod.mk.inj (Option.some.inj found)).1]
      exact Nat.zero_le _
    · cases found
  | cons x l ih =>
    rw [find?] at found
    split at found
    · rw [← (Prod.mk.inj (Option.some.inj found)).1]
      exact Nat.zero_le _
    · rename_i apart
      cases a' with
      | nil => exact absurd (List.isPrefixOf_iff_prefix.2 ⟨b', h.symm⟩) apart
      | cons y a' =>
        obtain ⟨⟨c, d⟩, rest, same⟩ := Option.map_eq_some_iff.1 found
        obtain ⟨rfl, rfl⟩ := Prod.mk.inj same
        rw [List.length_cons, List.length_cons]
        exact Nat.succ_le_succ (ih rest (List.cons.inj h).2)

end Text

/-! ## The callback path -/

/-- What follows the callback path does not go on in its segment. -/
def EndsSegment (after : String) : Prop :=
  ∀ c, after.toList.head? = some c → c ∈ callbackDelimiters

/-- The callback path occurs in the address, and ends it or stands before a delimiter. -/
def NamesCallback (uri : String) : Prop :=
  ∃ before after, uri = before ++ callbackPath ++ after ∧ EndsSegment after

/-- The callback path occurs in the text, and not before that. -/
structure FirstCallback (text before after : String) : Prop where
  here : text = before ++ callbackPath ++ after
  first : ∀ p s, text = p ++ callbackPath ++ s → before.length ≤ p.length

/-- The callback path occurs, for the first time in front of a character that is no delimiter. -/
def ObscuresCallback (text : String) : Prop :=
  ∃ before after, FirstCallback text before after ∧ ¬ EndsSegment after

variable {uri context before after p s : String} {a b : List Char}

/-- A text around the callback path, and its characters. -/
theorem toList_eq_around_iff : uri.toList = before.toList ++ callbackPath.toList ++ after.toList ↔
    uri = before ++ callbackPath ++ after := by
  rw [← String.toList_append, ← String.toList_append, String.toList_inj]

/-- There is one first occurrence. -/
theorem FirstCallback.unique (h : FirstCallback uri before after) (k : FirstCallback uri p s) :
    before = p ∧ after = s := by
  have length : before.toList.length = p.toList.length := by
    rw [String.length_toList, String.length_toList]
    exact Nat.le_antisymm (h.first _ _ k.here) (k.first _ _ h.here)
  have same := (toList_eq_around_iff.2 h.here).symm.trans (toList_eq_around_iff.2 k.here)
  rw [List.append_assoc, List.append_assoc] at same
  obtain ⟨front, rest⟩ := List.append_inj same length
  exact ⟨String.toList_inj.1 front, String.toList_inj.1 (List.append_cancel_left rest)⟩

/-- What is found is the first occurrence. -/
theorem firstCallback_of_find? (found : Text.find? callbackPath.toList uri.toList = some (a, b)) :
    FirstCallback uri (String.ofList a) (String.ofList b) := by
  refine ⟨toList_eq_around_iff.1 ?_, fun p s h => ?_⟩
  · rw [String.toList_ofList, String.toList_ofList]
    exact Text.find?_eq_some found
  · rw [String.length_ofList, ← String.length_toList]
    exact Text.length_le_of_find? found (toList_eq_around_iff.2 h)

/-- Where the callback path occurs, it occurs for a first time. -/
theorem exists_firstCallback (h : uri = p ++ callbackPath ++ s) :
    ∃ before after, FirstCallback uri before after := by
  obtain ⟨a, b, found⟩ := Text.exists_find? ⟨_, _, (toList_eq_around_iff.2 h).symm⟩
  exact ⟨_, _, firstCallback_of_find? found⟩

/-- The first occurrence decides. -/
theorem FirstCallback.isCallback_iff (h : FirstCallback uri before after) :
    isCallback uri = true ↔ EndsSegment after := by
  obtain ⟨a, b, found⟩ := Text.exists_find? ⟨_, _, (toList_eq_around_iff.2 h.here).symm⟩
  obtain ⟨-, rfl⟩ := h.unique (firstCallback_of_find? found)
  rw [isCallback, found, EndsSegment, String.toList_ofList]
  cases b with
  | nil => simp
  | cons c r => simp

/-- **An address leads to the callback** if it names it and does not obscure it. -/
theorem isCallback_iff (uri : String) :
    isCallback uri = true ↔ NamesCallback uri ∧ ¬ ObscuresCallback uri := by
  constructor
  · intro leads
    have first : ∃ before after, FirstCallback uri before after := by
      cases found : Text.find? callbackPath.toList uri.toList with
      | none =>
        rw [isCallback, found] at leads
        cases leads
      | some cut => exact ⟨_, _, firstCallback_of_find? found⟩
    obtain ⟨before, after, first⟩ := first
    have ends := first.isCallback_iff.1 leads
    refine ⟨⟨before, after, first.here, ends⟩, ?_⟩
    rintro ⟨p, s, other, goes⟩
    exact goes ((first.unique other).2 ▸ ends)
  · rintro ⟨⟨p, s, h, -⟩, clear⟩
    obtain ⟨before, after, first⟩ := exists_firstCallback h
    refine first.isCallback_iff.2 (Classical.not_not.1 fun goes => ?_)
    exact clear ⟨before, after, first, goes⟩

/-! ## The callback address below a context path -/

/-- The callback path holds one slash. -/
theorem append_callbackPath_cases (h : context ++ callbackPath = p ++ callbackPath ++ s) :
    (∃ r, context = p ++ callbackPath ++ r ∧ s = r ++ callbackPath) ∨ (p = context ∧ s = "") := by
  have path : callbackPath.toList = '/' :: "j_security_check".toList := rfl
  have lists := toList_eq_around_iff.2 h
  rw [String.toList_append, path] at lists
  obtain ⟨r, within, rest⟩ | ⟨front, rest⟩ := Text.append_eq_cases (by decide) lists
  · refine .inl ⟨String.ofList r, toList_eq_around_iff.1 ?_, ?_⟩
    · rw [String.toList_ofList, path]
      exact within
    · rw [← String.toList_inj, String.toList_append, String.toList_ofList, path]
      exact rest
  · exact .inr ⟨String.toList_inj.1 front, String.toList_inj.1 rest⟩

/-- The callback path begins with a delimiter. -/
theorem endsSegment_append_iff (r : String) :
    EndsSegment (r ++ callbackPath) ↔ EndsSegment r := by
  rw [EndsSegment, EndsSegment, String.toList_append]
  cases r.toList with
  | nil =>
    refine ⟨fun _ => nofun, fun _ c first => ?_⟩
    obtain rfl : '/' = c := Option.some.inj first
    decide
  | cons c r => rfl

/-- The callback address below a context path obscures the callback exactly if the context path
does. -/
theorem obscures_append_iff (context : String) :
    ObscuresCallback (context ++ callbackPath) ↔ ObscuresCallback context := by
  constructor
  · rintro ⟨before, after, ⟨here, first⟩, goes⟩
    obtain ⟨r, within, rfl⟩ | ⟨-, rfl⟩ := append_callbackPath_cases here
    · refine ⟨before, r, ⟨within, fun p s h => first p (s ++ callbackPath) ?_⟩,
        fun ends => goes ((endsSegment_append_iff r).2 ends)⟩
      rw [h, String.append_assoc]
    · exact absurd nofun goes
  · rintro ⟨before, after, ⟨here, first⟩, goes⟩
    refine ⟨before, after ++ callbackPath, ⟨by rw [here, String.append_assoc], fun p s h => ?_⟩,
      fun ends => goes ((endsSegment_append_iff after).1 ends)⟩
    obtain ⟨r, within, -⟩ | ⟨rfl, -⟩ := append_callbackPath_cases h
    · exact first p r within
    · rw [here, String.append_assoc, String.length_append]
      exact Nat.le_add_right ..

/-- **The callback address below a context path** leads to the callback unless the context path
obscures it. -/
theorem isCallback_append_iff (context : String) :
    isCallback (context ++ callbackPath) = true ↔ ¬ ObscuresCallback context := by
  have named : NamesCallback (context ++ callbackPath) :=
    ⟨context, "", (String.append_empty).symm, nofun⟩
  rw [isCallback_iff, obscures_append_iff]
  exact ⟨And.right, fun clear => ⟨named, clear⟩⟩

/-- So it does below a context path that does not contain the callback path. -/
theorem isCallback_of_mount {mount : String} (h : ¬ callbackPath.toList <:+: mount.toList) :
    isCallback (mount ++ callbackPath) = true := by
  rw [isCallback_append_iff]
  rintro ⟨before, after, ⟨here, -⟩, -⟩
  exact h ⟨_, _, (toList_eq_around_iff.2 here).symm⟩

/-- **Which addresses lead to the callback:** those that name it and do not obscure it.  The address
that the provider is asked to send the browser back to is that of a request for the callback path
below the context path, and this request leads to the callback exactly if the context path does not
obscure it. -/
theorem isCallback_iff_not_obscured (uri : String) (q : Request) :
    (isCallback uri = true ↔ NamesCallback uri ∧ ¬ ObscuresCallback uri) ∧
      let back : Request := { q with path := callbackPath }
      q.callbackUrl = back.origin ++ back.uri ∧
        (isCallback back.uri = true ↔ ¬ ObscuresCallback q.context) := by
  have filled : (q.context ++ callbackPath).isEmpty = false :=
    String.isEmpty_eq_false_iff.2 fun empty =>
      absurd (String.append_eq_empty_iff.1 empty).2 (by decide)
  have address : ({ q with path := callbackPath } : Request).uri = q.context ++ callbackPath := by
    rw [Request.uri]
    exact if_neg (Bool.not_eq_true _ ▸ filled)
  refine ⟨isCallback_iff uri, ?_, ?_⟩
  · rw [address, ← String.append_assoc]
    rfl
  · rw [address, isCallback_append_iff]

/-- An address is not recognised by its end where a longer segment in front of it begins with the
callback path, and a context path of this kind hides its own callback. -/
theorem not_isCallback_of_longer_segment :
    (¬ ∀ uri, isCallback uri = true ↔ NamesCallback uri) ∧
      ¬ ∀ q : Request, isCallback ({ q with path := callbackPath } : Request).uri = true := by
  constructor
  · intro claim
    have named : NamesCallback "/j_security_checks/j_security_check" :=
      ⟨"/j_security_checks", "", by decide +kernel, nofun⟩
    exact absurd ((claim _).2 named) (by decide +kernel)
  · intro claim
    have back := claim
      { method := .text "GET", scheme := "http", host := "app", port := none, path := ""
        context := "/j_security_checks" }
    exact absurd back (by decide +kernel)

end LoginGate
