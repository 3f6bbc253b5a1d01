/-
# Where a saved address leads

An address is written from the path as the server resolved it and from the query as it was sent.  A
browser that follows the address reads it again: it leaves out what follows a `#`, cuts the rest at
the first `?`, and the server resolves the escapes of the path once more.

| in the path | the browser asks for |
| --- | --- |
| `#` | what stands before it, without a query |
| `?` | what stands before it, with another query |
| an escape | the path with the escape resolved |

A `#` in the query loses what follows it.  Where none of this occurs the address leads back to the
path and the query that it was written from (`Request.Plain`).
-/

import LoginGate.Proofs.Admission
import LoginGate.Proofs.Destination
import LoginGate.Proofs.Escapes

namespace LoginGate

/-! ## Cutting at a mark -/

namespace Text

variable {α : Type} [DecidableEq α] {c : α} {l a : List α}

/-- A mark is looked for behind a part that has none. -/
theorem cutAt_append_left (h : c ∉ a) (l : List α) :
    cutAt c (a ++ l) = (a ++ (cutAt c l).1, (cutAt c l).2) := by
  induction a with
  | nil => rfl
  | cons x a ih =>
    obtain ⟨first, rest⟩ := List.ne_and_not_mem_of_not_mem_cons h
    rw [List.cons_append, cutAt, if_neg (Ne.symm first), ih rest, List.cons_append]

/-- A list without the mark is not cut. -/
theorem cutAt_of_not_mem (h : c ∉ l) : cutAt c l = (l, none) := by
  have whole := cutAt_append_left h []
  rwa [List.append_nil, cutAt, List.append_nil] at whole

/-- What stands before the mark is where the list begins. -/
theorem cutAt_prefix (c : α) (l : List α) : (cutAt c l).1 <+: l := by
  rcases found : cutAt c l with ⟨a, _ | b⟩
  · exact (cutAt_eq_none found).1 ▸ List.prefix_rfl
  · exact ⟨c :: b, (cutAt_eq_some found).1.symm⟩

/-- The mark does not stand before itself. -/
theorem not_mem_cutAt (c : α) (l : List α) : c ∉ (cutAt c l).1 := by
  rcases found : cutAt c l with ⟨a, _ | b⟩
  · exact (cutAt_eq_none found).2
  · exact (cutAt_eq_some found).2

end Text

/-! ## What a browser asks for -/

/-- What a browser asks a server for at an address, of which the part after the origin is given: the
path with its escapes resolved, and the query. -/
def Address.asked (rest : String) : String × Option String :=
  let sent := (Text.cutAt '#' rest.toList).1
  (Percent.decode (String.ofList (Text.cutAt '?' sent).1),
    (Text.cutAt '?' sent).2.map String.ofList)

namespace Request

/-- The path and the query of a request, none where it is empty. -/
def demand (q : Request) : String × Option String :=
  (q.uri, if q.query.isEmpty then none else some q.query)

/-- A browser that follows the address asks the server of the request for its path and query. -/
def AsksFor (location : Attribute) (q : Request) : Prop :=
  ∃ rest, location = .text (q.origin ++ rest) ∧ Address.asked rest = q.demand

/-- Neither the path nor the query holds what has a meaning of its own in an address. -/
structure Plain (q : Request) : Prop where
  queryMark : '?' ∉ q.uri.toList
  pathMark : '#' ∉ q.uri.toList
  escapes : Percent.hasEscape q.uri.toList = false
  mark : '#' ∉ q.query.toList

/-- The query as it stands in the address, with its mark. -/
def marked (q : Request) : List Char :=
  if q.query.isEmpty then [] else '?' :: q.query.toList

/-- The address without its origin. -/
def landing (q : Request) : String :=
  String.ofList (q.uri.toList ++ q.marked)

variable {q r : Request}

/-- An address is its origin and what comes after it. -/
theorem url_eq (q : Request) : q.url = q.origin ++ q.landing := by
  rw [url, landing, marked]
  cases q.query.isEmpty with
  | true => simp
  | false => simp [String.append_assoc]

/-- The query is read off what stands for it. -/
theorem query_eq_of_marked_eq (h : q.marked = r.marked) : q.query = r.query := by
  unfold marked at h
  by_cases left : q.query.isEmpty <;> by_cases right : r.query.isEmpty <;>
    simp only [left, right, if_true, Bool.false_eq_true, if_false] at h
  · rw [String.isEmpty_iff.1 left, String.isEmpty_iff.1 right]
  · cases h
  · cases h
  · exact String.toList_inj.1 (List.cons.inj h).2

/-- An address leads back if what comes after its origin is read as path and query. -/
theorem asksFor_url_iff (q : Request) :
    AsksFor (.text q.url) q ↔ Address.asked q.landing = q.demand := by
  rw [url_eq]
  constructor
  · rintro ⟨rest, same, asked⟩
    have same : q.origin ++ q.landing = q.origin ++ rest :=
      WideText.plain.inj (Json.text.inj (Attribute.json.inj same))
    rw [String.append_right_inj] at same
    rwa [same]
  · exact fun asked => ⟨_, rfl, asked⟩

/-- A browser that reads a plain address finds the path and the query. -/
theorem Plain.asked (h : q.Plain) : Address.asked q.landing = q.demand := by
  have path : Percent.decode q.uri = q.uri := (Percent.decode_eq_self_iff _).2 h.escapes
  have sent : (Text.cutAt '#' (q.uri.toList ++ q.marked)).1 = q.uri.toList ++ q.marked := by
    rw [Text.cutAt_of_not_mem]
    rw [List.mem_append, not_or]
    refine ⟨h.pathMark, fun mem => ?_⟩
    unfold marked at mem
    split at mem
    · cases mem
    · obtain other | mem := List.mem_cons.1 mem
      · cases other
      · exact h.mark mem
  rw [Address.asked, landing, String.toList_ofList, sent, demand, marked]
  cases q.query.isEmpty with
  | true => simp [Text.cutAt_of_not_mem h.queryMark, path]
  | false => simp [Text.cutAt_append h.queryMark, path]

/-- What a browser reads as the path resolves to the path of the request only if it is that path. -/
theorem eq_of_decode_eq {p : List Char} (front : p <+: q.uri.toList ++ q.marked)
    (noQuery : '?' ∉ p) (path : Percent.decode (String.ofList p) = q.uri) : p = q.uri.toList := by
  -- Resolving makes nothing longer, so the path is no longer than what it is read from; and that
  -- ends before the mark of the query.
  have long : q.uri.toList.length ≤ p.length := by
    have bound := Percent.length_decode_le (String.ofList p)
    rwa [path, String.toList_ofList] at bound
  obtain ⟨rest, rfl⟩ : q.uri.toList <+: p :=
    List.prefix_of_prefix_length_le (List.prefix_append _ _) front long
  cases rest with
  | nil => rw [List.append_nil]
  | cons c more =>
    have tail : c :: more <+: q.marked := (List.prefix_append_right_inj _).1 front
    unfold marked at tail
    split at tail
    · exact absurd (List.prefix_nil.1 tail) (List.cons_ne_nil _ _)
    · obtain rfl := (List.cons_prefix_cons.1 tail).1
      exact absurd (List.mem_append_right _ List.mem_cons_self) noQuery

/-- An address that leads back to its request is plain. -/
theorem plain_of_asked (h : Address.asked q.landing = q.demand) : q.Plain := by
  rw [Address.asked, landing, String.toList_ofList] at h
  obtain ⟨path, query⟩ := Prod.mk.inj h
  have whole := Text.cutAt_prefix '#' (q.uri.toList ++ q.marked)
  have noMark := Text.not_mem_cutAt '#' (q.uri.toList ++ q.marked)
  generalize sent : (Text.cutAt '#' (q.uri.toList ++ q.marked)).1 = s at path query whole noMark
  have front := Text.cutAt_prefix '?' s
  have noQuery := Text.not_mem_cutAt '?' s
  generalize asked : (Text.cutAt '?' s).1 = p at path front noQuery
  obtain rfl : p = q.uri.toList := eq_of_decode_eq (front.trans whole) noQuery path
  have pathMark : '#' ∉ q.uri.toList := fun mem => noMark (front.subset mem)
  rw [String.ofList_toList] at path
  refine ⟨noQuery, pathMark, (Percent.decode_eq_self_iff _).1 path, ?_⟩
  have kept : s = q.uri.toList ++ (Text.cutAt '#' q.marked).1 := by
    rw [← sent, Text.cutAt_append_left pathMark]
  rw [kept, marked] at query
  cases empty : q.query.isEmpty with
  | true => simp [String.isEmpty_iff.1 empty]
  | false =>
    rw [empty, if_neg Bool.false_ne_true, if_neg Bool.false_ne_true, Text.cutAt,
      if_neg (by decide), Text.cutAt_append noQuery] at query
    have rest : (Text.cutAt '#' q.query.toList).1 = q.query.toList := by
      simpa [← String.toList_inj] using query
    exact rest ▸ Text.not_mem_cutAt '#' q.query.toList

/-! ## Requests with one address -/

/-- A path that takes up the query of another one begins with that path and a `?`. -/
theorem begins_of_marked {c : Char} {l m : List Char} (path : r.uri.toList = q.uri.toList ++ c :: l)
    (query : q.marked = c :: l ++ m) : Text.begins (q.uri ++ "?") r.uri = true := by
  unfold marked at query
  split at query
  · cases query
  · obtain ⟨rfl, -⟩ := List.cons.inj query
    refine Inbound.begins_iff.2 ⟨l, ?_⟩
    rw [path, String.toList_append, List.append_assoc]
    rfl

/-- Of two requests with one address, both have the same path and query, exactly if they were sent
to the same origin and neither path goes on with a `?` where the other one ends. -/
theorem same_iff_of_url_eq (h : q.url = r.url) :
    q.uri = r.uri ∧ q.query = r.query ↔
      q.origin = r.origin ∧ Text.begins (q.uri ++ "?") r.uri = false ∧
        Text.begins (r.uri ++ "?") q.uri = false := by
  have longer : ∀ s : String, Text.begins (s ++ "?") s = false := by
    intro s
    rw [Bool.eq_false_iff]
    intro begins
    have length := (List.isPrefixOf_iff_prefix.1 begins).length_le
    simp at length
  rw [url_eq, url_eq] at h
  constructor
  · rintro ⟨path, query⟩
    have same : q.landing = r.landing := by rw [landing, landing, marked, marked, path, query]
    refine ⟨?_, path ▸ longer _, path ▸ longer _⟩
    rw [same] at h
    exact (String.append_left_inj _).1 h
  · rintro ⟨origin, left, right⟩
    rw [origin, String.append_right_inj, landing, landing, String.ofList_inj] at h
    obtain ⟨as, hr, hm⟩ | ⟨bs, hq, hm⟩ := List.append_eq_append_iff.1 h
    · cases as with
      | nil =>
        rw [List.append_nil] at hr
        exact ⟨(String.toList_inj.1 hr).symm, query_eq_of_marked_eq hm⟩
      | cons c as => exact absurd ((begins_of_marked hr hm).symm.trans left) nofun
    · cases bs with
      | nil =>
        rw [List.append_nil] at hq
        exact ⟨String.toList_inj.1 hq, (query_eq_of_marked_eq hm).symm⟩
      | cons c bs => exact absurd ((begins_of_marked hq hm).symm.trans right) nofun

/-- A request whose origin ends where its path begins: no mark of an address stands in the scheme or
the host. -/
structure Rooted (q : Request) : Prop where
  path : Text.begins "/" q.uri = true
  scheme : ':' ∉ (Text.lower q.scheme).toList
  host : '/' ∉ q.host.toList

/-- The host of a request as its address names it, with the port where that has to be named. -/
def authority (q : Request) : String :=
  match q.port with
  | none => Address.hostForm q.host
  | some n =>
    if n ≤ 0 ∨ Address.usualPort? (Text.lower q.scheme) = some n then Address.hostForm q.host
    else Address.hostForm q.host ++ ":" ++ toString n

/-- An origin is the scheme and the host as the address names it. -/
theorem origin_eq_authority (q : Request) :
    q.origin = Text.lower q.scheme ++ "://" ++ q.authority := by
  unfold origin Address.origin authority
  cases q.port with
  | none => rfl
  | some n =>
    dsimp only
    split
    · rfl
    · simp [String.append_assoc]

/-- No number is written with a slash. -/
theorem slash_not_mem_toString {n : Int} (h : 0 < n) : '/' ∉ (toString n).toList := by
  intro mem
  obtain ⟨k, rfl⟩ := Int.eq_ofNat_of_zero_le h.le
  change '/' ∈ (Nat.repr k).toList at mem
  rw [Nat.repr, String.toList_ofList] at mem
  have digit := Nat.isDigit_of_mem_toDigits (by omega) (by omega) mem
  revert digit
  decide

/-- The authority ends where the path begins. -/
theorem Rooted.slash_not_mem_authority (h : q.Rooted) : '/' ∉ q.authority.toList := by
  have host : '/' ∉ (Address.hostForm q.host).toList := by
    unfold Address.hostForm
    split
    · simp [h.host]
    · exact h.host
  unfold authority
  split
  · exact host
  · split
    · exact host
    · rename_i named
      have port := slash_not_mem_toString (Int.not_le.1 (not_or.1 named).1)
      rw [String.toList_append, String.toList_append, List.mem_append, List.mem_append, not_or,
        not_or]
      exact ⟨⟨host, by decide⟩, port⟩

/-- **The origin is read off the address,** up to the first slash after its `://`. -/
theorem origin_eq_of_url_eq (hq : q.Rooted) (hr : r.Rooted) (h : q.url = r.url) :
    q.origin = r.origin := by
  have parts : ∀ {s : Request}, s.Rooted → ∃ rest, s.url.toList =
      (Text.lower s.scheme).toList ++ ':' :: '/' :: '/' :: (s.authority.toList ++ '/' :: rest) := by
    intro s hs
    obtain ⟨rest, path⟩ := Inbound.begins_iff.1 hs.path
    refine ⟨rest ++ s.marked, ?_⟩
    rw [url_eq, origin_eq_authority, landing]
    simp [path]
  obtain ⟨rest, left⟩ := parts hq
  obtain ⟨rest', right⟩ := parts hr
  have front := Text.cutAt_append hq.scheme ('/' :: '/' :: (q.authority.toList ++ '/' :: rest))
  rw [← left, h, right, Text.cutAt_append hr.scheme] at front
  obtain ⟨scheme, after⟩ := Prod.mk.inj front
  have after : r.authority.toList ++ '/' :: rest' = q.authority.toList ++ '/' :: rest :=
    (List.cons.inj (List.cons.inj (Option.some.inj after)).2).2
  have host := Text.cutAt_append hq.slash_not_mem_authority rest
  rw [← after, Text.cutAt_append hr.slash_not_mem_authority] at host
  rw [origin_eq_authority, origin_eq_authority, String.toList_inj.1 scheme,
    String.toList_inj.1 (Prod.mk.inj host).1]

end Request

namespace Gate

/-- **Where a saved address leads.**  A browser that follows the address of a request asks for the
path and the query of the request exactly if these are plain: no `?`, `#` or escape stands in the
path, and no `#` in the query.  So it is for a browser that a callback sends to the request that its
session saved.  And of two requests with one address, both have the same path and query exactly if
they were sent to one origin and neither path goes on with a `?` where the other one ends; that they
were sent to one origin follows where no mark of an address stands in a scheme or a host. -/
theorem address_leads_back (q : Request) :
    (q.AsksFor (.text q.url) ↔ q.Plain) ∧
      (∀ {g : Gate} {w : World} {es : List Event} {c : Event} {n : Serial} {location : Attribute},
        w.Fresh → Arrives g (g.run w es) c n location → q.slot? = some ((g.run w es).slot n) →
        (q.AsksFor location ↔ q.Plain)) ∧
      ∀ r : Request, q.url = r.url →
        (q.uri = r.uri ∧ q.query = r.query ↔
          q.origin = r.origin ∧ Text.begins (q.uri ++ "?") r.uri = false ∧
            Text.begins (r.uri ++ "?") q.uri = false) ∧
        (q.Rooted → r.Rooted → q.origin = r.origin) := by
  have back : q.AsksFor (.text q.url) ↔ q.Plain :=
    q.asksFor_url_iff.trans ⟨Request.plain_of_asked, Request.Plain.asked⟩
  refine ⟨back, fun fresh arrives held => ?_, fun r same => ⟨Request.same_iff_of_url_eq same, ?_⟩⟩
  · rw [arrives.location_eq fresh held]
    exact back
  · exact fun hq hr => Request.origin_eq_of_url_eq hq hr same

/-- The address of a page leads back to it after a login, and another request for it is for the same
page. -/
theorem address_leads_back_small :
    let g := smallGate true
    let w := smallWorld none
    let page := smallRequest "/page" "x=1" none
    let again := smallRequest "/page" "x=1" (some "first")
    let asked := Event.call (.validate true) page .fresh
    let back := Event.call (.validate true)
      (smallRequest "/j_security_check" "code=abc&state=token" (some "first")) .fresh
    w.Fresh ∧ Arrives g (g.run w [asked]) back 0 (.text "http://app/page?x=1") ∧
      page.slot? = some ((g.run w [asked]).slot 0) ∧ page.url = again.url ∧ page.Rooted ∧
      again.Rooted ∧
      (page.AsksFor (.text "http://app/page?x=1") ↔ page.Plain) ∧
      (page.uri = again.uri ∧ page.query = again.query ↔
        page.origin = again.origin ∧ Text.begins (page.uri ++ "?") again.uri = false ∧
          Text.begins (again.uri ++ "?") page.uri = false) ∧
      page.origin = again.origin := by
  intro g w page again asked back
  have arrives : Arrives g (g.run w [asked]) back 0 (.text "http://app/page?x=1") :=
    ⟨true, _, .fresh, smallResult, some 303, rfl, by decide +kernel, by decide +kernel,
      by decide +kernel⟩
  have held : page.slot? = some ((g.run w [asked]).slot 0) := by decide +kernel
  have same : page.url = again.url := by decide +kernel
  have rooted : page.Rooted := ⟨by decide +kernel, by decide +kernel, by decide +kernel⟩
  have rooted' : again.Rooted := ⟨by decide +kernel, by decide +kernel, by decide +kernel⟩
  obtain ⟨-, run, others⟩ := address_leads_back page
  obtain ⟨iff, origin⟩ := others again same
  exact ⟨smallWorld_fresh none, arrives, held, same, rooted, rooted',
    run (smallWorld_fresh none) arrives held, iff, origin rooted rooted'⟩

/-- The address of a path that holds a `?` leads to another path, and to the request for that. -/
theorem address_leads_elsewhere :
    let page := smallRequest "/a?b" "" none
    let other := smallRequest "/a" "b" none
    (¬ ∀ q : Request, Text.begins "/" q.uri = true → q.AsksFor (.text q.url)) ∧
      Text.begins "/" page.uri = true ∧ other.AsksFor (.text page.url) ∧ page.url = other.url ∧
      ¬ (page.uri = other.uri ∧ page.query = other.query) := by
  intro page other
  have rooted : Text.begins "/" page.uri = true := by decide +kernel
  have here : ¬ page.AsksFor (.text page.url) := by
    rw [page.asksFor_url_iff]
    decide +kernel
  have same : page.url = other.url := by decide +kernel
  have there : other.AsksFor (.text page.url) := by
    rw [same, other.asksFor_url_iff]
    decide +kernel
  exact ⟨fun claim => here (claim page rooted), rooted, there, same, by decide +kernel⟩

end Gate
end LoginGate
