/-
# The segments of a token

A token is read from the text that carries it: three segments in base 64 with points between them,
the first two of which hold objects.  The alphabet of base 64 has no point, so that the segments of
a text are its own.

| segment | holds |
| --- | --- |
| the first | the header, which asks for nothing that is not known |
| the second | the claims |
| the third | the signature, any octets |
-/

import LoginGate.Proofs.Exchange
import LoginGate.Proofs.FormText

namespace LoginGate

/-! ## Base 64 -/

namespace Base64Url

variable {b : Octets} {s : String} {n : Nat}

/-- Each of the sixty-four digits has its own value. -/
theorem value?_digit (small : n < 64) : value? (digit n) = some n := by
  revert n
  decide

/-- No digit is the filling or the point between segments. -/
theorem digit_ne (small : n < 64) : digit n ≠ '=' ∧ digit n ≠ '.' := by
  revert n
  decide

/-- The bits of some octets in groups of six, the last one filled up with zeros. -/
def sextets : Octets → List Nat
  | [] => []
  | [a] => [a.toNat / 4, a.toNat % 4 * 16]
  | [a, b] => [a.toNat / 4, a.toNat % 4 * 16 + b.toNat / 16, b.toNat % 16 * 4]
  | a :: b :: c :: r =>
    a.toNat / 4 :: (a.toNat % 4 * 16 + b.toNat / 16) :: (b.toNat % 16 * 4 + c.toNat / 64) ::
      c.toNat % 64 :: sextets r

/-- How many characters fill so many up to whole groups of four. -/
def blanks (length : Nat) : Nat :=
  (4 - length % 4) % 4

/-- A whole group of four more needs no more filling. -/
@[simp] theorem blanks_add_four (length : Nat) :
    blanks (length + 1 + 1 + 1 + 1) = blanks length := by
  unfold blanks
  omega

/-- A group of six bits is below sixty-four. -/
theorem lt_of_mem_sextets (h : n ∈ sextets b) : n < 64 := by
  have small (a : UInt8) : a.toNat < 256 := a.toNat_lt
  fun_induction sextets b with
  | case1 => cases h
  | case2 a => grind
  | case3 a b => grind
  | case4 a b c r ih => grind

/-- The written form is that of the groups of six bits, and a filling. -/
theorem encode_eq (b : Octets) :
    encode b = (sextets b).map digit ++ List.replicate (blanks (sextets b).length) '=' := by
  fun_induction encode b with
  | case1 => rfl
  | case2 => rfl
  | case3 => rfl
  | case4 a b c r ih =>
    rw [ih]
    simp [sextets]

/-- The groups of a written form hold its octets, and zeros for the filling. -/
theorem groups?_encode (b : Octets) :
    groups? (encode b) =
      some (b.map UInt8.toNat ++ List.replicate (blanks (sextets b).length) 0) := by
  have small (a : UInt8) : a.toNat < 256 := a.toNat_lt
  have read {n : Nat} (h : n < 64) :
      (if digit n = '=' then some 0 else value? (digit n)) = some n := by
    rw [if_neg (digit_ne h).1, value?_digit h]
  fun_induction encode b with
  | case1 => rfl
  | case2 a =>
    have := small a
    rw [groups?]
    dsimp only
    rw [read (by omega), read (by omega)]
    simp [groups?, sextets, blanks, List.replicate]
    omega
  | case3 a b =>
    have := small a
    have := small b
    rw [groups?]
    dsimp only
    rw [read (by omega), read (by omega), read (by omega)]
    simp [groups?, sextets, blanks]
    omega
  | case4 a b c r ih =>
    have := small a
    have := small b
    have := small c
    rw [groups?]
    dsimp only
    rw [read (by omega), read (by omega), read (by omega), read (by omega), ih]
    simp [sextets]
    omega

/-- The written form without its filling. -/
def bare (b : Octets) : String :=
  String.ofList ((sextets b).map digit)

/-- What is written in digits holds neither the filling nor a point. -/
theorem not_mem_map_digit {l : List Nat} (small : ∀ n ∈ l, n < 64) :
    '=' ∉ l.map digit ∧ '.' ∉ l.map digit := by
  constructor <;> intro h <;> obtain ⟨n, hn, same⟩ := List.mem_map.1 h
  · exact (digit_ne (small n hn)).1 same
  · exact (digit_ne (small n hn)).2 same

/-- **What is written is read back,** also without its filling. -/
theorem decode?_bare (b : Octets) : decode? (bare b) = some b := by
  have clean := not_mem_map_digit (l := sextets b) fun _ h => lt_of_mem_sextets h
  have filled : fill (bare b).toList = encode b := by
    rw [bare, String.toList_ofList, fill, if_neg (by simpa using clean.1), encode_eq, blanks,
      List.length_map]
  have ends : ((encode b).reverse.takeWhile (· == '=')).length = blanks (sextets b).length := by
    have none : ∀ c ∈ ((sextets b).map digit).reverse, (c == '=') ≠ true := by
      intro c hc same
      exact clean.1 (eq_of_beq same ▸ List.mem_reverse.1 hc)
    have stops : ((sextets b).map digit).reverse.takeWhile (· == '=') = [] := by
      cases h : ((sextets b).map digit).reverse with
      | nil => rfl
      | cons c r => exact List.takeWhile_cons_of_neg (none c (h ▸ List.mem_cons_self))
    rw [encode_eq, List.reverse_append, List.reverse_replicate,
      List.takeWhile_append_of_pos fun c hc => by simpa using List.eq_of_mem_replicate hc, stops,
      List.append_nil, List.length_replicate]
  unfold decode?
  dsimp only
  rw [filled, groups?_encode]
  have back : (b.map UInt8.toNat).map UInt8.ofNat = b := by
    rw [List.map_map]
    exact List.map_id'' (fun a => UInt8.ofNat_toNat) b
  dsimp only
  rw [ends, List.length_append, List.length_replicate, Nat.add_sub_cancel, List.take_left, back,
    if_pos rfl]

/-- A text that is read has no point. -/
theorem point_not_mem_of_decode? (h : decode? s = some b) : '.' ∉ s.toList := by
  have clean := not_mem_map_digit (l := sextets b) fun _ h => lt_of_mem_sextets h
  have none : '.' ∉ encode b := by
    rw [encode_eq, List.mem_append, not_or]
    exact ⟨clean.2, fun filling => absurd (List.eq_of_mem_replicate filling) (by decide)⟩
  rw [encode_of_decode? h, fill] at none
  split at none
  · exact none
  · exact fun point => none (List.mem_append_left _ point)

end Base64Url

/-! ## Three segments -/

/-- A list is cut at its last mark: no mark stands behind it. -/
theorem Text.cutAtLast_eq_some_iff {α : Type} [DecidableEq α] {c : α} {l a b : List α} :
    cutAtLast c l = some (a, b) ↔ l = a ++ c :: b ∧ c ∉ b := by
  unfold cutAtLast
  constructor
  · intro h
    split at h
    · cases h
    · rename_i cut
      obtain ⟨rfl, rfl⟩ := Prod.mk.inj (Option.some.inj h)
      obtain ⟨whole, none⟩ := cutAt_eq_some cut
      refine ⟨?_, by simpa using none⟩
      rw [← List.reverse_reverse l, whole]
      simp
  · rintro ⟨rfl, none⟩
    have cut : cutAt c (a ++ c :: b).reverse = (b.reverse, some a.reverse) := by
      rw [List.reverse_append, List.reverse_cons, List.append_assoc]
      exact cutAt_append (by simpa using none) _
    rw [cut]
    simp

namespace IdToken

variable {depths : Depths} {text h p s : String} {header claims : Fields}

/-- **Three segments are told apart by two points,** of which the first and the last segment have
none. -/
theorem segments?_eq_some_iff : segments? text = some (h, p, s) ↔
    text = h ++ "." ++ p ++ "." ++ s ∧ '.' ∉ h.toList ∧ '.' ∉ s.toList := by
  have spelled : text = h ++ "." ++ p ++ "." ++ s ↔
      text.toList = (h.toList ++ '.' :: p.toList) ++ '.' :: s.toList := by
    rw [← String.toList_inj]
    simp
  rw [spelled, segments?]
  constructor
  · intro found
    split at found
    · cases found
    · rename_i cut
      obtain ⟨whole, last⟩ := Text.cutAtLast_eq_some_iff.1 cut
      split at found
      · cases found
      · rename_i cut'
        obtain ⟨front, first⟩ := Text.cutAt_eq_some cut'
        obtain ⟨rfl, rfl, rfl⟩ : _ ∧ _ ∧ _ := by simpa using found
        rw [whole, front]
        simpa using ⟨first, last⟩
  · rintro ⟨whole, first, last⟩
    rw [Text.cutAtLast_eq_some_iff.2 ⟨whole, last⟩]
    dsimp only
    rw [Text.cutAt_append first]
    simp

/-- A segment holds an object, nested no deeper than is read. -/
def Holds (depth : Nat) (segment : String) (fields : Fields) : Prop :=
  ∃ b, Base64Url.decode? segment = some b ∧ Json.ofOctets depth b = .ok (.object fields)

/-- A text carries a header and claims, and any signature. -/
inductive Carries (depths : Depths) : String → Fields → Fields → Prop
  | segments {h p s : String} {header claims : Fields} {signature : Octets}
      (first : Holds depths.header h header) (second : Holds depths.payload p claims)
      (third : Base64Url.decode? s = some signature) :
      Carries depths (h ++ "." ++ p ++ "." ++ s) header claims

/-- A header asks for nothing that is not known: its key id is a text, it calls nothing critical but
the encoding of the payload, and that is not taken away. -/
structure Usable (header : Fields) : Prop where
  keyId : ∀ v, Fields.get? "kid" header = some v → ∃ id, v = .text id
  critical : ∀ v, Fields.get? "crit" header = some v → ∃ l, v = .array l ∧ l ≠ [] ∧
    ∀ entry ∈ l, entry = .text plainName ∧ Fields.get? plainName header ≠ none
  encoded : Fields.get? plainName header ≠ some (.bool false)

/-- Octets are taken for an object where they write one. -/
theorem objectOf_eq_ok_iff {depth : Nat} {noJson : Json.ReadFault → IdTokenFault}
    {noObject : IdTokenFault} {b : Octets} :
    objectOf depth noJson noObject b = .ok claims ↔
      Json.ofOctets depth b = .ok (.object claims) := by
  unfold objectOf
  split <;> simp_all

/-- What is required is there. -/
theorem orFault_eq_ok_iff {α : Type} {fault : IdTokenFault} {x : Option α} {a : α} :
    orFault fault x = .ok a ↔ x = some a := by
  cases x <;> simp [orFault]

/-- The encoding of the payload is all that a header may call critical, and it must name it. -/
theorem checkCritical_eq_ok_iff {entry : Json} : checkCritical header entry = .ok () ↔
    entry = .text plainName ∧ Fields.get? plainName header ≠ none := by
  unfold checkCritical
  split
  · split
    · simp_all
    · split <;> simp_all
  · simp_all

/-- A header passes if its key id is a text and what it calls critical is known and named. -/
theorem checkHeader_eq_ok_iff : checkHeader header = .ok () ↔
    (∀ v, Fields.get? "kid" header = some v → ∃ id, v = .text id) ∧
      ∀ v, Fields.get? "crit" header = some v → ∃ l, v = .array l ∧ l ≠ [] ∧
        ∀ entry ∈ l, entry = .text plainName ∧ Fields.get? plainName header ≠ none := by
  have keyId : ((Fields.get? "kid" header).any fun v => v.asText?.isNone) = false ↔
      ∀ v, Fields.get? "kid" header = some v → ∃ id, v = .text id := by
    cases Fields.get? "kid" header with
    | none => simp
    | some v => cases v <;> simp [Json.asText?]
  rw [checkHeader, ← keyId]
  cases (Fields.get? "kid" header).any fun v => v.asText?.isNone with
  | true => simp [bind, Except.bind, throw, throwThe, MonadExceptOf.throw]
  | false =>
    cases crit : Fields.get? "crit" header with
    | none => simp [pure, Except.pure]
    | some v =>
      cases v with
      | array entries =>
        cases entries with
        | nil => simp [throw, throwThe, MonadExceptOf.throw]
        | cons entry entries =>
          have known : (entry :: entries).forM (checkCritical header) = .ok () ↔ _ := forM_eq_ok_iff
          simp only [checkCritical_eq_ok_iff] at known
          simpa using known
      | _ => simp [throw, throwThe, MonadExceptOf.throw]

/-- Where the payload is in base 64, it may stand in the token. -/
theorem checkPlain_eq_ok_iff : checkPlain header = .ok () ↔ isPlain header = false := by
  unfold checkPlain
  cases isPlain header with
  | true =>
    simp only [Bool.not_true, Bool.false_eq_true, if_false, reduceCtorEq, iff_false]
    split <;> nofun
  | false => simp

/-- The payload is encoded unless the header says that it is not. -/
theorem isPlain_eq_false_iff :
    isPlain header = false ↔ Fields.get? plainName header ≠ some (.bool false) := by
  simp [isPlain]

/-- **A token is read** exactly if it carries claims, and its header asks for nothing unknown. -/
theorem read_eq_ok_iff :
    read depths text = .ok claims ↔
      ∃ header, Carries depths text header claims ∧ Usable header := by
  constructor
  · intro h
    obtain ⟨⟨first, second, third⟩, parts, h⟩ := of_bind_eq_ok h
    obtain ⟨header, opened, h⟩ := of_bind_eq_ok h
    obtain ⟨octets, decoded, object⟩ := of_bind_eq_ok opened
    obtain ⟨_, -, h⟩ := of_bind_eq_ok h
    obtain ⟨payload, decoded', h⟩ := of_bind_eq_ok h
    obtain ⟨signature, decoded'', h⟩ := of_bind_eq_ok h
    obtain ⟨_, checked, h⟩ := of_bind_eq_ok h
    obtain ⟨_, plain, object'⟩ := of_bind_eq_ok h
    obtain ⟨rfl, -⟩ := segments?_eq_some_iff.1 (orFault_eq_ok_iff.1 parts)
    obtain ⟨keyId, critical⟩ := checkHeader_eq_ok_iff.1 checked
    refine ⟨header, .segments ⟨octets, orFault_eq_ok_iff.1 decoded, objectOf_eq_ok_iff.1 object⟩
      ⟨payload, orFault_eq_ok_iff.1 decoded', objectOf_eq_ok_iff.1 object'⟩
      (orFault_eq_ok_iff.1 decoded''), keyId, critical, ?_⟩
    exact isPlain_eq_false_iff.1 (checkPlain_eq_ok_iff.1 plain)
  · rintro ⟨header, carries, usable⟩
    cases carries with
    | @segments h p s _ _ _ first second third =>
      obtain ⟨octets, decoded, object⟩ := first
      obtain ⟨payload, decoded', object'⟩ := second
      have parts : segments? (h ++ "." ++ p ++ "." ++ s) = some (h, p, s) :=
        segments?_eq_some_iff.2 ⟨rfl, Base64Url.point_not_mem_of_decode? decoded,
          Base64Url.point_not_mem_of_decode? third⟩
      have plain := isPlain_eq_false_iff.2 usable.encoded
      have allowed : checkPayload header p = .ok () := by simp [checkPayload, plain]
      have checked := checkHeader_eq_ok_iff.2 ⟨usable.keyId, usable.critical⟩
      simp [read, parts, orFault, decoded, decoded', third, bind, Except.bind, allowed, checked,
        checkPlain_eq_ok_iff.2 plain, objectOf_eq_ok_iff.2 object, objectOf_eq_ok_iff.2 object']

/-- A header names nothing but the algorithm and the type. -/
def IsSimple (header : Fields) : Prop :=
  ∀ name, Fields.get? name header ≠ none → name = "alg" ∨ name = "typ"

/-- A header of algorithm and type asks for nothing else. -/
theorem IsSimple.usable (simple : IsSimple header) : Usable header := by
  have none {name : WideText} (other : name ≠ "alg" ∧ name ≠ "typ") :
      Fields.get? name header = none := by
    by_contra found
    exact (simple name found).elim other.1 other.2
  refine ⟨fun v h => ?_, fun v h => ?_, fun h => ?_⟩
  · cases (none ⟨by decide, by decide⟩).symm.trans h
  · cases (none ⟨by decide, by decide⟩).symm.trans h
  · cases (none ⟨by decide, by decide⟩).symm.trans h

/-- The text of a token with a header, a payload and a signature in octets. -/
def compact (header payload signature : Octets) : String :=
  Base64Url.bare header ++ "." ++ Base64Url.bare payload ++ "." ++ Base64Url.bare signature

/-- **Any header and any claims are carried** by the text that is made of them. -/
theorem carries_compact {h p : Octets} (signature : Octets)
    (first : Json.ofOctets depths.header h = .ok (.object header))
    (second : Json.ofOctets depths.payload p = .ok (.object claims)) :
    Carries depths (compact h p signature) header claims :=
  .segments ⟨h, Base64Url.decode?_bare h, first⟩ ⟨p, Base64Url.decode?_bare p, second⟩
    (Base64Url.decode?_bare signature)

end IdToken
end LoginGate
