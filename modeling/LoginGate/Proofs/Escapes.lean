/-
# Texts that hold no escape

An escape is a `%` with two hexadecimal digits behind it.  Resolving the escapes of a text costs two
characters for each of them, or more: the octets that they stand for are read as characters again,
and no octet makes more than one.  So a text stays as it is exactly if it holds no escape.

| the text | resolved | theorem |
| --- | --- | --- |
| any | is no longer than before | `length_decode_le` |
| holds an escape | is shorter | `length_pieces_add` |
| holds none | is the same | `decode_eq_self_iff` |
-/

import LoginGate.Proofs.FormText

namespace LoginGate
namespace Utf8

variable {a b : UInt8} {r : Octets}

/-! ## How many pieces there are -/

/-- An octet that can only follow others is no character by itself. -/
theorem pieces_of_isTail (h : isTail b = true) (r : Octets) :
    pieces (b :: r) = none :: pieces r := by
  simp only [isTail, Bool.and_eq_true, decide_eq_true_eq, UInt8.le_iff_toNat_le,
    UInt8.reduceToNat] at h
  have alone : first b r = (none, 0) := by
    simp only [first, UInt8.lt_iff_toNat_lt, UInt8.le_iff_toNat_le, UInt8.reduceToNat]
    rw [if_neg (by omega), if_neg (by omega), if_neg (by omega), if_neg (by omega)]
  rw [pieces, alone, List.drop_zero]

/-- An octet that may come second is one that carries six bits. -/
theorem isTail_of_isSecond (h : isSecond a b = true) : isTail b = true := by
  rw [isSecond, Bool.and_eq_true] at h
  exact h.1

/-- What belongs to a first octet can only follow others. -/
theorem isTail_of_mem_take_first (a : UInt8) (r : Octets) :
    ∀ b ∈ r.take (first a r).2, isTail b = true := by
  fun_cases first a r <;> simp_all
  -- What is left is the second octet of a longer character.
  all_goals exact isTail_of_isSecond (a := a) ‹_›

/-- Leaving out octets that can only follow others leaves out pieces. -/
theorem length_pieces_drop {k : Nat} (h : ∀ b ∈ r.take k, isTail b = true) :
    (pieces (r.drop k)).length ≤ (pieces r).length := by
  induction k generalizing r with
  | zero => exact Nat.le_refl _
  | succ k ih =>
    cases r with
    | nil => exact Nat.le_refl _
    | cons b r =>
      rw [List.take_succ_cons, List.forall_mem_cons] at h
      rw [pieces_of_isTail h.1, List.length_cons, List.drop_succ_cons]
      have rest := ih h.2
      omega

/-- **One octet more is one piece more at most.** -/
theorem length_pieces_cons (a : UInt8) (r : Octets) :
    (pieces (a :: r)).length ≤ (pieces r).length + 1 := by
  rw [pieces, List.length_cons]
  have rest : (pieces (r.drop (first a r).2)).length ≤ (pieces r).length :=
    length_pieces_drop (isTail_of_mem_take_first a r)
  omega

end Utf8

namespace Percent

variable {c : Char} {b : UInt8} {cs : List Char} {r : Octets}

/-! ## Escapes in a text -/

/-- The text begins with an escape. -/
def beginsEscape : List Char → Bool
  | '%' :: x :: y :: _ => (hexValue? x).isSome && (hexValue? y).isSome
  | _ => false

/-- The text holds an escape. -/
def hasEscape : List Char → Bool
  | [] => false
  | c :: cs => beginsEscape (c :: cs) || hasEscape cs

/-- The octets of a text. -/
abbrev octets (cs : List Char) : Octets :=
  cs.flatMap String.utf8EncodeChar

/-- An escape begins with a percent sign. -/
theorem eq_percent_of_beginsEscape (h : beginsEscape (c :: cs) = true) : c = '%' := by
  unfold beginsEscape at h
  split at h
  · rename_i same
    exact (List.cons.inj same).1
  · cases h

/-- Hexadecimal digits are octets of their own. -/
theorem lt_of_hexValue? (h : (hexValue? c).isSome = true) : c.toNat < 0x80 := by
  unfold hexValue? at h
  dsimp only at h
  split_ifs at h
  · omega
  · omega
  · omega
  · cases h

/-- The octets of a character beyond the first 128 lie beyond them too. -/
theorem le_of_mem_encodeChar (high : 0x80 ≤ c.toNat) (h : b ∈ String.utf8EncodeChar c) :
    0x80 ≤ b.toNat := by
  have high : 0x80 ≤ c.val.toNat := high
  unfold String.utf8EncodeChar at h
  dsimp only at h
  generalize c.val.toNat = n at h high
  split_ifs at h with one two three
  · omega
  · simp only [List.mem_cons, List.not_mem_nil, or_false] at h
    obtain rfl | rfl := h <;> rw [UInt8.toNat_ofNat'] <;> omega
  · simp only [List.mem_cons, List.not_mem_nil, or_false] at h
    obtain rfl | rfl | rfl := h <;> rw [UInt8.toNat_ofNat'] <;> omega
  · simp only [List.mem_cons, List.not_mem_nil, or_false] at h
    obtain rfl | rfl | rfl | rfl := h <;> rw [UInt8.toNat_ofNat'] <;> omega

/-- Every character has an octet. -/
theorem encodeChar_ne_nil (c : Char) : String.utf8EncodeChar c ≠ [] := by
  unfold String.utf8EncodeChar
  dsimp only
  split_ifs <;> exact List.cons_ne_nil _ _

/-- No octet of another character is a `%`. -/
theorem percent_not_mem_encodeChar (h : c ≠ '%') : (0x25 : UInt8) ∉ String.utf8EncodeChar c := by
  intro mem
  rcases Nat.lt_or_ge c.toNat 0x80 with low | high
  · rw [Form.encodeChar_of_lt low, List.mem_singleton] at mem
    have same : (0x25 : Nat) = c.toNat := by
      have := congrArg UInt8.toNat mem
      rw [UInt8.toNat_ofNat'] at this
      simp only [UInt8.reduceToNat] at this
      omega
    exact h (Char.ext (UInt32.toNat_inj.1 same.symm))
  · exact absurd (le_of_mem_encodeChar high mem) (by decide)

/-- An octet below 128 at the front of a text is its first character. -/
theorem eq_cons_of_octets (h : octets cs = b :: r) (low : b.toNat < 0x80) :
    ∃ cs', cs = char b :: cs' ∧ octets cs' = r := by
  cases cs with
  | nil => cases h
  | cons c cs =>
    rw [octets, List.flatMap_cons] at h
    rcases Nat.lt_or_ge c.toNat 0x80 with small | high
    · rw [Form.encodeChar_of_lt small, List.singleton_append] at h
      obtain ⟨rfl, rest⟩ := List.cons.inj h
      refine ⟨cs, ?_, rest⟩
      have same : (UInt8.ofNat c.toNat).toNat = c.toNat := by
        rw [UInt8.toNat_ofNat']
        omega
      rw [char, same, Char.ofNat_toNat]
    · obtain ⟨a, as, split⟩ := List.exists_cons_of_ne_nil (encodeChar_ne_nil c)
      rw [split, List.cons_append] at h
      obtain ⟨rfl, -⟩ := List.cons.inj h
      have := le_of_mem_encodeChar high (split ▸ List.mem_cons_self)
      omega

/-! ## Resolving escapes -/

/-- Octets without a percent sign stand for themselves, whatever follows. -/
theorem decodeOctets_append {a : Octets} (h : (0x25 : UInt8) ∉ a) (r : Octets) :
    decodeOctets (a ++ r) = a ++ decodeOctets r := by
  induction a with
  | nil => rfl
  | cons b a ih =>
    rw [List.mem_cons, not_or] at h
    rw [List.cons_append, decodeOctets_cons (Ne.symm h.1), ih h.2, List.cons_append]

/-- The percent sign is one octet. -/
theorem octets_percent (cs : List Char) : octets ('%' :: cs) = 0x25 :: octets cs := rfl

/-- Another character than `%` is read as it is. -/
theorem decodeOctets_of_ne (h : c ≠ '%') (cs : List Char) :
    decodeOctets (octets (c :: cs)) = String.utf8EncodeChar c ++ decodeOctets (octets cs) := by
  rw [octets, List.flatMap_cons, decodeOctets_append (percent_not_mem_encodeChar h)]

/-- A `%` that two digits do not follow is read as it is. -/
theorem decodeOctets_of_not_beginsEscape (h : beginsEscape ('%' :: cs) = false) :
    decodeOctets (octets ('%' :: cs)) = 0x25 :: decodeOctets (octets cs) := by
  rw [octets_percent]
  match found : octets cs with
  | [] => rfl
  | [_] => rfl
  | b :: d :: r =>
    suffices none : octet? b d = none by
      rw [decodeOctets, unescape?, if_pos rfl, none]
    cases first : hexValue? (char b) with
    | none => rw [octet?, first]
    | some x =>
      cases second : hexValue? (char d) with
      | none => rw [octet?, first, second]
      | some y =>
        -- Both octets are digits, so they are the next two characters.
        have hb := lt_of_hexValue? (c := char b) (by rw [first]; rfl)
        have hd := lt_of_hexValue? (c := char d) (by rw [second]; rfl)
        rw [char_toNat] at hb hd
        obtain ⟨cs', rfl, rest⟩ := eq_cons_of_octets found hb
        obtain ⟨cs'', rfl, -⟩ := eq_cons_of_octets rest hd
        rw [beginsEscape, first, second] at h
        cases h

/-- An escape is read as one octet. -/
theorem decodeOctets_of_beginsEscape (h : beginsEscape ('%' :: cs) = true) :
    ∃ x y cs' o, cs = x :: y :: cs' ∧
      decodeOctets (octets ('%' :: cs)) = o :: decodeOctets (octets cs') := by
  unfold beginsEscape at h
  split at h
  · rename_i x y cs' same
    obtain rfl := (List.cons.inj same).2
    rw [Bool.and_eq_true] at h
    obtain ⟨⟨m, hx⟩, n, hy⟩ := And.imp Option.isSome_iff_exists.1 Option.isSome_iff_exists.1 h
    have lowX := lt_of_hexValue? h.1
    have lowY := lt_of_hexValue? h.2
    have back : ∀ {z : Char}, z.toNat < 0x80 → char (UInt8.ofNat z.toNat) = z := by
      intro z low
      have same : (UInt8.ofNat z.toNat).toNat = z.toNat := by
        rw [UInt8.toNat_ofNat']
        omega
      rw [char, same, Char.ofNat_toNat]
    refine ⟨x, y, cs', UInt8.ofNat (16 * m + n), rfl, ?_⟩
    rw [octets_percent, octets, List.flatMap_cons, List.flatMap_cons, Form.encodeChar_of_lt lowX,
      Form.encodeChar_of_lt lowY, List.singleton_append, List.singleton_append, decodeOctets,
      unescape?, if_pos rfl, octet?, back lowX, back lowY, hx, hy]
  · cases h

/-- **Resolving escapes shortens a text that holds one,** and makes no text longer. -/
theorem length_pieces_add (cs : List Char) :
    (Utf8.pieces (decodeOctets (octets cs))).length + (hasEscape cs).toNat ≤ cs.length := by
  match cs with
  | [] => simp [octets, decodeOctets, Utf8.pieces, hasEscape]
  | c :: cs =>
    have rest := length_pieces_add cs
    by_cases percent : c = '%'
    · subst percent
      cases begins : beginsEscape ('%' :: cs) with
      | false =>
        rw [decodeOctets_of_not_beginsEscape begins, Utf8.pieces_cons_of_lt (by decide), hasEscape,
          begins, Bool.false_or, List.length_cons, List.length_cons]
        omega
      | true =>
        obtain ⟨x, y, cs', o, rfl, resolved⟩ := decodeOctets_of_beginsEscape begins
        have more := Utf8.length_pieces_cons o (decodeOctets (octets cs'))
        have below := length_pieces_add cs'
        have one := Bool.toNat_le (hasEscape ('%' :: x :: y :: cs'))
        rw [resolved, List.length_cons, List.length_cons, List.length_cons]
        omega
    · have begins : beginsEscape (c :: cs) = false :=
        Bool.eq_false_iff.2 fun h => percent (eq_percent_of_beginsEscape h)
      rw [decodeOctets_of_ne percent, Utf8.pieces_encodeChar, hasEscape, begins, Bool.false_or,
        List.length_cons, List.length_cons]
      omega
termination_by cs.length

/-- The octets of a text without an escape stand for themselves. -/
theorem decodeOctets_of_not_hasEscape (h : hasEscape cs = false) :
    decodeOctets (octets cs) = octets cs := by
  induction cs with
  | nil => rfl
  | cons c cs ih =>
    rw [hasEscape, Bool.or_eq_false_iff] at h
    by_cases percent : c = '%'
    · subst percent
      rw [decodeOctets_of_not_beginsEscape h.1, ih h.2, octets_percent]
    · rw [decodeOctets_of_ne percent, ih h.2, octets, octets, List.flatMap_cons]

/-- A resolved text has one character for each piece that its octets are read in. -/
theorem length_toList_decode (s : String) :
    (decode s).toList.length = (Utf8.pieces (decodeOctets (octets s.toList))).length := by
  rw [decode, Utf8.decodeLossy, String.toList_ofList, List.length_map, Utf8.encode]

/-- **A text is no longer when its escapes are resolved.** -/
theorem length_decode_le (s : String) : (decode s).toList.length ≤ s.toList.length := by
  have bound := length_pieces_add s.toList
  rw [length_toList_decode]
  omega

/-- **A text stays as it is when its escapes are resolved, exactly if it holds none.** -/
theorem decode_eq_self_iff (s : String) : decode s = s ↔ hasEscape s.toList = false := by
  constructor
  · intro same
    have bound := length_pieces_add s.toList
    have length := length_toList_decode s
    rw [same] at length
    cases found : hasEscape s.toList with
    | false => rfl
    | true =>
      rw [found, Bool.toNat_true] at bound
      omega
  · intro none
    rw [decode, Utf8.encode, decodeOctets_of_not_hasEscape none]
    exact Utf8.decodeLossy_encode s

end Percent
end LoginGate
