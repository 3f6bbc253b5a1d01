/-
# The octets of a text write the text

A character is written in one to four octets.  The first octet says how many follow, every other one
carries six bits, and the stretches that cannot be read never begin where a character was written.

| code point | octets | theorem |
| --- | --- | --- |
| up to `7F` | 1 | `first_one` |
| up to `7FF` | 2 | `first_two` |
| up to `FFFF`, but no surrogate | 3 | `first_three` |
| up to `10FFFF` | 4 | `first_four` |
-/

import LoginGate.Text.Utf8
import Mathlib.Tactic.SplitIfs

namespace LoginGate
namespace Utf8

variable {n : Nat}

/-! ## Octets after the first -/

/-- An octet behind the first is `10` and six bits. -/
theorem toNat_tail (n : Nat) : (UInt8.ofNat (n % 64 + 128)).toNat = n % 64 + 128 := by
  rw [UInt8.toNat_ofNat']
  omega

/-- An octet behind the first is taken for one. -/
theorem isTail_tail (n : Nat) : isTail (UInt8.ofNat (n % 64 + 128)) = true := by
  simp only [isTail, Bool.and_eq_true, decide_eq_true_eq, UInt8.le_iff_toNat_le, toNat_tail,
    UInt8.reduceToNat]
  omega

/-- The six bits of an octet behind the first. -/
theorem low6_tail (n : Nat) : low6 (UInt8.ofNat (n % 64 + 128)) = n % 64 := by
  rw [low6, toNat_tail]
  omega

/-! ## The first octet -/

/-- One octet is read back. -/
theorem first_one (h : n ≤ 0x7F) (r : Octets) : first (UInt8.ofNat n) r = (scalar n, 0) := by
  have ha : (UInt8.ofNat n).toNat = n := by
    rw [UInt8.toNat_ofNat']
    omega
  have low : UInt8.ofNat n < 0x80 := by
    simp only [UInt8.lt_iff_toNat_lt, ha, UInt8.reduceToNat]
    omega
  simp only [first, if_pos low, ha]

/-- Two octets are read back. -/
theorem first_two (low : 0x7F < n) (high : n ≤ 0x7FF) (r : Octets) :
    first (UInt8.ofNat (n / 64 % 32 + 192)) (UInt8.ofNat (n % 64 + 128) :: r) = (scalar n, 1) := by
  have ha : (UInt8.ofNat (n / 64 % 32 + 192)).toNat = n / 64 % 32 + 192 := by
    rw [UInt8.toNat_ofNat']
    omega
  have same : (n / 64 % 32 + 192) % 32 * 64 + n % 64 = n := by omega
  simp only [first, UInt8.lt_iff_toNat_lt, UInt8.le_iff_toNat_le, UInt8.reduceToNat, ha,
    isTail_tail, low6_tail, same]
  rw [if_neg (by omega), if_pos (by omega), if_pos trivial]

/-- Three octets are read back, unless they write a surrogate. -/
theorem first_three (low : 0x7FF < n) (high : n ≤ 0xFFFF) (valid : n.isValidChar) (r : Octets) :
    first (UInt8.ofNat (n / 4096 % 16 + 224))
      (UInt8.ofNat (n / 64 % 64 + 128) :: UInt8.ofNat (n % 64 + 128) :: r) = (scalar n, 2) := by
  have ha : (UInt8.ofNat (n / 4096 % 16 + 224)).toNat = n / 4096 % 16 + 224 := by
    rw [UInt8.toNat_ofNat']
    omega
  have second : isSecond (UInt8.ofNat (n / 4096 % 16 + 224)) (UInt8.ofNat (n / 64 % 64 + 128)) =
      true := by
    simp only [isSecond, isTail_tail, Bool.true_and, ← UInt8.toNat_inj, UInt8.le_iff_toNat_le,
      toNat_tail, ha, UInt8.reduceToNat, Nat.isValidChar] at valid ⊢
    split_ifs <;> simp only [decide_eq_true_eq] <;> omega
  have same : (n / 4096 % 16 + 224) % 16 * 4096 + n / 64 % 64 * 64 + n % 64 = n := by omega
  simp only [first, UInt8.lt_iff_toNat_lt, UInt8.le_iff_toNat_le, UInt8.reduceToNat, ha, second,
    isTail_tail, low6_tail, same]
  rw [if_neg (by omega), if_neg (by omega), if_pos (by omega), if_pos trivial, if_pos trivial]

/-- Four octets are read back. -/
theorem first_four (low : 0xFFFF < n) (valid : n.isValidChar) (r : Octets) :
    first (UInt8.ofNat (n / 262144 % 8 + 240)) (UInt8.ofNat (n / 4096 % 64 + 128) ::
      UInt8.ofNat (n / 64 % 64 + 128) :: UInt8.ofNat (n % 64 + 128) :: r) = (scalar n, 3) := by
  have ha : (UInt8.ofNat (n / 262144 % 8 + 240)).toNat = n / 262144 % 8 + 240 := by
    rw [UInt8.toNat_ofNat']
    omega
  have below : n < 0x110000 := by
    simp only [Nat.isValidChar] at valid
    omega
  have second : isSecond (UInt8.ofNat (n / 262144 % 8 + 240)) (UInt8.ofNat (n / 4096 % 64 + 128)) =
      true := by
    simp only [isSecond, isTail_tail, Bool.true_and, ← UInt8.toNat_inj, UInt8.le_iff_toNat_le,
      toNat_tail, ha, UInt8.reduceToNat]
    split_ifs <;> simp only [decide_eq_true_eq] <;> omega
  have same : (n / 262144 % 8 + 240) % 8 * 262144 + n / 4096 % 64 * 4096 + n / 64 % 64 * 64 +
      n % 64 = n := by omega
  simp only [first, UInt8.lt_iff_toNat_lt, UInt8.le_iff_toNat_le, UInt8.reduceToNat, ha, second,
    isTail_tail, low6_tail, same]
  rw [if_neg (by omega), if_neg (by omega), if_neg (by omega), if_pos (by omega), if_pos trivial,
    if_pos trivial, if_pos trivial]

/-! ## Texts -/

/-- The octets of a character are one piece. -/
theorem pieces_encodeChar (c : Char) (r : Octets) :
    pieces (String.utf8EncodeChar c ++ r) = some c :: pieces r := by
  have whole : scalar c.val.toNat = some c := congrArg some (Char.ofNat_toNat c)
  have valid : c.val.toNat.isValidChar := c.valid
  rw [String.utf8EncodeChar]
  generalize c.val.toNat = n at whole valid
  split_ifs with one two three
  · rw [List.singleton_append, pieces, first_one one, whole, List.drop_zero]
  · rw [List.cons_append, List.singleton_append, pieces, first_two (by omega) two, whole]
    rfl
  · rw [List.cons_append, List.cons_append, List.singleton_append, pieces,
      first_three (by omega) three valid, whole]
    rfl
  · rw [List.cons_append, List.cons_append, List.cons_append, List.singleton_append, pieces,
      first_four (by omega) valid, whole]
    rfl

/-- **The octets of characters are read as these characters,** one piece to each. -/
theorem pieces_flatMap (cs : List Char) :
    pieces (cs.flatMap String.utf8EncodeChar) = cs.map some := by
  induction cs with
  | nil => rw [List.flatMap_nil, pieces, List.map_nil]
  | cons c cs ih => rw [List.flatMap_cons, pieces_encodeChar, ih, List.map_cons]

/-- **The octets of a text write the text.** -/
theorem decodeLossy_encode (s : String) : decodeLossy (encode s) = s := by
  rw [decodeLossy, encode, pieces_flatMap, List.map_map]
  simp [Function.comp_def]

end Utf8
end LoginGate
