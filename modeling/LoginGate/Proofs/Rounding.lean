/-
# Rounding keeps the order

A sum of doubles is rounded, and times are such sums.  Of two quotients the larger one is never
rounded to the smaller double, so that a later time and a span make no earlier sum.

| relation | says |
| --- | --- |
| `IsNearest y m` | `m` is the whole number nearest to `y`, the even one where there are two |
| `RoundsAt x m e` | `m · 2^e` is `x` rounded to 53 binary digits, or to fewer where `e` is least |
| `IsAbove x q` | the double `x` is above the quotient `q` |
| `Reaches x y` | the double `y` is above all that `x` is above |
| `IsWhole x z` | the double `x` is the whole number `z` |
-/

import LoginGate.Instant
import Mathlib.Algebra.Order.Field.Power
import Mathlib.Data.Rat.Cast.Order
import Mathlib.Tactic.FieldSimp
import Mathlib.Tactic.Linarith
import Mathlib.Tactic.Positivity
import Mathlib.Tactic.Ring

namespace LoginGate
namespace Double

/-! ## Whole numbers -/

/-- The whole number is nearest to the quotient, and even where two are. -/
structure IsNearest (y : ℚ) (m : ℕ) : Prop where
  lower : (m : ℚ) - 1 / 2 ≤ y
  upper : y ≤ m + 1 / 2
  even : y = m - 1 / 2 ∨ y = m + 1 / 2 → m % 2 = 0

variable {x y z : ℚ} {m k : ℕ} {e f : ℤ}

/-- Nearest whole numbers are in the order of what they are nearest to: a tie goes to the even one
in both. -/
theorem IsNearest.mono (h : IsNearest y m) (h' : IsNearest z k) (le : y ≤ z) : m ≤ k := by
  by_contra! more
  have lower := h.lower
  have upper := h'.upper
  have step : (k : ℚ) + 1 ≤ m := by exact_mod_cast more
  -- Both are halfway between the same two whole numbers, which are not both even.
  have first := h.even (.inl (by linarith))
  have second := h'.even (.inr (by linarith))
  have next : m = k + 1 := by
    have : (m : ℚ) = k + 1 := by linarith
    exact_mod_cast this
  omega

/-- A whole number is nearest to itself. -/
theorem isNearest_natCast (m : ℕ) : IsNearest m m :=
  ⟨by linarith, by linarith, by rintro (half | half) <;> linarith⟩

/-- Rounding half to even finds the nearest whole number. -/
theorem isNearest_roundHalfEven (n : ℕ) {d : ℕ} (pos : 0 < d) :
    IsNearest (n / d) (roundHalfEven n d) := by
  have pos' : (0 : ℚ) < d := by exact_mod_cast pos
  obtain ⟨t, ht⟩ : ∃ t : ℚ, t = (n % d : ℕ) / d := ⟨_, rfl⟩
  have whole : (n : ℚ) / d = (n / d : ℕ) + t := by
    rw [ht, div_eq_iff pos'.ne', add_mul, div_mul_cancel₀ _ pos'.ne']
    exact_mod_cast (Nat.div_add_mod' n d).symm
  have start : 0 ≤ t := ht ▸ by positivity
  have ends : t < 1 := by
    rw [ht, div_lt_one pos']
    exact_mod_cast Nat.mod_lt n pos
  have below : 2 * (n % d) < d ↔ t < 1 / 2 := by
    rw [ht, div_lt_div_iff₀ pos' two_pos]
    norm_cast
    omega
  have above : d < 2 * (n % d) ↔ 1 / 2 < t := by
    rw [ht, div_lt_div_iff₀ two_pos pos']
    norm_cast
    omega
  have next : ((n / d + 1 : ℕ) : ℚ) = (n / d : ℕ) + 1 := Nat.cast_succ _
  rw [whole]
  unfold roundHalfEven
  dsimp only
  split
  · rename_i less
    have less := below.1 less
    exact ⟨by linarith, by linarith, by rintro (half | half) <;> linarith⟩
  · rename_i notLess
    have notLess := mt below.2 notLess
    split
    · rename_i more
      have more := above.1 more
      exact ⟨by linarith, by linarith, by rintro (half | half) <;> linarith⟩
    · rename_i notMore
      have notMore := mt above.2 notMore
      split
      · rename_i even
        exact ⟨by linarith, by linarith, fun _ => even⟩
      · exact ⟨by linarith, by linarith, fun _ => by omega⟩

/-! ## Binary digits -/

/-- The quotient, rounded to whole multiples of a power of two, with 53 binary digits unless the
exponent is the least. -/
structure RoundsAt (x : ℚ) (m : ℕ) (e : ℤ) : Prop where
  least : -1074 ≤ e
  below : x < 2 ^ 53 * 2 ^ e
  full : -1074 < e → 2 ^ 52 * 2 ^ e ≤ x
  nearest : IsNearest (x / 2 ^ e) m

/-- A significand has 53 binary digits, or is the power of two that follows. -/
theorem RoundsAt.le_limit (h : RoundsAt x m e) : m ≤ 2 ^ 53 := by
  refine h.nearest.mono (isNearest_natCast (2 ^ 53)) ?_
  rw [div_le_iff₀ (by positivity)]
  exact_mod_cast h.below.le

/-- Above the least exponent a significand has 53 binary digits. -/
theorem RoundsAt.half_le (h : RoundsAt x m e) (large : -1074 < e) : 2 ^ 52 ≤ m := by
  refine (isNearest_natCast (2 ^ 52)).mono h.nearest ?_
  rw [le_div_iff₀ (by positivity)]
  exact_mod_cast h.full large

/-- **Rounding keeps the order.** -/
theorem RoundsAt.mono (h : RoundsAt x m e) (h' : RoundsAt y k f) (le : x ≤ y) :
    (m : ℚ) * 2 ^ e ≤ k * 2 ^ f := by
  have power : ∀ {i j : ℤ}, i < j → (2 : ℚ) * 2 ^ i ≤ 2 ^ j := by
    intro i j less
    rw [← zpow_one_add₀ two_ne_zero]
    exact zpow_le_zpow_right₀ one_le_two (by omega)
  obtain less | rfl | more := lt_trichotomy e f
  · have first : (m : ℚ) ≤ 2 ^ 53 := by exact_mod_cast h.le_limit
    have second : (2 : ℚ) ^ 52 ≤ k := by exact_mod_cast h'.half_le (h.least.trans_lt less)
    calc (m : ℚ) * 2 ^ e ≤ 2 ^ 53 * 2 ^ e := by gcongr
      _ = 2 ^ 52 * (2 * 2 ^ e) := by ring
      _ ≤ 2 ^ 52 * 2 ^ f := by gcongr; exact power less
      _ ≤ k * 2 ^ f := by gcongr
  · have small : (m : ℚ) ≤ k := by
      exact_mod_cast h.nearest.mono h'.nearest (by gcongr)
    gcongr
  · have full := h.full (h'.least.trans_lt more)
    have below := h'.below
    have less : (2 : ℚ) ^ 53 * 2 ^ f ≤ 2 ^ 52 * 2 ^ e := by
      calc (2 : ℚ) ^ 53 * 2 ^ f = 2 ^ 52 * (2 * 2 ^ f) := by ring
        _ ≤ 2 ^ 52 * 2 ^ e := by gcongr; exact power more
    linarith

/-! ## Rounding a quotient -/

/-- The exponents of powers of two add up. -/
theorem pow_mul_zpow (i : ℕ) (e : ℤ) : (2 : ℚ) ^ i * 2 ^ e = 2 ^ (e + i) := by
  rw [zpow_add₀ two_ne_zero, zpow_natCast, mul_comm]

/-- A scaled quotient is the quotient by the power of two. -/
theorem scaled_div (n d : ℕ) (e : ℤ) :
    ((scaled n d e).1 : ℚ) / (scaled n d e).2 = n / d / 2 ^ e := by
  unfold scaled
  split
  · rename_i up
    obtain ⟨k, rfl⟩ := Int.eq_ofNat_of_zero_le up
    rw [Int.toNat_natCast, zpow_natCast, Nat.cast_mul, div_div]
    exact_mod_cast rfl
  · obtain ⟨k, rfl⟩ : ∃ k : ℕ, e = -k := ⟨(-e).toNat, by omega⟩
    rw [neg_neg, Int.toNat_natCast, zpow_neg, zpow_natCast, div_inv_eq_mul, Nat.cast_mul,
      mul_div_right_comm]
    exact_mod_cast rfl

/-- The denominator stays positive when it is scaled. -/
theorem scaled_pos {d : ℕ} (n : ℕ) (pos : 0 < d) (e : ℤ) : 0 < (scaled n d e).2 := by
  unfold scaled
  split
  · exact Nat.mul_pos pos (Nat.pow_pos two_pos)
  · exact pos

/-- The double of a rounded quotient: a carry raises the exponent, and there are none for those that
are too large. -/
def pack (negative : Bool) (m : ℕ) (e : ℤ) : Double :=
  let (m, e) := if m = limit then (limit / 2, e + 1) else (m, e)
  if 971 < e then .infinite negative else .finite negative m e

/-- The quotient of two numbers is between the powers of two that the quotient of their lengths
gives. -/
theorem log2_bounds {n d : ℕ} (filled : n ≠ 0) (pos : 0 < d) :
    (2 : ℚ) ^ ((n.log2 : ℤ) - d.log2 - 1) < n / d ∧
      (n : ℚ) / d < 2 ^ ((n.log2 : ℤ) - d.log2 + 1) := by
  have pos' : (0 : ℚ) < d := by exact_mod_cast pos
  have bounds : ∀ {k : ℕ}, k ≠ 0 →
      (2 : ℚ) ^ (k.log2 : ℤ) ≤ k ∧ (k : ℚ) < 2 ^ (k.log2 : ℤ) * 2 := by
    intro k hk
    rw [zpow_natCast, ← pow_succ]
    exact ⟨by exact_mod_cast Nat.log2_self_le hk, by exact_mod_cast Nat.lt_log2_self⟩
  obtain ⟨nLower, nUpper⟩ := bounds filled
  obtain ⟨dLower, dUpper⟩ := bounds pos.ne'
  have power : (0 : ℚ) < 2 ^ (d.log2 : ℤ) := by positivity
  constructor
  · rw [lt_div_iff₀ pos', sub_sub, zpow_sub₀ two_ne_zero, zpow_add_one₀ two_ne_zero,
      div_mul_eq_mul_div, div_lt_iff₀ (by positivity)]
    calc (2 : ℚ) ^ (n.log2 : ℤ) * d < 2 ^ (n.log2 : ℤ) * (2 ^ (d.log2 : ℤ) * 2) := by gcongr
      _ ≤ n * (2 ^ (d.log2 : ℤ) * 2) := by gcongr
  · rw [div_lt_iff₀ pos', zpow_add_one₀ two_ne_zero, zpow_sub₀ two_ne_zero, div_mul_eq_mul_div,
      div_mul_eq_mul_div, lt_div_iff₀ power]
    calc (n : ℚ) * 2 ^ (d.log2 : ℤ) < 2 ^ (n.log2 : ℤ) * 2 * 2 ^ (d.log2 : ℤ) := by gcongr
      _ ≤ 2 ^ (n.log2 : ℤ) * 2 * d := by gcongr

/-- The exponent that the lengths of two numbers give for their quotient, one too small for some. -/
def roughExponent (n d : ℕ) : ℤ :=
  max (-1074) ((n.log2 : ℤ) - d.log2 - 53)

/-- The quotient has more digits than a significand at the rough exponent. -/
def Overflows (n d : ℕ) : Prop :=
  limit ≤ (scaled n d (roughExponent n d)).1 / (scaled n d (roughExponent n d)).2

instance (n d : ℕ) : Decidable (Overflows n d) :=
  inferInstanceAs (Decidable (_ ≤ _))

/-- The exponent that a quotient is rounded at. -/
def exponentOf (n d : ℕ) : ℤ :=
  if Overflows n d then roughExponent n d + 1 else roughExponent n d

/-- The rough exponent is one too small exactly where the quotient reaches 53 digits above it. -/
theorem overflows_iff (n : ℕ) {d : ℕ} (pos : 0 < d) :
    Overflows n d ↔ 2 ^ 53 * (2 : ℚ) ^ roughExponent n d ≤ n / d := by
  have pos₀ := scaled_pos n pos (roughExponent n d)
  have pos₁ : (0 : ℚ) < (scaled n d (roughExponent n d)).2 := by exact_mod_cast pos₀
  rw [Overflows, Nat.le_div_iff_mul_le pos₀, ← le_div_iff₀ (by positivity), ← scaled_div,
    le_div_iff₀ pos₁]
  exact_mod_cast Iff.rfl

/-- A quotient is rounded at its exponent. -/
theorem roundsAt_exponentOf {n d : ℕ} (filled : n ≠ 0) (pos : 0 < d) :
    RoundsAt (n / d)
      (roundHalfEven (scaled n d (exponentOf n d)).1 (scaled n d (exponentOf n d)).2)
      (exponentOf n d) := by
  obtain ⟨lower, upper⟩ := log2_bounds filled pos
  have nearest := isNearest_roundHalfEven (scaled n d (exponentOf n d)).1
    (scaled_pos n pos (exponentOf n d))
  rw [scaled_div] at nearest
  have rough : roughExponent n d = max (-1074) ((n.log2 : ℤ) - d.log2 - 53) := rfl
  by_cases more : Overflows n d
  · have up : exponentOf n d = roughExponent n d + 1 := if_pos more
    have reach := (overflows_iff n pos).1 more
    rw [pow_mul_zpow] at reach
    refine ⟨by omega, ?_, fun _ => ?_, nearest⟩
    · rw [pow_mul_zpow]
      exact upper.trans_le (zpow_le_zpow_right₀ one_le_two (by omega))
    · rw [pow_mul_zpow]
      exact (zpow_le_zpow_right₀ one_le_two (by omega)).trans reach
  · have same : exponentOf n d = roughExponent n d := if_neg more
    have below := not_le.1 (mt (overflows_iff n pos).2 more)
    refine ⟨by omega, same ▸ below, fun normal => ?_, nearest⟩
    rw [pow_mul_zpow]
    exact (zpow_le_zpow_right₀ one_le_two (by omega)).trans lower.le

/-- **The nearest double** is packed from the rounded quotient. -/
theorem exists_roundsAt (negative : Bool) (n : ℕ) {d : ℕ} (pos : 0 < d) :
    ∃ m e, RoundsAt (n / d) m e ∧ nearest negative n d = pack negative m e := by
  by_cases filled : n = 0
  · subst filled
    refine ⟨0, -1074, ⟨le_rfl, by simp, by simp, ?_⟩, rfl⟩
    simpa using isNearest_natCast 0
  · refine ⟨_, _, roundsAt_exponentOf filled pos, ?_⟩
    rw [nearest, if_neg filled]
    rfl

/-! ## The order of doubles -/

/-- The double is above the quotient; one that is no number is above nothing. -/
def IsAbove (x : Double) (q : ℚ) : Prop :=
  match x with
  | .nan => False
  | .infinite negative => negative = false
  | .finite negative m e => q < (if negative then -1 else 1) * (m * 2 ^ e)

/-- The second double is above all that the first one is above. -/
def Reaches (x y : Double) : Prop :=
  ∀ q, x.IsAbove q → y.IsAbove q

/-- A rounded quotient is too large for a double from `2^1024` on. -/
theorem RoundsAt.exponent_lt_iff (h : RoundsAt x m e) :
    971 < (if m = limit then e + 1 else e) ↔ (2 : ℚ) ^ (1024 : ℤ) ≤ m * 2 ^ e := by
  by_cases carry : m = limit
  · have power : (m : ℚ) = 2 ^ 53 := by rw [carry]; exact_mod_cast rfl
    rw [if_pos carry, power, pow_mul_zpow, zpow_le_zpow_iff_right₀ one_lt_two]
    push_cast
    omega
  · rw [if_neg carry]
    constructor
    · intro large
      have half : (2 : ℚ) ^ 52 ≤ m := by exact_mod_cast h.half_le (by omega)
      calc (2 : ℚ) ^ (1024 : ℤ) ≤ 2 ^ (e + (52 : ℕ)) := zpow_le_zpow_right₀ one_le_two (by omega)
        _ = 2 ^ 52 * 2 ^ e := (pow_mul_zpow 52 e).symm
        _ ≤ m * 2 ^ e := by gcongr
    · contrapose!
      intro small
      have below : (m : ℚ) < 2 ^ 53 := by exact_mod_cast h.le_limit.lt_of_ne carry
      calc (m : ℚ) * 2 ^ e < 2 ^ 53 * 2 ^ e := by gcongr
        _ = 2 ^ (e + (53 : ℕ)) := pow_mul_zpow 53 e
        _ ≤ 2 ^ (1024 : ℤ) := zpow_le_zpow_right₀ one_le_two (by omega)

/-- A packed double is infinite, or has the value that was rounded to. -/
theorem RoundsAt.pack_cases (h : RoundsAt x m e) (negative : Bool) :
    (2 : ℚ) ^ (1024 : ℤ) ≤ m * 2 ^ e ∧ pack negative m e = .infinite negative ∨
      m * 2 ^ e < (2 : ℚ) ^ (1024 : ℤ) ∧ ∃ k f, pack negative m e = .finite negative k f ∧
        (k : ℚ) * 2 ^ f = m * 2 ^ e := by
  have iff := h.exponent_lt_iff
  unfold pack
  by_cases carry : m = limit
  · rw [if_pos carry] at iff ⊢
    by_cases large : 971 < e + 1
    · exact .inl ⟨iff.1 large, if_pos large⟩
    · refine .inr ⟨not_le.1 (mt iff.2 large), _, _, if_neg large, ?_⟩
      rw [carry, zpow_add_one₀ two_ne_zero, mul_comm ((2 : ℚ) ^ e), ← mul_assoc]
      congr 1
      exact_mod_cast rfl
  · rw [if_neg carry] at iff ⊢
    by_cases large : 971 < e
    · exact .inl ⟨iff.1 large, if_pos large⟩
    · exact .inr ⟨not_le.1 (mt iff.2 large), _, _, if_neg large, rfl⟩

/-- The double of a rounded quotient is above what the rounded quotient is above, and above
everything if it is too large. -/
theorem RoundsAt.isAbove_pack (h : RoundsAt x m e) {q : ℚ} :
    (pack false m e).IsAbove q ↔ (2 : ℚ) ^ (1024 : ℤ) ≤ m * 2 ^ e ∨ q < m * 2 ^ e := by
  obtain ⟨large, packed⟩ | ⟨small, k, f, packed, value⟩ := h.pack_cases false <;> rw [packed]
  · exact iff_of_true rfl (.inl large)
  · rw [IsAbove, value, if_neg Bool.false_ne_true, one_mul, or_iff_right (not_le.2 small)]

/-- The negative double of a rounded quotient is above what lies below it, and above nothing if it
is too large. -/
theorem RoundsAt.isAbove_pack_negative (h : RoundsAt x m e) {q : ℚ} :
    (pack true m e).IsAbove q ↔ m * 2 ^ e < (2 : ℚ) ^ (1024 : ℤ) ∧ q < -(m * 2 ^ e) := by
  obtain ⟨large, packed⟩ | ⟨small, k, f, packed, value⟩ := h.pack_cases true <;> rw [packed]
  · exact iff_of_false nofun fun both => not_lt.2 large both.1
  · rw [IsAbove, value, if_pos rfl, neg_one_mul, and_iff_right small]

/-- The double nearest to a quotient of a whole number. -/
def nearestTo (n : ℤ) (d : ℕ) : Double :=
  nearest (n < 0) n.natAbs d

/-- **The nearest doubles** of two quotients are in their order. -/
theorem nearestTo_reaches {n k : ℤ} {d c : ℕ} (pos : 0 < d) (pos' : 0 < c)
    (le : (n : ℚ) / d ≤ k / c) : (nearestTo n d).Reaches (nearestTo k c) := by
  intro q above
  obtain ⟨m, e, rounds, first⟩ := exists_roundsAt (n < 0) n.natAbs pos
  obtain ⟨l, f, rounds', second⟩ := exists_roundsAt (k < 0) k.natAbs pos'
  rw [nearestTo, first] at above
  rw [nearestTo, second]
  have magnitude : ∀ {n : ℤ} {d : ℕ}, (n.natAbs : ℚ) / d = |(n : ℚ) / d| := by
    intro n d
    rw [abs_div, Nat.abs_cast, Nat.cast_natAbs, Int.cast_abs]
  rw [magnitude] at rounds rounds'
  have positive : (0 : ℚ) ≤ m * 2 ^ e := by positivity
  have positive' : (0 : ℚ) ≤ l * 2 ^ f := by positivity
  have negative : ∀ {n : ℤ} {d : ℕ}, 0 < d → n < 0 → (n : ℚ) / d < 0 := fun pos less =>
    div_neg_of_neg_of_pos (by exact_mod_cast less) (by exact_mod_cast pos)
  have other : ∀ {n : ℤ} {d : ℕ}, ¬ n < 0 → (0 : ℚ) ≤ (n : ℚ) / d := fun more =>
    div_nonneg (by exact_mod_cast not_lt.1 more) (Nat.cast_nonneg _)
  by_cases below : n < 0
  · rw [decide_eq_true below, rounds.isAbove_pack_negative] at above
    by_cases below' : k < 0
    · rw [abs_of_neg (negative pos below)] at rounds
      rw [abs_of_neg (negative pos' below')] at rounds'
      have less := rounds'.mono rounds (neg_le_neg le)
      rw [decide_eq_true below', rounds'.isAbove_pack_negative]
      exact ⟨less.trans_lt above.1, by linarith [above.2]⟩
    · rw [decide_eq_false below', rounds'.isAbove_pack]
      exact .inr (by linarith [above.2])
  · by_cases below' : k < 0
    · linarith [negative pos' below', other (d := d) below]
    · rw [abs_of_nonneg (other below)] at rounds
      rw [abs_of_nonneg (other below')] at rounds'
      have less := rounds.mono rounds' le
      rw [decide_eq_false below, rounds.isAbove_pack] at above
      rw [decide_eq_false below', rounds'.isAbove_pack]
      exact above.imp less.trans' fun above => above.trans_le less

/-! ## Sums -/

variable {a b : Double}

/-- A finite double is above all quotients that are smaller than the one it is. -/
theorem isAbove_of_ratio? {n : ℤ} {d : ℕ} (h : a.ratio? = some (n, d)) :
    0 < d ∧ ∀ q, a.IsAbove q ↔ q < n / d := by
  cases a with
  | nan => cases h
  | infinite => cases h
  | finite negative m e =>
    have sign : ((if negative then -m else m : ℤ) : ℚ) = (if negative then -1 else 1) * m := by
      cases negative <;> simp
    simp only [ratio?, Option.some.injEq] at h
    split at h
    · rename_i up
      obtain ⟨rfl, rfl⟩ := Prod.mk.inj h
      obtain ⟨k, rfl⟩ := Int.eq_ofNat_of_zero_le up
      refine ⟨Nat.one_pos, fun q => ?_⟩
      rw [IsAbove, Int.toNat_natCast, zpow_natCast, Nat.cast_one, div_one, Int.cast_mul, sign,
        mul_assoc]
      exact_mod_cast Iff.rfl
    · obtain ⟨rfl, rfl⟩ := Prod.mk.inj h
      obtain ⟨k, rfl⟩ : ∃ k : ℕ, e = -k := ⟨(-e).toNat, by omega⟩
      refine ⟨Nat.pow_pos two_pos, fun q => ?_⟩
      rw [IsAbove, neg_neg, Int.toNat_natCast, zpow_neg, zpow_natCast, sign, ← div_eq_mul_inv,
        mul_div_assoc]
      exact_mod_cast Iff.rfl

/-- Positive infinity is above every quotient. -/
theorem isAbove_infinite (q : ℚ) : (infinite false).IsAbove q :=
  rfl

/-- Of the doubles that are not finite one is above anything. -/
theorem eq_infinite_of_ratio? {q : ℚ} (h : a.ratio? = none) (above : a.IsAbove q) :
    a = .infinite false := by
  cases a with
  | nan => exact above.elim
  | infinite negative => exact congrArg infinite above
  | finite => cases h

/-- No finite double is above everything. -/
theorem ratio?_of_isAbove (h : ∀ q, a.IsAbove q) : a.ratio? = none := by
  cases ratio : a.ratio? with
  | none => rfl
  | some value => exact absurd ((isAbove_of_ratio? ratio).2 _ |>.1 (h _)) (lt_irrefl _)

/-- What is above nothing stays so when something is added. -/
theorem not_isAbove_add (h : a.ratio? = none) (nothing : ∀ q, ¬ a.IsAbove q) (c : Double) (q : ℚ) :
    ¬ (a.add c).IsAbove q := by
  unfold add
  rw [h]
  cases c.ratio? with
  | some => exact nothing q
  | none =>
    dsimp only
    split
    · exact nothing q
    · exact id

/-- What is above everything stays so when something is added, unless the sum is above nothing. -/
theorem isAbove_add {c : Double} {q : ℚ} (h : c.ratio? = none → c.IsAbove q) :
    ((infinite false).add c).IsAbove q := by
  unfold add
  cases hc : c.ratio? with
  | some => exact isAbove_infinite q
  | none =>
    rw [eq_infinite_of_ratio? hc (h hc)]
    exact isAbove_infinite q

/-- Adding to two finite doubles keeps their order. -/
theorem reaches_add_finite {n k : ℤ} {d l : ℕ} (ha : a.ratio? = some (n, d))
    (hb : b.ratio? = some (k, l)) (le : (n : ℚ) / d ≤ k / l) (c : Double) :
    (a.add c).Reaches (b.add c) := by
  unfold Double.add
  rw [ha, hb]
  cases hc : c.ratio? with
  | none => exact fun q above => above
  | some third =>
    obtain ⟨i, j⟩ := third
    have pos := (isAbove_of_ratio? hc).1
    have sum : ∀ {n : ℤ} {d : ℕ}, 0 < d →
        ((n * j + i * d : ℤ) : ℚ) / (d * j : ℕ) = n / d + i / j := by
      intro n d pos'
      have first : (d : ℚ) ≠ 0 := by exact_mod_cast pos'.ne'
      have second : (j : ℚ) ≠ 0 := by exact_mod_cast pos.ne'
      push_cast
      field_simp
    have first := (isAbove_of_ratio? ha).1
    have second := (isAbove_of_ratio? hb).1
    refine nearestTo_reaches (Nat.mul_pos first pos) (Nat.mul_pos second pos) ?_
    rw [sum first, sum second]
    gcongr

/-- **Adding keeps the order.** -/
theorem Reaches.add (h : a.Reaches b) (c : Double) : (a.add c).Reaches (b.add c) := by
  cases ha : a.ratio? with
  | none =>
    by_cases nothing : ∀ q, ¬ a.IsAbove q
    · exact fun q above => absurd above (not_isAbove_add ha nothing c q)
    · obtain ⟨p, some⟩ := not_forall_not.1 nothing
      obtain rfl := eq_infinite_of_ratio? ha some
      have all : ∀ q, b.IsAbove q := fun q => h q (isAbove_infinite q)
      rw [eq_infinite_of_ratio? (ratio?_of_isAbove all) (all 0)]
      exact fun q above => above
  | some first =>
    obtain ⟨n, d⟩ := first
    have value := (isAbove_of_ratio? ha).2
    cases hb : b.ratio? with
    | none =>
      have top : b.IsAbove (n / d - 1) := h _ ((value _).2 (sub_one_lt _))
      rw [eq_infinite_of_ratio? hb top]
      refine fun q above => isAbove_add fun hc => ?_
      rwa [Double.add, ha, hc] at above
    | some second =>
      obtain ⟨k, l⟩ := second
      have value' := (isAbove_of_ratio? hb).2
      refine reaches_add_finite ha hb ?_ c
      exact le_of_forall_lt fun q less => (value' q).1 (h q ((value q).2 less))

/-! ## Doubles that are whole numbers -/

/-- A double is a whole number. -/
def IsWhole (x : Double) (z : ℤ) : Prop :=
  ∃ n d, x.ratio? = some (n, d) ∧ (n : ℚ) / d = z

/-- A whole number of 53 binary digits needs no rounding. -/
theorem RoundsAt.eq_natCast {k : ℕ} (h : RoundsAt k m e) (small : k < 2 ^ 53) :
    (m : ℚ) * 2 ^ e = k := by
  have low : e ≤ 0 := by
    by_contra! high
    have full := h.full (by omega)
    have unit : (2 : ℚ) ≤ 2 ^ e := by
      simpa using zpow_le_zpow_right₀ (one_le_two (α := ℚ)) (show (1 : ℤ) ≤ e by omega)
    have less : (k : ℚ) < 2 ^ 53 := by exact_mod_cast small
    linarith
  obtain ⟨i, rfl⟩ : ∃ i : ℕ, e = -i := ⟨(-e).toNat, by omega⟩
  have scaled : (k : ℚ) / 2 ^ (-i : ℤ) = (k * 2 ^ i : ℕ) := by
    rw [zpow_neg, zpow_natCast, div_inv_eq_mul]
    exact_mod_cast rfl
  have nearest := h.nearest
  rw [scaled] at nearest
  have exact := isNearest_natCast (k * 2 ^ i)
  obtain rfl : m = k * 2 ^ i :=
    le_antisymm (nearest.mono exact le_rfl) (exact.mono nearest le_rfl)
  rw [← scaled, div_mul_cancel₀ _ (by positivity)]

/-- A double that is above exactly what a whole number is above is that number. -/
theorem isWhole_of_isAbove {z : ℤ} (h : ∀ q : ℚ, a.IsAbove q ↔ q < z) : a.IsWhole z := by
  cases ratio : a.ratio? with
  | none =>
    obtain rfl := eq_infinite_of_ratio? ratio ((h _).2 (sub_one_lt _))
    exact absurd ((h z).1 (isAbove_infinite _)) (lt_irrefl _)
  | some value =>
    obtain ⟨n, d⟩ := value
    refine ⟨n, d, ratio, ?_⟩
    have above := (isAbove_of_ratio? ratio).2
    exact eq_of_forall_lt_iff fun q => (above q).symm.trans (h q)

/-- **A whole number of 53 binary digits is a double.** -/
theorem isWhole_nearestTo {n z : ℤ} {d : ℕ} (pos : 0 < d) (value : (n : ℚ) / d = z)
    (small : z.natAbs < 2 ^ 53) : (nearestTo n d).IsWhole z := by
  have pos' : (0 : ℚ) < d := by exact_mod_cast pos
  obtain ⟨m, e, rounds, packed⟩ := exists_roundsAt (n < 0) n.natAbs pos
  have magnitude : (n.natAbs : ℚ) / d = z.natAbs := by
    rw [Nat.cast_natAbs, Nat.cast_natAbs, Int.cast_abs, Int.cast_abs, ← value, abs_div,
      abs_of_pos pos']
  rw [magnitude] at rounds
  have whole := rounds.eq_natCast small
  have bound : (z.natAbs : ℚ) < 2 ^ (1024 : ℤ) :=
    calc (z.natAbs : ℚ) < 2 ^ 53 := by exact_mod_cast small
      _ = 2 ^ (53 : ℤ) := (zpow_natCast 2 53).symm
      _ ≤ 2 ^ (1024 : ℤ) := zpow_le_zpow_right₀ one_le_two (by decide)
  refine isWhole_of_isAbove fun q => ?_
  rw [nearestTo, packed]
  by_cases below : n < 0
  · have negative : (z : ℚ) < 0 := by
      rw [← value]
      exact div_neg_of_neg_of_pos (by exact_mod_cast below) pos'
    rw [decide_eq_true below, rounds.isAbove_pack_negative, whole, and_iff_right bound,
      Nat.cast_natAbs, Int.cast_abs, abs_of_neg negative, neg_neg]
  · have positive : (0 : ℚ) ≤ z := by
      rw [← value]
      exact div_nonneg (by exact_mod_cast not_lt.1 below) pos'.le
    rw [decide_eq_false below, rounds.isAbove_pack, whole, or_iff_right (not_le.2 bound),
      Nat.cast_natAbs, Int.cast_abs, abs_of_nonneg positive]

/-- The sum of two whole numbers of 53 binary digits is exact, if it has no more of them. -/
theorem IsWhole.add {i j : ℤ} (ha : a.IsWhole i) (hb : b.IsWhole j)
    (small : (i + j).natAbs < 2 ^ 53) : (a.add b).IsWhole (i + j) := by
  obtain ⟨n, d, ratio, value⟩ := ha
  obtain ⟨k, l, ratio', value'⟩ := hb
  have pos := (isAbove_of_ratio? ratio).1
  have pos' := (isAbove_of_ratio? ratio').1
  have first : (d : ℚ) ≠ 0 := by exact_mod_cast pos.ne'
  have second : (l : ℚ) ≠ 0 := by exact_mod_cast pos'.ne'
  have sum : ((n * l + k * d : ℤ) : ℚ) / (d * l : ℕ) = (i + j : ℤ) := by
    push_cast
    rw [← value, ← value']
    field_simp
  rw [Double.add, ratio, ratio']
  exact isWhole_nearestTo (Nat.mul_pos pos pos') sum small

/-- The negative of a whole number is whole. -/
theorem IsWhole.negate {i : ℤ} (h : a.IsWhole i) : a.negate.IsWhole (-i) := by
  obtain ⟨n, d, ratio, value⟩ := h
  have turned : a.negate.ratio? = some (-n, d) := by
    cases a with
    | nan => cases ratio
    | infinite => cases ratio
    | finite negative m e =>
      simp only [ratio?, Option.some.injEq] at ratio
      rw [Double.negate, ratio?]
      cases negative <;> grind
  refine ⟨-n, d, turned, ?_⟩
  push_cast
  rw [neg_div, value]

end Double
end LoginGate
