/-
# Names that are drawn are free

A series in decimal digits writes no name twice: the number is read off the digits, whatever they
are filled up with.  So among one name more than there are taken ones some name is free, and the
search for one ends there.
-/

import LoginGate.Supply
import Mathlib.Data.List.Perm.Subperm
import Mathlib.Data.List.Nodup

namespace LoginGate
namespace Series

/-- Leading zeros add nothing to a number. -/
theorem ofDigitChars_zeros (b k : Nat) (ds : List Char) :
    Nat.ofDigitChars b (List.replicate k '0' ++ ds) 0 = Nat.ofDigitChars b ds 0 := by
  induction k with
  | zero => rfl
  | succ k ih =>
    rw [List.replicate_succ, List.cons_append, Nat.ofDigitChars, List.foldl_cons]
    exact ih

/-- The number of a name is read off its digits. -/
theorem ofDigitChars_digits (s : Series) (one : 1 < s.base) (ten : s.base ≤ 10) (n : Nat) :
    Nat.ofDigitChars s.base (s.digits n) 0 = n := by
  rw [digits, ofDigitChars_zeros, Nat.ofDigitChars_toDigits one ten]

/-- **A series of decimal digits,** or of fewer ones, never writes a name twice. -/
theorem name_injective (s : Series) (one : 1 < s.base) (ten : s.base ≤ 10) :
    Function.Injective s.name := by
  intro m n same
  have digits : s.digits m = s.digits n := by
    simpa only [name, String.append_left_inj, String.append_right_inj, String.ofList_inj] using same
  rw [← s.ofDigitChars_digits one ten m, digits, s.ofDigitChars_digits one ten]

end Series

namespace Supply

variable {s : Supply} {taken : List String}

/-- The series of a supply never writes a name twice. -/
def Distinct (s : Supply) : Prop :=
  Function.Injective s.series.name

/-- A search that ends at a taken name passed over taken names alone. -/
theorem taken_of_freeNumber {r : Series} {k n : Nat}
    (h : r.name (freeNumber r taken k n) ∈ taken) : ∀ i ≤ k, r.name (n + i) ∈ taken := by
  induction k generalizing n with
  | zero =>
    intro i hi
    rwa [Nat.le_zero.1 hi]
  | succ k ih =>
    rw [freeNumber] at h
    split at h
    · rename_i first
      intro i hi
      cases i with
      | zero => exact List.contains_iff_mem.1 first
      | succ i =>
        rw [Nat.add_comm i, ← Nat.add_assoc]
        exact ih h i (Nat.le_of_succ_le_succ hi)
    · rename_i first
      exact absurd (List.contains_iff_mem.2 h) first

/-- **The name that is drawn is not taken.** -/
theorem drawFree_not_mem (h : s.Distinct) : (s.drawFree taken).1 ∉ taken := by
  unfold drawFree
  cases given : freeGiven taken s.given with
  | cons name r =>
    have first := List.head?_dropWhile_not taken.contains s.given
    rw [← freeGiven, given] at first
    simpa using first
  | nil =>
    intro mem
    -- Else one name more than there are taken ones would be taken.
    let names := (List.range (taken.length + 1)).map fun i => s.series.name (s.made + 1 + i)
    have distinct : names.Nodup :=
      List.nodup_range.map fun i j same => Nat.add_left_cancel (h same)
    have subset : names ⊆ taken := by
      intro name hname
      obtain ⟨i, hi, rfl⟩ := List.mem_map.1 hname
      exact taken_of_freeNumber mem i (Nat.le_of_lt_succ (List.mem_range.1 hi))
    have short := (List.subperm_of_subset distinct subset).length_le
    rw [List.length_map, List.length_range] at short
    exact absurd short (Nat.not_succ_le_self _)

/-- The name is still to be drawn. -/
def Gives (s : Supply) (name : String) : Prop :=
  name ∈ s.given ∨ ∃ n, s.made < n ∧ name = s.series.name n

/-- The numbers that are taken are passed over, so that the free one is no smaller. -/
theorem le_freeNumber (r : Series) (taken : List String) (k n : Nat) :
    n ≤ freeNumber r taken k n := by
  induction k generalizing n with
  | zero => exact Nat.le_refl n
  | succ k ih =>
    rw [freeNumber]
    split
    · exact Nat.le_trans (Nat.le_succ n) (ih (n + 1))
    · exact Nat.le_refl n

/-- The names that are left are some of those given. -/
theorem freeGiven_subset (taken given : List String) : freeGiven taken given ⊆ given :=
  fun _ h => List.dropWhile_subset _ h

/-- The name that is drawn was still to be drawn. -/
theorem gives_drawFree (s : Supply) (taken : List String) : s.Gives (s.drawFree taken).1 := by
  unfold drawFree
  cases given : freeGiven taken s.given with
  | cons name r =>
    refine .inl (freeGiven_subset taken s.given ?_)
    rw [given]
    exact List.mem_cons_self
  | nil => exact .inr ⟨_, le_freeNumber .., rfl⟩

/-- Whatever is still to be drawn afterwards was so before. -/
theorem Gives.of_drawFree {name : String} (h : (s.drawFree taken).2.Gives name) : s.Gives name := by
  unfold drawFree at h
  cases given : freeGiven taken s.given with
  | cons first r =>
    rw [given] at h
    obtain mem | number := h
    · refine .inl (freeGiven_subset taken s.given ?_)
      rw [given]
      exact List.mem_cons_of_mem _ mem
    · exact .inr number
  | nil =>
    rw [given] at h
    obtain mem | ⟨n, later, rfl⟩ := h
    · cases mem
    · exact .inr ⟨n, Nat.lt_trans (le_freeNumber ..) later, rfl⟩

/-- Drawing a name leaves the series as it is. -/
theorem drawFree_series (s : Supply) (taken : List String) :
    (s.drawFree taken).2.series = s.series := by
  unfold drawFree
  split <;> rfl

end Supply
end LoginGate
