/-
# A clock that is never set back

Its times are in order, and so are the ends of the leases that are set at these times, also where
the sums are rounded.  Times of two kinds are an exception: the whole seconds are added up exactly,
so that of two very late times the later one can have the earlier end, if it is a double.

| relation | says |
| --- | --- |
| `EndsBy e f` | what is before `e` is before `f` |
| `Onward ttl ts` | of leases that are set at these times none ends before an earlier one |
-/

import LoginGate.Proofs.Rounding
import LoginGate.Proofs.Run

namespace LoginGate
namespace Seconds

/-- The first time ends no later than the second: what is before the one is before the other. -/
def EndsBy (e f : Seconds) : Prop :=
  ∀ now : Instant, now.isBefore e = true → now.isBefore f = true

/-- Of the leases that are set at these times, one after the other, none ends before an earlier
one. -/
def Onward (ttl : Seconds) (ts : List Instant) : Prop :=
  ts.Pairwise fun t u => ∀ e f, t.add ttl = .ok e → u.add ttl = .ok f → e.EndsBy f

/-- The times are all whole seconds, or all doubles. -/
def OneKind (ts : List Instant) : Prop :=
  (∀ t ∈ ts, ∃ n, t = .whole n) ∨ ∀ t ∈ ts, ∃ d, t = .real d

end Seconds

/-- The times that the clock of the store shows in a run, from now on. -/
def times (now : Instant) (es : List Event) : List Instant :=
  now :: es.filterMap fun c => match c with
    | .tick later => some later
    | _ => none

namespace Seconds

variable {s t u e f now : Seconds} {a b : Double} {i j : Int} {es : List Event}

/-! ## The order of times -/

/-- Times are ordered: no later than the second, which is no later than the third. -/
theorem atMost_trans (h : s.atMost t = true) (h' : t.atMost u = true) : s.atMost u = true := by
  simp only [atMost, isBefore] at h h' ⊢
  cases hs : s.ratio? with
  | none => cases ht : t.ratio? <;> cases hu : u.ratio? <;> grind
  | some p =>
    obtain ⟨m, j⟩ := p
    cases ht : t.ratio? with
    | none => cases hu : u.ratio? <;> grind
    | some p =>
      obtain ⟨n, k⟩ := p
      cases hu : u.ratio? with
      | none => grind
      | some p =>
        obtain ⟨l, i⟩ := p
        simp only [hs, ht, hu, decide_eq_true_eq] at h h' ⊢
        have hk : (0 : Int) < k := Int.natCast_pos.2 (ratio?_pos ht)
        have key : m * i * k ≤ l * j * k :=
          calc m * i * k = m * k * i := by ring
            _ ≤ n * j * i := Int.mul_le_mul_of_nonneg_right h (Int.natCast_nonneg i)
            _ = n * i * j := by ring
            _ ≤ l * k * j := Int.mul_le_mul_of_nonneg_right h' (Int.natCast_nonneg j)
            _ = l * j * k := by ring
        exact le_of_mul_le_mul_right key hk

/-- On a clock that is never set back all times are in order. -/
theorem pairwise_of_steady (steady : Steady now es) :
    (times now es).Pairwise fun t u => t.atMost u = true := by
  induction es generalizing now with
  | nil => exact List.pairwise_singleton ..
  | cons c es ih =>
    cases c with
    | tick later =>
      have rest := ih steady.2
      refine List.pairwise_cons.2 ⟨fun t ht => ?_, rest⟩
      obtain rfl | ht := List.mem_cons.1 ht
      · exact steady.1
      · exact atMost_trans steady.1 ((List.pairwise_cons.1 rest).1 t ht)
    | call => exact ih steady
    | wall => exact ih steady
    | add => exact ih steady
    | revoke => exact ih steady

/-- Whole seconds end in their order. -/
theorem endsBy_whole (le : i ≤ j) : EndsBy (.whole i) (.whole j) := by
  intro now before
  have ratios : ∀ n : Int, (whole n).ratio? = some (n, 1) := fun _ => rfl
  simp only [isBefore, ratios] at before ⊢
  cases ratio : now.ratio? with
  | none => simpa only [ratio] using before
  | some p =>
    obtain ⟨n, k⟩ := p
    simp only [ratio, decide_eq_true_eq] at before ⊢
    exact before.trans_le (Int.mul_le_mul_of_nonneg_right le (Int.natCast_nonneg k))

/-- A finite time is before a double that is above it. -/
theorem isBefore_real_iff {n : Int} {k : Nat} (ratio : now.ratio? = some (n, k)) :
    now.isBefore (.real a) = true ↔ a.IsAbove (n / k) := by
  have pos : (0 : ℚ) < k := by exact_mod_cast ratio?_pos ratio
  have same : (Seconds.real a).ratio? = a.ratio? := rfl
  simp only [isBefore, ratio, same]
  cases ha : a.ratio? with
  | none =>
    simp only [beq_iff_eq, real.injEq]
    exact ⟨fun top => top ▸ Double.isAbove_infinite _, Double.eq_infinite_of_ratio? ha⟩
  | some p =>
    obtain ⟨m, j⟩ := p
    obtain ⟨pos', value⟩ := Double.isAbove_of_ratio? ha
    have pos' : (0 : ℚ) < j := by exact_mod_cast pos'
    rw [value, div_lt_div_iff₀ pos pos', decide_eq_true_iff]
    exact_mod_cast Iff.rfl

/-- A double that reaches further ends no earlier. -/
theorem endsBy_of_reaches (h : a.Reaches b) : EndsBy (.real a) (.real b) := by
  intro now before
  have same : ∀ d : Double, (Seconds.real d).ratio? = d.ratio? := fun _ => rfl
  cases ratio : now.ratio? with
  | some p => exact (isBefore_real_iff ratio).2 (h _ ((isBefore_real_iff ratio).1 before))
  | none =>
    -- What is no quotient is before a double only as the lower infinity.
    obtain ⟨bottom, q, above⟩ : now = .real (.infinite true) ∧ ∃ q, a.IsAbove q := by
      simp only [isBefore, ratio, same] at before
      cases ha : a.ratio? with
      | none =>
        simp only [ha, Bool.and_eq_true, beq_iff_eq, real.injEq] at before
        exact ⟨before.1, 0, before.2 ▸ Double.isAbove_infinite 0⟩
      | some p =>
        simp only [ha, beq_iff_eq] at before
        exact ⟨before, _, ((Double.isAbove_of_ratio? ha).2 _).2 (sub_one_lt _)⟩
    simp only [isBefore, ratio, same]
    cases hb : b.ratio? with
    | none =>
      rw [Double.eq_infinite_of_ratio? hb (h q above), bottom]
      rfl
    | some p => exact beq_iff_eq.2 bottom

/-- A double that is no smaller reaches as far. -/
theorem reaches_of_atMost (h : atMost (.real a) (.real b) = true) : a.Reaches b := by
  intro q above
  have same : ∀ d : Double, (Seconds.real d).ratio? = d.ratio? := fun _ => rfl
  simp only [atMost, isBefore, same] at h
  cases ha : a.ratio? with
  | none =>
    obtain rfl := Double.eq_infinite_of_ratio? ha above
    cases hb : b.ratio? <;> simp_all
  | some p =>
    obtain ⟨n, k⟩ := p
    obtain ⟨pos, value⟩ := Double.isAbove_of_ratio? ha
    cases hb : b.ratio? with
    | none =>
      simp only [ha, hb, beq_iff_eq, real.injEq] at h
      exact h ▸ Double.isAbove_infinite q
    | some p =>
      obtain ⟨m, j⟩ := p
      obtain ⟨pos', value'⟩ := Double.isAbove_of_ratio? hb
      simp only [ha, hb, decide_eq_true_eq] at h
      have le : (n : ℚ) / k ≤ m / j := by
        rw [div_le_div_iff₀ (by exact_mod_cast pos) (by exact_mod_cast pos')]
        exact_mod_cast h
      exact (value' q).2 (((value q).1 above).trans_le le)

/-! ## The ends of leases -/

/-- Whole seconds reach as far as doubles in their order: rounding keeps it. -/
theorem reaches_whole (le : i ≤ j) : (toDouble (.whole i)).Reaches (toDouble (.whole j)) := by
  refine Double.nearestTo_reaches Nat.one_pos Nat.one_pos ?_
  rw [Nat.cast_one, div_one, div_one]
  exact_mod_cast le

/-- A sum is that of two whole numbers, or it is one of doubles. -/
theorem add_eq_ok (h : s.add t = .ok e) :
    (∃ i j, s = .whole i ∧ t = .whole j ∧ e = .whole (i + j)) ∨
      e = .real (s.toDouble.add t.toDouble) := by
  unfold add at h
  split at h
  · exact .inl ⟨_, _, rfl, rfl, (Except.ok.inj h).symm⟩
  · split at h
    · cases h
    · exact .inr (Except.ok.inj h).symm

/-- Leases that are set one after the other, by whole seconds, end one after the other. -/
theorem endsBy_add_whole (le : i ≤ j) {ttl : Seconds} (first : add (.whole i) ttl = .ok e)
    (second : add (.whole j) ttl = .ok f) : EndsBy e f := by
  cases ttl with
  | whole k =>
    obtain rfl := Except.ok.inj first
    obtain rfl := Except.ok.inj second
    exact endsBy_whole (Int.add_le_add_right le k)
  | real d =>
    obtain ⟨_, _, -, other, -⟩ | rfl := add_eq_ok first
    · cases other
    obtain ⟨_, _, -, other, -⟩ | rfl := add_eq_ok second
    · cases other
    exact endsBy_of_reaches ((reaches_whole le).add d)

/-- Leases that are set one after the other, by doubles, end one after the other. -/
theorem endsBy_add_real (le : atMost (.real a) (.real b) = true) {ttl : Seconds}
    (first : add (.real a) ttl = .ok e) (second : add (.real b) ttl = .ok f) : EndsBy e f := by
  obtain ⟨_, _, other, -⟩ | rfl := add_eq_ok first
  · cases other
  obtain ⟨_, _, other, -⟩ | rfl := add_eq_ok second
  · cases other
  exact endsBy_of_reaches ((reaches_of_atMost le).add ttl.toDouble)

/-- **On a clock that is never set back no lease ends before an earlier one.** -/
theorem onward_of_steady (ttl : Seconds) (steady : Steady now es) (kind : OneKind (times now es)) :
    Onward ttl (times now es) := by
  refine (pairwise_of_steady steady).imp_of_mem fun {t u} ht hu le e f first second => ?_
  obtain whole | real := kind
  · obtain ⟨i, rfl⟩ := whole t ht
    obtain ⟨j, rfl⟩ := whole u hu
    have le : i ≤ j := by simpa [atMost, ratio?] using le
    exact endsBy_add_whole le first second
  · obtain ⟨a, rfl⟩ := real t ht
    obtain ⟨b, rfl⟩ := real u hu
    exact endsBy_add_real le first second

/-- The whole second `2^54 + 7` is before the double `2^54 + 8`, but two seconds later it is not. -/
example :
    atMost (.whole (2 ^ 54 + 7)) (.real (.finite false (2 ^ 52 + 2) 2)) = true ∧
      add (.whole (2 ^ 54 + 7)) (.whole 2) = .ok (.whole (2 ^ 54 + 9)) ∧
      add (.real (.finite false (2 ^ 52 + 2) 2)) (.whole 2) =
        .ok (.real (.finite false (2 ^ 52 + 2) 2)) := by
  decide +kernel

end Seconds
end LoginGate
