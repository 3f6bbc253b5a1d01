/-
# Pieces of a text

Cutting lists at an element or at a pattern.  Every function here says which pieces it returns, so
that the pieces and the cut put together give back the list.

| operation | result |
| --- | --- |
| `cutAt c l` | what stands before and after the first `c` |
| `cutAtLast c l` | what stands before and after the last `c` |
| `find? p l` | what stands before and after the first occurrence of `p` |
| `splitOn c l` | the pieces between the occurrences of `c`, never none |
-/

import LoginGate.Text.Blank

namespace LoginGate
namespace Text

/-- The list cut at the first `c`: what stands before it and what stands after it, or the whole
list and `none` where there is no `c`. -/
def cutAt {α : Type} [DecidableEq α] (c : α) : List α → List α × Option (List α)
  | [] => ([], none)
  | x :: r =>
    if x = c then ([], some r)
    else
      let (a, b) := cutAt c r
      (x :: a, b)

/-- The list cut at the last `c`; `none` where there is no `c`. -/
def cutAtLast {α : Type} [DecidableEq α] (c : α) (l : List α) : Option (List α × List α) :=
  match cutAt c l.reverse with
  | (_, none) => none
  | (a, some b) => some (b.reverse, a.reverse)

/-- What stands before and after the first occurrence of `p` in the list. -/
def find? {α : Type} [DecidableEq α] (p : List α) : List α → Option (List α × List α)
  | [] => if p = [] then some ([], []) else none
  | x :: r =>
    if p.isPrefixOf (x :: r) then some ([], (x :: r).drop p.length)
    else (find? p r).map fun (a, b) => (x :: a, b)

/-- The pieces between the occurrences of `c`. -/
def splitOn {α : Type} [DecidableEq α] (c : α) : List α → List (List α)
  | [] => [[]]
  | x :: r =>
    if x = c then [] :: splitOn c r
    else match splitOn c r with
      | [] => [[x]]
      | w :: ws => (x :: w) :: ws

/-- The list after `p`, if it begins with `p`. -/
def after? {α : Type} [DecidableEq α] : List α → List α → Option (List α)
  | [], l => some l
  | _ :: _, [] => none
  | c :: p, x :: l => if c = x then after? p l else none

/-- What was cut is the list: the parts with the mark between them, and no mark in the first. -/
theorem cutAt_eq_some {α : Type} [DecidableEq α] {c : α} {l a b : List α}
    (h : cutAt c l = (a, some b)) : l = a ++ c :: b ∧ c ∉ a := by
  induction l generalizing a with
  | nil => simp [cutAt] at h
  | cons x r ih =>
    unfold cutAt at h
    split at h
    · rename_i hx
      simp only [Prod.mk.injEq, Option.some.injEq] at h
      obtain ⟨rfl, rfl⟩ := h
      simp [hx]
    · rename_i hx
      simp only [Prod.mk.injEq] at h
      obtain ⟨rfl, hb⟩ := h
      obtain ⟨hr, hc⟩ := ih (a := (cutAt c r).1) (by rw [← hb])
      exact ⟨by simp [← hr], by simp [hc, Ne.symm hx]⟩

/-- What was not cut holds no mark. -/
theorem cutAt_eq_none {α : Type} [DecidableEq α] {c : α} {l a : List α}
    (h : cutAt c l = (a, none)) : l = a ∧ c ∉ a := by
  induction l generalizing a with
  | nil => simp_all [cutAt]
  | cons x r ih =>
    unfold cutAt at h
    split at h
    · simp at h
    · rename_i hx
      simp only [Prod.mk.injEq] at h
      obtain ⟨rfl, hb⟩ := h
      obtain ⟨hr, hc⟩ := ih (a := (cutAt c r).1) (by rw [← hb])
      exact ⟨by simp [← hr], by simp [hc, Ne.symm hx]⟩

/-- What stands after a part in front is the rest. -/
theorem after?_eq_some_iff {α : Type} [DecidableEq α] {p l r : List α} :
    after? p l = some r ↔ l = p ++ r := by
  fun_induction after? p l <;> simp_all [eq_comm]

/-- **The first occurrence is an occurrence:** its surroundings and the pattern make up the list. -/
theorem find?_eq_some {α : Type} [DecidableEq α] {p l a b : List α}
    (h : find? p l = some (a, b)) : l = a ++ p ++ b := by
  induction l generalizing a with
  | nil =>
    unfold find? at h
    split at h <;> simp_all
  | cons x r ih =>
    unfold find? at h
    split at h
    · rename_i hp
      simp only [Option.some.injEq, Prod.mk.injEq] at h
      obtain ⟨rfl, rfl⟩ := h
      obtain ⟨t, ht⟩ := List.isPrefixOf_iff_prefix.1 hp
      simp [← ht]
    · obtain ⟨⟨a', b'⟩, hr, hab⟩ := Option.map_eq_some_iff.1 h
      simp only [Prod.mk.injEq] at hab
      obtain ⟨rfl, rfl⟩ := hab
      simp [ih hr]

/-- The text begins with `p`. -/
def begins (p s : String) : Bool :=
  p.toList.isPrefixOf s.toList

/-- The text ends with the character `c`. -/
def endsWith (c : Char) (s : String) : Bool :=
  s.toList.getLast? == some c

/-- The first `n` characters. -/
def firstChars (n : Nat) (s : String) : String :=
  String.ofList (s.toList.take n)

/-- The text without the first `n` characters. -/
def dropChars (n : Nat) (s : String) : String :=
  String.ofList (s.toList.drop n)

/-- The text without the characters `c` at its end. -/
def dropEndChar (c : Char) (s : String) : String :=
  String.ofList (dropEndBy (· == c) s.toList)

/-- The text up to the first `c`, the whole text where there is none. -/
def upTo (c : Char) (s : String) : String :=
  String.ofList (cutAt c s.toList).1

/-- `c` written `n` times. -/
def copies (n : Nat) (c : Char) : String :=
  String.ofList (List.replicate n c)

end Text
end LoginGate
