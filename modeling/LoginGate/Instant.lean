/-
# Time

An instant is a number of seconds since the start of the year 1970, and a span of time a number of
seconds.  A number of seconds is whole and exact, or a double.  Clocks may stand still or be set
back.

| operation | rule |
| --- | --- |
| `add` | exact for whole numbers; else of the nearest doubles, which very large ones do not have |
| `isBefore` | exact, also between a whole number and a double |
| `wholeSeconds` | the fraction cut off; a fault of what is infinite or no number |
-/

import LoginGate.Number.Double

namespace LoginGate

/-- A number of seconds. -/
inductive Seconds where
  | whole (n : Int)
  | real (d : Double)
  deriving DecidableEq, Repr

/-- Why a time cannot be told. -/
inductive ClockFault where
  /-- The number of seconds is too large to count with. -/
  | tooLarge
  /-- It is no number. -/
  | noNumber
  /-- The calendar cannot number the year. -/
  | noCalendar
  /-- The year is not one of 1 to 9999. -/
  | noYear
  deriving DecidableEq, Repr

/-- Seconds since the start of 1970. -/
abbrev Instant := Seconds

namespace Seconds

/-- A number of seconds as a quotient of a whole number by a positive one. -/
def ratio? : Seconds → Option (Int × Nat)
  | .whole n => some (n, 1)
  | .real d => d.ratio?

/-- The double nearest to a number of seconds. -/
def toDouble : Seconds → Double
  | .whole n => .nearest (n < 0) n.natAbs 1
  | .real d => d

/-- A whole number too large for a double. -/
def isBeyondDoubles : Seconds → Bool
  | .whole n => (toDouble (.whole n)).ratio?.isNone
  | .real _ => false

/-- The sum of two numbers of seconds. -/
def add : Seconds → Seconds → Except ClockFault Seconds
  | .whole m, .whole n => .ok (.whole (m + n))
  | s, t =>
    if s.isBeyondDoubles || t.isBeyondDoubles then .error .tooLarge
    else .ok (.real (s.toDouble.add t.toDouble))

/-- The first number of seconds is smaller than the second; never of what is no number. -/
def isBefore (s t : Seconds) : Bool :=
  match s.ratio?, t.ratio? with
  | some (m, j), some (n, k) => m * k < n * j
  | some _, none => t == .real (.infinite false)
  | none, some _ => s == .real (.infinite true)
  | none, none => s == .real (.infinite true) && t == .real (.infinite false)

/-- The seconds without their fraction, cut towards zero. -/
def wholeSeconds : Seconds → Except ClockFault Int
  | .whole n => .ok n
  | .real .nan => .error .noNumber
  | .real (.infinite _) => .error .tooLarge
  | .real d => .ok (d.truncate?.getD 0)

/-- Whole seconds are in the order of their numbers. -/
@[simp] theorem isBefore_whole (m n : Int) :
    isBefore (.whole m) (.whole n) = decide (m < n) := by
  simp [isBefore, ratio?]

/-- Whole seconds are whole. -/
@[simp] theorem wholeSeconds_whole (n : Int) : wholeSeconds (.whole n) = .ok n :=
  rfl

end Seconds
end LoginGate
