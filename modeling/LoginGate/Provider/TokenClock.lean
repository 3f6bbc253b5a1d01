/-
# The clock of token checks

Tokens are checked by the calendar: the time is read to the microsecond, and only in the years from
1 to 9999.  The reading is a double, and so is what is left of it after the leeway.

| step | rule |
| --- | --- |
| `microseconds` | the fraction times a million, as a double, to the nearest whole number |
| `reading` | the double nearest to the microseconds in seconds |
| `deadline` | the reading less the leeway, as a double |
-/

import LoginGate.Instant

namespace LoginGate
namespace TokenClock

/-- The microseconds of a second. -/
def second : Int := 1000000

/-- The microseconds of a fraction `n / d` of a second. -/
def fraction (n d : Nat) : Nat :=
  match (Double.nearest false (n * second.toNat) d).ratio? with
  | some (m, k) => Double.roundHalfEven m.natAbs k
  | none => 0

/-- An instant in microseconds. -/
def microseconds (t : Instant) : Int :=
  match t with
  | .whole n => n * second
  | .real d =>
    match d.ratio? with
    | none => 0
    | some (n, k) =>
      let rest : Int := fraction (n.natAbs % k) k
      n.tdiv k * second + (if n < 0 then -rest else rest)

/-- The seconds that can be counted at all. -/
def countable : Int := 9223372036854775808

/-- The seconds of the years that the calendar can number. -/
def hasCalendar (s : Int) : Bool :=
  decide (-67768040609740800 ≤ s) && decide (s ≤ 67768036191676799)

/-- The seconds of the years from 1 to 9999. -/
def hasYear (s : Int) : Bool :=
  decide (-62135596800 ≤ s) && decide (s < 253402300800)

/-- What the clock shows at an instant. -/
def reading (t : Instant) : Except ClockFault Double := do
  let _ ← t.wholeSeconds
  let u := microseconds t
  let s := u.fdiv second
  if s < -countable ∨ countable ≤ s then .error .tooLarge
  else if !hasCalendar s then .error .noCalendar
  else if !hasYear s then .error .noYear
  else .ok (.nearest (u < 0) u.natAbs second.toNat)

/-- The last expiry that is over when the clock shows `now`, with a leeway.  A whole number of
seconds too large for a double cannot be taken off. -/
def deadline (now : Double) (leeway : Seconds) : Except ClockFault Double :=
  match leeway, leeway.toDouble with
  | .whole _, .infinite _ => .error .tooLarge
  | _, d => .ok (now.add d.negate)

end TokenClock
end LoginGate
