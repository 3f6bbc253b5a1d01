/-
# The fewest digits that read back

The text of a double uses the fewest decimal digits that, read as a decimal, give the double again,
and of those the digits nearest to it.  For one digit, two, and so on, the two neighbours of the
value on the grid of that many digits are read back; the first grid with a hit wins.  Of two hits
the nearer one is taken, and the even one where the value lies half-way.

The layout is the one of JSON numbers: positional while the point stands at most three places before
the first digit and at most sixteen after it, with at least one digit after the point, and otherwise
one digit before the point and an exponent of at least two digits with its sign.
-/

import LoginGate.Number.Double
import LoginGate.Text.Blank

namespace LoginGate
namespace Double

/-- A power of ten no smaller than the quotient `n / d` needs: `n / d < 10^k`. -/
def magnitude (n d : Nat) : Int :=
  if d ≤ n then ((Nat.toDigits 10 (n / d)).length : Int)
  else 2 - ((Nat.toDigits 10 (d / n)).length : Int)

/-- The value lies nearer to `low` than to `low + 1`, at a distance of `r / d` from it; half-way the
even one counts as the nearer. -/
def favoursLow (low r d : Nat) : Bool :=
  2 * r < d || 2 * r = d && low % 2 = 0

/-- The neighbours of `n / d` on the grid of `10^k` that read back as `x`, the nearer one first. -/
def hits (x : Double) (n d : Nat) (k : Int) : List Nat :=
  let (n, d) := if 0 ≤ k then (n, d * Nat.pow 10 k.toNat) else (n * Nat.pow 10 (-k).toNat, d)
  let low := n / d
  let pair := if favoursLow low (n % d) d then [low, low + 1] else [low + 1, low]
  pair.filter fun g => ofDecimal false g k == x

/-- The fewest digits that read back as the positive double `x = n / d`, and the power of ten of the
last one. -/
def shortest (x : Double) (n d : Nat) : Nat × Int :=
  let k := magnitude n d
  ((List.range 18).findSome? fun i =>
      let p := k - (i + 1 : Nat)
      (hits x n d p).head?.map fun g => (g, p)).getD (0, 0)

/-- The digits and the place of the point laid out: `0.d₁d₂… · 10^point`. -/
def layOut (digits : List Char) (point : Int) : List Char :=
  if -4 < point ∧ point ≤ 16 then
    if point ≤ 0 then '0' :: '.' :: (List.replicate (-point).toNat '0' ++ digits)
    else
      let p := point.toNat
      if digits.length ≤ p then
        digits ++ List.replicate (p - digits.length) '0' ++ ['.', '0']
      else digits.take p ++ '.' :: digits.drop p
  else
    let e := point - 1
    let exponent := Nat.toDigits 10 e.natAbs
    let exponent := List.replicate (2 - exponent.length) '0' ++ exponent
    let fraction := digits.drop 1
    digits.take 1 ++ (if fraction.isEmpty then [] else '.' :: fraction) ++
      'e' :: (if e < 0 then '-' else '+') :: exponent

/-- The text of a double. -/
def text : Double → String
  | .nan => "nan"
  | .infinite negative => if negative then "-inf" else "inf"
  | .finite negative m e =>
    let sign := if negative then ['-'] else []
    if m = 0 then String.ofList (sign ++ "0.0".toList)
    else
      let (n, d) := scaled m 1 (-e)
      let (g, p) := shortest (.finite false m e) n d
      let digits := Nat.toDigits 10 g
      String.ofList
        (sign ++ layOut (Text.dropEndBy (· == '0') digits) ((digits.length : Int) + p))

end Double
end LoginGate
