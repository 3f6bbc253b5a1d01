/-
# Binary floating point of 64 bits

A finite double is `± m · 2^e` with `m < 2^53` and `-1074 ≤ e ≤ 971`.  Everything here is exact
arithmetic on `m` and `e`; a decimal is read by rounding the quotient that it denotes once.

| operation | rule |
| --- | --- |
| `nearest` | the double nearest to a quotient, a half going to the even significand |
| `ofDecimal` | the double nearest to `digits · 10^exponent` |
| `ratio?` | a finite double as a quotient |
| `add` | the double nearest to the sum |
-/

namespace LoginGate

/-- A double: no number, an infinity, or `± significand · 2^exponent`. -/
inductive Double where
  | nan
  | infinite (negative : Bool)
  | finite (negative : Bool) (significand : Nat) (exponent : Int)
  deriving DecidableEq, Repr

namespace Double

/-- The quotient `n / d` rounded to a whole number, a half going to the even neighbour. -/
def roundHalfEven (n d : Nat) : Nat :=
  let q := n / d
  let r := n % d
  if 2 * r < d then q
  else if d < 2 * r then q + 1
  else if q % 2 = 0 then q else q + 1

/-- The quotient `(n / d) / 2^e` as a pair of numerator and denominator. -/
def scaled (n d : Nat) (e : Int) : Nat × Nat :=
  if 0 ≤ e then (n, d * Nat.pow 2 e.toNat) else (n * Nat.pow 2 (-e).toNat, d)

/-- What a significand stays below: `2^53`. -/
def limit : Nat := Nat.pow 2 53

/-- The double nearest to `± n / d`. -/
def nearest (negative : Bool) (n d : Nat) : Double :=
  if n = 0 then .finite negative 0 (-1074)
  else
    let e₀ : Int := max (-1074) ((n.log2 : Int) - d.log2 - 53)
    let (n₀, d₀) := scaled n d e₀
    let e₁ := if limit ≤ n₀ / d₀ then e₀ + 1 else e₀
    let (n₁, d₁) := scaled n d e₁
    let m := roundHalfEven n₁ d₁
    let (m, e) := if m = limit then (limit / 2, e₁ + 1) else (m, e₁)
    if 971 < e then .infinite negative else .finite negative m e

/-- The double nearest to `± digits · 10^exponent`.  Exponents so large that every such decimal is
an infinity, or so small that it is a zero, are answered without forming the power. -/
def ofDecimal (negative : Bool) (digits : Nat) (exponent : Int) : Double :=
  if digits = 0 then .finite negative 0 (-1074)
  else if 400 < exponent then .infinite negative
  else if exponent + (digits.log2 / 3 + 1 : Nat) < -400 then .finite negative 0 (-1074)
  else if 0 ≤ exponent then nearest negative (digits * Nat.pow 10 exponent.toNat) 1
  else nearest negative digits (Nat.pow 10 (-exponent).toNat)

/-- A finite double as a quotient of a whole number by a positive one. -/
def ratio? : Double → Option (Int × Nat)
  | .finite negative m e =>
    let n : Int := if negative then -m else m
    some (if 0 ≤ e then (n * (Nat.pow 2 e.toNat : Nat), 1) else (n, Nat.pow 2 (-e).toNat))
  | _ => none

/-- The whole part of a finite double, cut towards zero. -/
def truncate? (d : Double) : Option Int :=
  d.ratio?.map fun (n, k) => n.tdiv k

/-- The double with the other sign. -/
def negate : Double → Double
  | .nan => .nan
  | .infinite negative => .infinite !negative
  | .finite negative m e => .finite (!negative) m e

/-- The double nearest to the sum of two doubles; no number where two infinities cancel. -/
def add (x y : Double) : Double :=
  match x.ratio?, y.ratio? with
  | some (a, b), some (c, d) =>
    let n := a * d + c * b
    nearest (n < 0) n.natAbs (b * d)
  | some _, none => y
  | none, some _ => x
  | none, none => if x = y then x else .nan

/-- The double lies below the quotient `n / d`; no comparison holds of a `nan`. -/
def isBelow (x : Double) (n : Int) (d : Nat) : Bool :=
  match x with
  | .nan => false
  | .infinite negative => negative
  | .finite .. =>
    match x.ratio? with
    | some (a, b) => a * d < n * b
    | none => false

/-- The double is a zero of either sign. -/
def isZero : Double → Bool
  | .finite _ 0 _ => true
  | _ => false

example : ofDecimal false 11 (-1) = .finite false 4953959590107546 (-52) := by decide +kernel
example : ofDecimal false 1 400 = .infinite false := by decide +kernel
example : (ofDecimal true 599 (-2)).truncate? = some (-5) := by decide +kernel

end Double
end LoginGate
