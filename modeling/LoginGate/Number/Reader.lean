/-
# Numbers in text

Whole numbers and doubles as people write them: blanks around the number, a sign, digits of any
script, and single underscores between digits.

| reader | accepts besides |
| --- | --- |
| `readInt?` | at most `4300` digits |
| `readDouble?` | a point, an exponent, and the words `inf`, `infinity`, `nan` in any case |

The four information separators are blank elsewhere but not around a number.
-/

import LoginGate.Number.Double
import LoginGate.Text.Blank
import LoginGate.Text.Digit

namespace LoginGate
namespace Number

/-- The largest number of digits of a whole number that is read. -/
def maxDigits : Nat := 4300

/-- A character that may stand around a number. -/
def isPadding (c : Char) : Bool :=
  Text.isBlank c && !(0x1C ≤ c.toNat && c.toNat ≤ 0x1F)

/-- A digit of any script as the ASCII digit of the same value; other characters as they are. -/
def plainDigit (c : Char) : Char :=
  match Text.digitValue? c with
  | some d => Char.ofNat (0x30 + d)
  | none => c

/-- The characters without the underscores, if each stands between two digits; `prev` says whether
a digit stands before. -/
def joinDigits? (prev : Bool) : List Char → Option (List Char)
  | [] => some []
  | c :: r =>
    if c = '_' then
      if prev && (r.head?.any Char.isDigit) then joinDigits? false r else none
    else (joinDigits? c.isDigit r).map (c :: ·)

/-- The number between its padding, in ASCII digits and without underscores. -/
def bare? (s : String) : Option (List Char) :=
  joinDigits? false ((Text.trimBy isPadding s.toList).map plainDigit)

/-- The sign of a number (`true` for minus) and the rest. -/
def sign : List Char → Bool × List Char
  | '-' :: r => (true, r)
  | '+' :: r => (false, r)
  | r => (false, r)

/-- The value of a row of ASCII digits. -/
def value (digits : List Char) : Nat :=
  digits.foldl (fun n c => 10 * n + (c.toNat - 0x30)) 0

/-- The whole number that a text writes. -/
def readInt? (s : String) : Option Int :=
  match bare? s with
  | none => none
  | some cs =>
    let (negative, digits) := sign cs
    if digits.isEmpty || digits.length > maxDigits || !digits.all Char.isDigit then none
    else some (if negative then -(value digits : Int) else value digits)

/-- A row of digits and what follows it. -/
def spanDigits (cs : List Char) : List Char × List Char :=
  (cs.takeWhile Char.isDigit, cs.dropWhile Char.isDigit)

/-- The exponent that ends a number: nothing, or `e` with a sign and digits. -/
def exponent? : List Char → Option Int
  | [] => some 0
  | c :: r =>
    if c = 'e' ∨ c = 'E' then
      let (negative, digits) := sign r
      if digits.isEmpty || !digits.all Char.isDigit then none
      else some (if negative then -(value digits : Int) else value digits)
    else none

/-- The double that digits with an optional point and exponent write. -/
def decimal? (negative : Bool) (cs : List Char) : Option Double :=
  let (whole, r) := spanDigits cs
  let (fraction, r) := match r with
    | '.' :: r' => spanDigits r'
    | _ => ([], r)
  if whole.isEmpty && fraction.isEmpty then none
  else (exponent? r).map fun e =>
    Double.ofDecimal negative (value (whole ++ fraction)) (e - fraction.length)

/-- The double that a text writes. -/
def readDouble? (s : String) : Option Double :=
  match bare? s with
  | none => none
  | some cs =>
    let (negative, r) := sign cs
    let word := String.ofList (r.map Char.toLower)
    if word = "inf" ∨ word = "infinity" then some (.infinite negative)
    else if word = "nan" then some .nan
    else decimal? negative r

end Number
end LoginGate
