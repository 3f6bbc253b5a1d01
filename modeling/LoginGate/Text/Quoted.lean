/-
# Quoted text

A text between quotes, for messages: single quotes, unless the text holds a single and no double
quote.  The backslash and the quote in use are escaped, as is every point that cannot be shown as it
is, by two, four or eight hexadecimal digits.
-/

import LoginGate.Text.Percent
import LoginGate.Text.Printable
import LoginGate.Text.Wide

namespace LoginGate
namespace Text

/-- The last `digits` hexadecimal digits of `n`, in lower case. -/
def hexDigits : Nat → Nat → List Char
  | 0, _ => []
  | k + 1, n => hexDigits k (n / 16) ++ [(Percent.hexDigit (n % 16)).toLower]

/-- A character between the quotes `quote`. -/
def quotedChar (quote c : Char) : List Char :=
  if c = quote ∨ c = '\\' then ['\\', c]
  else if c = '\n' then ['\\', 'n']
  else if c = '\r' then ['\\', 'r']
  else if c = '\t' then ['\\', 't']
  else if isPrintable c then [c]
  else if c.toNat < 0x100 then '\\' :: 'x' :: hexDigits 2 c.toNat
  else if c.toNat < 0x10000 then '\\' :: 'u' :: hexDigits 4 c.toNat
  else '\\' :: 'U' :: hexDigits 8 c.toNat

/-- A point between the quotes `quote`. -/
def quotedPoint (quote : Char) : Point → List Char
  | .char c => quotedChar quote c
  | .lone n => '\\' :: 'u' :: hexDigits 4 (Point.toNat (.lone n))

/-- The single quote. -/
def apostrophe : Char := Char.ofNat 0x27

/-- The quote that points are put between. -/
def quoteFor (ps : List Point) : Char :=
  if ps.contains (.char apostrophe) && !ps.contains (.char '"') then '"' else apostrophe

/-- The text between quotes. -/
def quoted (s : WideText) : String :=
  let q := quoteFor s.points
  String.ofList (q :: (s.points.flatMap (quotedPoint q) ++ [q]))

end Text
end LoginGate
