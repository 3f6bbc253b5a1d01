/-
# Writing JSON

The compact form of a value: no blanks, fields in their order.  A string escapes the quote, the
backslash and the controls; with `ascii` also every point outside ASCII, in units of 16 bits, so
that a surrogate that stands alone is left in the form without `ascii` only.  An infinity or `nan`
has no form.
-/

import LoginGate.Json.Basic
import LoginGate.Number.Shortest
import LoginGate.Text.Percent

namespace LoginGate
namespace Json

/-- A unit of 16 bits by its four-digit escape. -/
def unitEscape (n : Nat) : List Char :=
  '\\' :: 'u' :: ([n / 4096 % 16, n / 256 % 16, n / 16 % 16, n % 16].map fun d =>
    (Percent.hexDigit d).toLower)

/-- Characters as points. -/
def points (cs : List Char) : List Point :=
  cs.map .char

/-- A character inside a string. -/
def charForm (ascii : Bool) (c : Char) : List Char :=
  if c = '"' then ['\\', '"']
  else if c = '\\' then ['\\', '\\']
  else if c = '\n' then ['\\', 'n']
  else if c = '\r' then ['\\', 'r']
  else if c = '\t' then ['\\', 't']
  else if c.toNat = 0x08 then ['\\', 'b']
  else if c.toNat = 0x0C then ['\\', 'f']
  else if c.toNat < 0x20 then unitEscape c.toNat
  else if ascii && 0x7F ≤ c.toNat then
    if c.toNat < 0x10000 then unitEscape c.toNat
    else
      let n := c.toNat - 0x10000
      unitEscape (0xD800 + n / 0x400) ++ unitEscape (0xDC00 + n % 0x400)
  else [c]

/-- A point inside a string. -/
def pointForm (ascii : Bool) : Point → List Point
  | .char c => points (charForm ascii c)
  | .lone n => if ascii then points (unitEscape (Point.toNat (.lone n))) else [.lone n]

/-- A string between its quotes. -/
def stringForm (ascii : Bool) (s : WideText) : List Point :=
  .char '"' :: (s.points.flatMap (pointForm ascii) ++ [.char '"'])

/-- The double is a number that JSON can write. -/
def isWritable : Double → Bool
  | .finite .. => true
  | _ => false

mutual

/-- The compact form of a value. -/
def form? (ascii : Bool) : Json → Option (List Point)
  | .null => some (points "null".toList)
  | .bool b => some (points (if b then "true".toList else "false".toList))
  | .int n => some (points (toString n).toList)
  | .real d => if isWritable d then some (points d.text.toList) else none
  | .text s => some (stringForm ascii s)
  | .array vs =>
    (itemForms? ascii vs).map fun ws => .char '[' :: (joined ws ++ [.char ']'])
  | .object fs =>
    (fieldForms? ascii fs).map fun ws => .char '\x7b' :: (joined ws ++ [.char '\x7d'])

/-- The forms of the items of an array. -/
def itemForms? (ascii : Bool) : List Json → Option (List (List Point))
  | [] => some []
  | v :: r =>
    match form? ascii v, itemForms? ascii r with
    | some w, some ws => some (w :: ws)
    | _, _ => none

/-- The forms of the fields of an object. -/
def fieldForms? (ascii : Bool) : List (WideText × Json) → Option (List (List Point))
  | [] => some []
  | (k, v) :: r =>
    match form? ascii v, fieldForms? ascii r with
    | some w, some ws => some ((stringForm ascii k ++ .char ':' :: w) :: ws)
    | _, _ => none

/-- The forms with a comma between any two. -/
def joined : List (List Point) → List Point
  | [] => []
  | [w] => w
  | w :: ws => w ++ .char ',' :: joined ws

end

/-- The text of a value, if it can be written. -/
def write? (ascii : Bool) (v : Json) : Option WideText :=
  (form? ascii v).map .ofPoints

end Json
end LoginGate
