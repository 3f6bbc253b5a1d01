/-
# Texts in octets

A text travels in one of the encodings of Unicode: UTF-8, UTF-16 in units of two octets, or UTF-32
in units of four.  The high octet of a unit comes first or last.

| flaw | octets that cannot be read |
| --- | --- |
| `start` | one that no character of UTF-8 begins with |
| `continuation` | the beginning of a character of UTF-8 that something else follows |
| `ending` | the beginning of a character of UTF-8 that nothing follows |
| `truncated` | the beginning of a unit that nothing follows |
| `range` | a unit past the last code point |

Surrogates are read: in UTF-16 a pair of them is one character, and one that stands alone is kept in
every encoding.  The three octets that write a surrogate in UTF-8 are no character there, and two
surrogates in a row are no pair.
-/

import LoginGate.Text.Percent
import LoginGate.Text.Wide

namespace LoginGate

/-- An encoding of Unicode; with `big` the high octet of a unit comes first. -/
inductive Encoding where
  | utf8
  | utf16 (big : Bool)
  | utf32 (big : Bool)
  deriving DecidableEq, Repr

/-- What is wrong with octets that cannot be read. -/
inductive EncodingFlaw where
  | start
  | continuation
  | ending
  | truncated
  | range
  deriving DecidableEq, Repr

/-- Why octets are no text. -/
structure EncodingFault where
  encoding : Encoding
  flaw : EncodingFlaw
  /-- How many octets stand before those that cannot be read. -/
  offset : Nat
  /-- The octets that cannot be read. -/
  octets : Octets
  deriving DecidableEq, Repr

/-- What is wrong, in words. -/
def EncodingFlaw.text : EncodingFlaw → String
  | .start => "invalid start byte"
  | .continuation => "invalid continuation byte"
  | .ending => "unexpected end of data"
  | .truncated => "truncated data"
  | .range => "code point not in range(0x110000)"

namespace EncodingFault

/-- An octet by two hexadecimal digits in lower case. -/
def hex (o : UInt8) : String :=
  String.ofList
    [(Percent.hexDigit (o.toNat / 16)).toLower, (Percent.hexDigit (o.toNat % 16)).toLower]

/-- Which octets cannot be read: a single one by its value, several by where they stand. -/
def place (f : EncodingFault) : String :=
  match f.octets with
  | [o] => "byte 0x" ++ hex o ++ " in position " ++ toString f.offset
  | l =>
    "bytes in position " ++ toString f.offset ++ "-" ++ toString (f.offset + l.length - 1)

end EncodingFault

namespace Encoding

/-- The name of an encoding. -/
def name : Encoding → String
  | .utf8 => "utf-8"
  | .utf16 big => if big then "utf-16-be" else "utf-16-le"
  | .utf32 big => if big then "utf-32-be" else "utf-32-le"

/-- A unit of 16 bits that begins a pair of surrogates. -/
def isHigh (n : Nat) : Bool :=
  0xD800 ≤ n && n < 0xDC00

/-- A unit of 16 bits that ends a pair of surrogates. -/
def isLow (n : Nat) : Bool :=
  0xDC00 ≤ n && n < 0xE000

/-- The character of a pair of surrogates. -/
def pair (high low : Nat) : Point :=
  .char (Char.ofNat (0x10000 + (high - 0xD800) * 0x400 + (low - 0xDC00)))

/-- The points that units of 16 bits write. -/
def joinUnits : List Nat → List Point
  | [] => []
  | [n] => [.ofNat n]
  | a :: b :: r =>
    if isHigh a && isLow b then pair a b :: joinUnits r else .ofNat a :: joinUnits (b :: r)

/-- The surrogate that three octets write in UTF-8, the first of them `a`. -/
def surrogate? (a : UInt8) : Octets → Option (Fin 0x800)
  | b :: c :: _ =>
    if a = 0xED ∧ 0xA0 ≤ b ∧ Utf8.isTail b ∧ Utf8.isTail c then
      some (Fin.ofNat 0x800 (b.toNat % 32 * 64 + Utf8.low6 c))
    else none
  | _ => none

/-- What is wrong with the octet `a` and the `n` octets that belong to it of those that follow. -/
def narrowFlaw (a : UInt8) (n : Nat) (r : Octets) : EncodingFlaw :=
  if a < 0xC2 ∨ 0xF4 < a then .start
  else if r.length = n then .ending else .continuation

/-- The points of UTF-8 after `offset` octets. -/
def narrow (offset : Nat) : Octets → Except EncodingFault (List Point)
  | [] => .ok []
  | a :: r =>
    match surrogate? a r with
    | some n => (narrow (offset + 3) (r.drop 2)).map (.lone n :: ·)
    | none =>
      match Utf8.first a r with
      | (some c, n) => (narrow (offset + 1 + n) (r.drop n)).map (.char c :: ·)
      | (none, n) => .error ⟨.utf8, narrowFlaw a n r, offset, a :: r.take n⟩
termination_by b => b.length
decreasing_by all_goals (rw [List.length_drop, List.length_cons]; omega)

/-- The unit of two octets. -/
def unit16 (big : Bool) (a b : UInt8) : Nat :=
  if big then a.toNat * 0x100 + b.toNat else b.toNat * 0x100 + a.toNat

/-- The unit of four octets. -/
def unit32 (big : Bool) (a b c d : UInt8) : Nat :=
  if big then unit16 true a b * 0x10000 + unit16 true c d
  else unit16 false c d * 0x10000 + unit16 false a b

/-- The units of two octets after `offset` octets. -/
def units16 (big : Bool) (offset : Nat) : Octets → Except EncodingFault (List Nat)
  | [] => .ok []
  | a :: b :: r => (units16 big (offset + 2) r).map (unit16 big a b :: ·)
  | short => .error ⟨.utf16 big, .truncated, offset, short⟩

/-- The code points in four octets each after `offset` octets. -/
def units32 (big : Bool) (offset : Nat) : Octets → Except EncodingFault (List Nat)
  | [] => .ok []
  | a :: b :: c :: d :: r =>
    let n := unit32 big a b c d
    if n < 0x110000 then (units32 big (offset + 4) r).map (n :: ·)
    else .error ⟨.utf32 big, .range, offset, [a, b, c, d]⟩
  | short => .error ⟨.utf32 big, .truncated, offset, short⟩

/-- The points that octets write after `offset` octets of the same sequence. -/
def decode (e : Encoding) (offset : Nat) (b : Octets) : Except EncodingFault (List Point) :=
  match e with
  | .utf8 => narrow offset b
  | .utf16 big => (units16 big offset b).map joinUnits
  | .utf32 big => (units32 big offset b).map (·.map .ofNat)

end Encoding

/-- The message of a fault. -/
def EncodingFault.message (f : EncodingFault) : String :=
  "'" ++ f.encoding.name ++ "' codec can't decode " ++ f.place ++ ": " ++ f.flaw.text

end LoginGate
