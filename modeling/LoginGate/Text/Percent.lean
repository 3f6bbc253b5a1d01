/-
# Percent escapes

An octet written as `%` and two hexadecimal digits.  Writing keeps the octets of a chosen set and
escapes the others with upper-case digits; reading takes digits of either case and leaves a `%`
that two digits do not follow as it is.

| set | octets that are kept |
| --- | --- |
| `isUnreserved` | letters, digits, `-`, `.`, `_`, `~` |
| `isAddressMark` | those and the marks that build an address |
-/

import LoginGate.Text.Utf8

namespace LoginGate
namespace Percent

/-- The hexadecimal digit of `n < 16`. -/
def hexDigit (n : Nat) : Char :=
  if n < 10 then Char.ofNat (0x30 + n) else Char.ofNat (0x37 + n)

/-- The value of a hexadecimal digit of either case. -/
def hexValue? (c : Char) : Option Nat :=
  let n := c.toNat
  if 0x30 ≤ n ∧ n ≤ 0x39 then some (n - 0x30)
  else if 0x41 ≤ n ∧ n ≤ 0x46 then some (n - 0x37)
  else if 0x61 ≤ n ∧ n ≤ 0x66 then some (n - 0x57)
  else none

/-- An octet as a character of the text that carries it. -/
def char (b : UInt8) : Char :=
  Char.ofNat b.toNat

/-- Letters, digits and the four marks that never need an escape. -/
def isUnreserved (b : UInt8) : Bool :=
  b < 0x80 && ((char b).isAlphanum || [0x2D, 0x2E, 0x5F, 0x7E].contains b)

/-- The octets that an address may hold unescaped. -/
def isAddressMark (b : UInt8) : Bool :=
  isUnreserved b || b < 0x80 && ":/%#?=@[]!$&'()*+,;".toList.contains (char b)

/-- An octet by its escape. -/
def escape (b : UInt8) : List Char :=
  ['%', hexDigit (b.toNat / 16), hexDigit (b.toNat % 16)]

/-- The octets as a text in which those outside `keep` are escaped. -/
def encodeOctets (keep : UInt8 → Bool) (b : Octets) : List Char :=
  b.flatMap fun o => if keep o then [char o] else escape o

/-- The text with the octets outside `keep` of its UTF-8 form escaped. -/
def encode (keep : UInt8 → Bool) (s : String) : String :=
  String.ofList (encodeOctets keep (Utf8.encode s))

/-- The octets that an escape stands for, if `b` and `c` are its digits. -/
def octet? (b c : UInt8) : Option UInt8 :=
  match hexValue? (char b), hexValue? (char c) with
  | some x, some y => some (UInt8.ofNat (16 * x + y))
  | _, _ => none

/-- The octet that `a`, `b`, `c` stand for, if they are an escape. -/
def unescape? (a b c : UInt8) : Option UInt8 :=
  if a = 0x25 then octet? b c else none

/-- The octets with each escape replaced by the octet that it stands for. -/
def decodeOctets : Octets → Octets
  | a :: b :: c :: r =>
    match unescape? a b c with
    | some o => o :: decodeOctets r
    | none => a :: decodeOctets (b :: c :: r)
  | short => short

/-- The text with its escapes replaced by the UTF-8 text that they stand for, a replacement
character where they stand for none. -/
def decode (s : String) : String :=
  Utf8.decodeLossy (decodeOctets (Utf8.encode s))

/-- A hexadecimal digit is read as its number. -/
theorem hexValue?_hexDigit : ∀ n < 16, hexValue? (hexDigit n) = some n := by decide

end Percent
end LoginGate
