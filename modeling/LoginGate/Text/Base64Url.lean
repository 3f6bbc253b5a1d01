/-
# Base 64 for addresses

Three octets as four characters of the alphabet that needs no escape in an address, the last group
filled up with `=`.  Only the written form of some octets is read: a group with stray bits, a
character outside the alphabet or a misplaced `=` is refused.  The filling may be left off whole,
but a text with any `=` has to bring all of it.
-/

import LoginGate.Text.Octets

namespace LoginGate
namespace Base64Url

/-- The character for six bits. -/
def digit (n : Nat) : Char :=
  if n < 26 then Char.ofNat (0x41 + n)
  else if n < 52 then Char.ofNat (0x61 + (n - 26))
  else if n < 62 then Char.ofNat (0x30 + (n - 52))
  else if n = 62 then '-' else '_'

/-- The six bits of a character. -/
def value? (c : Char) : Option Nat :=
  if c.isUpper then some (c.toNat - 0x41)
  else if c.isLower then some (c.toNat - 0x61 + 26)
  else if c.isDigit then some (c.toNat - 0x30 + 52)
  else if c = '-' then some 62
  else if c = '_' then some 63
  else none

/-- The written form of some octets, filled up to whole groups. -/
def encode : Octets → List Char
  | [] => []
  | [a] => [digit (a.toNat / 4), digit (a.toNat % 4 * 16), '=', '=']
  | [a, b] =>
    [digit (a.toNat / 4), digit (a.toNat % 4 * 16 + b.toNat / 16), digit (b.toNat % 16 * 4), '=']
  | a :: b :: c :: r =>
    digit (a.toNat / 4) :: digit (a.toNat % 4 * 16 + b.toNat / 16) ::
      digit (b.toNat % 16 * 4 + c.toNat / 64) :: digit (c.toNat % 64) :: encode r

/-- The text filled up with `=` to whole groups of four; one with an `=` of its own stays as it is.
-/
def fill (s : List Char) : List Char :=
  if s.contains '=' then s else s ++ List.replicate ((4 - s.length % 4) % 4) '='

/-- The bits of a text in whole groups, a filling counted as zero. -/
def groups? : List Char → Option (List Nat)
  | [] => some []
  | a :: b :: c :: d :: r =>
    let bits (x : Char) := if x = '=' then some 0 else value? x
    match bits a, bits b, bits c, bits d, groups? r with
    | some w, some x, some y, some z, some ns =>
      some ((w * 4 + x / 16) :: (x % 16 * 16 + y / 4) :: (y % 4 * 64 + z) :: ns)
    | _, _, _, _, _ => none
  | _ => none

/-- The octets that have the text, filled up, as their written form. -/
def decode? (s : String) : Option Octets :=
  let t := fill s.toList
  let blanks := (t.reverse.takeWhile (· == '=')).length
  match groups? t with
  | none => none
  | some ns =>
    let b := (ns.take (ns.length - blanks)).map UInt8.ofNat
    if encode b = t then some b else none

/-- **Only the written form of the answer is read,** so no two texts of one length give the same
octets. -/
theorem encode_of_decode? {s : String} {b : Octets} (h : decode? s = some b) :
    encode b = fill s.toList := by
  unfold decode? at h
  simp only at h
  split at h
  · simp at h
  · split at h
    · obtain rfl := Option.some.inj h
      assumption
    · simp at h

end Base64Url
end LoginGate
