/-
# UTF-8

Texts as octets and octets as texts.  A sequence that is no UTF-8 is cut into the characters that
can be read and the *stretches* that cannot: a stretch is as long as some character still begins
with it, and one octet otherwise.

| operation | on a stretch that cannot be read |
| --- | --- |
| `decode?` | fails |
| `decodeLossy` | writes one replacement character `U+FFFD` |

A surrogate is no character, so the three octets that would write one cannot be read either.
-/

import LoginGate.Text.Octets

namespace LoginGate
namespace Utf8

/-- The octets of a text. -/
def encode (s : String) : Octets :=
  s.toList.flatMap String.utf8EncodeChar

/-- A piece that is the character with code point `n`. -/
def scalar (n : Nat) : Option Char :=
  some (Char.ofNat n)

/-- An octet `10xxxxxx`. -/
def isTail (b : UInt8) : Bool :=
  0x80 ≤ b && b ≤ 0xBF

/-- The octets that may follow the first octet `a` of a character of three or four octets:
surrogates, code points past the last one and characters with a shorter form are left out. -/
def isSecond (a b : UInt8) : Bool :=
  isTail b &&
    (if a = 0xE0 then 0xA0 ≤ b else if a = 0xED then b ≤ 0x9F
     else if a = 0xF0 then 0x90 ≤ b else if a = 0xF4 then b ≤ 0x8F else true)

/-- The six low bits of an octet. -/
def low6 (b : UInt8) : Nat :=
  b.toNat % 64

/-- What a sequence that begins with the octet `a` begins with, a character or (`none`) a stretch
that cannot be read, and how many octets after `a` belong to it. -/
def first (a : UInt8) (r : Octets) : Option Char × Nat :=
  if a < 0x80 then (scalar a.toNat, 0)
  else if 0xC2 ≤ a ∧ a ≤ 0xDF then
    match r with
    | b :: _ => if isTail b then (scalar (a.toNat % 32 * 64 + low6 b), 1) else (none, 0)
    | _ => (none, 0)
  else if 0xE0 ≤ a ∧ a ≤ 0xEF then
    match r with
    | b :: r' =>
      if isSecond a b then
        match r' with
        | c :: _ =>
          if isTail c then (scalar (a.toNat % 16 * 4096 + low6 b * 64 + low6 c), 2) else (none, 1)
        | _ => (none, 1)
      else (none, 0)
    | _ => (none, 0)
  else if 0xF0 ≤ a ∧ a ≤ 0xF4 then
    match r with
    | b :: r' =>
      if isSecond a b then
        match r' with
        | c :: r'' =>
          if isTail c then
            match r'' with
            | d :: _ =>
              if isTail d then
                (scalar (a.toNat % 8 * 262144 + low6 b * 4096 + low6 c * 64 + low6 d), 3)
              else (none, 2)
            | _ => (none, 2)
          else (none, 1)
        | _ => (none, 1)
      else (none, 0)
    | _ => (none, 0)
  else (none, 0)

/-- The characters of a sequence, `none` for each stretch that cannot be read. -/
def pieces : Octets → List (Option Char)
  | [] => []
  | a :: r => (first a r).1 :: pieces (r.drop (first a r).2)
termination_by b => b.length
decreasing_by rw [List.length_drop, List.length_cons]; omega

/-- The text of a sequence, if all of it is UTF-8. -/
def decode? (b : Octets) : Option String :=
  ((pieces b).mapM id).map String.ofList

/-- The text of a sequence, each stretch that cannot be read replaced by `U+FFFD`. -/
def decodeLossy (b : Octets) : String :=
  String.ofList ((pieces b).map fun c => c.getD (Char.ofNat 0xFFFD))

/-- Octets below `0x80` are characters of their own. -/
theorem pieces_cons_of_lt {a : UInt8} (h : a < 0x80) (r : Octets) :
    pieces (a :: r) = some (Char.ofNat a.toNat) :: pieces r := by
  rw [pieces]
  simp [first, h, scalar]

end Utf8
end LoginGate
