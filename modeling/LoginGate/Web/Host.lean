/-
# Host names

A host in a header is a name or a literal between brackets, and a port may follow it.

| part | rule |
| --- | --- |
| name | unreserved characters and the marks `! $ & ( ) * + , ; = %` and the apostrophe |
| literal | an address of version 6 or of a version to come |
| version 6 | eight groups of up to four hexadecimal digits, a run of zero groups left out at `::` |
| to come | `v`, hexadecimal digits, a point, and more |
| port | a digit or more, up to 65535 |

In an address a zone may follow a version 6 after a `%`.
-/

import LoginGate.Number.Reader
import LoginGate.Text.Percent
import LoginGate.Text.Pieces

namespace LoginGate
namespace Host

/-- A mark that a name may hold. -/
def isMark (c : Char) : Bool :=
  "-._~!$&()*+,;=".toList.contains c || c.toNat = 0x27

/-- The text is made of characters of a name. -/
def isName (cs : List Char) : Bool :=
  cs.all fun c => c.isAlphanum || isMark c || c = '%'

/-- A hexadecimal digit of either case. -/
def isHex (c : Char) : Bool :=
  (Percent.hexValue? c).isSome

/-- A group of an address of version 6. -/
def isGroup (g : List Char) : Bool :=
  !g.isEmpty && g.length ≤ 4 && g.all isHex

/-- A number of an address of version 4: up to 255, without a zero in front. -/
def isByte (b : List Char) : Bool :=
  !b.isEmpty && b.all Char.isDigit && (b.length = 1 || b.head? ≠ some '0') &&
    decide (Number.value b ≤ 255)

/-- An address of version 4. -/
def isVersion4 (s : List Char) : Bool :=
  let parts := Text.splitOn '.' s
  parts.length = 4 && parts.all isByte

/-- How many groups a text between colons counts for: one of version 4 may stand last. -/
def groupCount? : List (List Char) → Option Nat
  | [] => some 0
  | [g] => if isGroup g then some 1 else if isVersion4 g then some 2 else none
  | g :: r => if isGroup g then (groupCount? r).map (· + 1) else none

/-- The groups of a text, none where it is empty. -/
def groups (s : List Char) : List (List Char) :=
  if s.isEmpty then [] else Text.splitOn ':' s

/-- An address of version 6. -/
def isVersion6 (s : List Char) : Bool :=
  match Text.find? "::".toList s with
  | none => groupCount? (groups s) == some 8
  | some (a, b) =>
    match (groups a).all isGroup, groupCount? (groups b) with
    | true, some n => (groups a).length + n ≤ 7
    | _, _ => false

/-- An address of version 6, perhaps with a zone. -/
def isZoned (s : List Char) : Bool :=
  match Text.cutAt '%' s with
  | (a, none) => isVersion6 a
  | (a, some zone) => !zone.isEmpty && !zone.contains '%' && isVersion6 a

/-- An address of a version to come, of characters that `keep` accepts. -/
def isFuture (keep : Char → Bool) : List Char → Bool
  | 'v' :: r =>
    match r.span isHex with
    | (_ :: _, '.' :: c :: rest) => (c :: rest).all keep
    | _ => false
  | _ => false

/-- What an address may hold between brackets. -/
def isLiteral (s : List Char) : Bool :=
  if s.head? = some 'v' then isFuture (fun _ => true) s else isZoned s

/-- What a header may hold between brackets. -/
def isPlainLiteral (s : List Char) : Bool :=
  isVersion6 s || isFuture (fun c => c.isAlphanum || isMark c || c = ':') s

/-- The greatest port. -/
def maxPort : Nat := 65535

/-- The text after the colon of a host is a port, or there is none. -/
def isPort : Option (List Char) → Bool
  | none => true
  | some p => !p.isEmpty && p.all Char.isDigit && decide (Number.value p ≤ maxPort)

/-- The port of a text that follows a bracket; none where something else follows. -/
def portAfter? : List Char → Option (Option (List Char))
  | [] => some none
  | ':' :: p => some (some p)
  | _ => none

/-- The text is a host with or without a port. -/
def isValid (s : String) : Bool :=
  match s.toList with
  | '[' :: r =>
    match Text.cutAt ']' r with
    | (a, some rest) => isPlainLiteral a && (portAfter? rest).any isPort
    | (_, none) => false
  | cs =>
    let (name, port) := Text.cutAt ':' cs
    !name.isEmpty && isName name && isPort port

end Host
end LoginGate
