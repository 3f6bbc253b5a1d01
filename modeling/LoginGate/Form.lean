/-
# Forms

The names and values of a submitted form or a query, and their text: pairs `name=value` with `&`
between them, a blank as `+`, and every other character outside the unreserved ones as escapes of
its UTF-8 octets.

| operation | rule |
| --- | --- |
| `pairs` | the pairs of a text, empty ones left out, in order |
| `ofPairs` | equal names grouped at the place of the first, values in order |
| `ofOctets` | the form of a body |
| `write` | the text of a form |
-/

import LoginGate.Text.Percent
import LoginGate.Text.Pieces

namespace LoginGate

/-- A form: its names in order, each with its values in order. -/
abbrev Form := List (String × List String)

namespace Form

/-- A blank as `+`, an unreserved octet as it is, any other as its escape. -/
def octetForm (b : UInt8) : List Char :=
  if b = 0x20 then ['+']
  else if Percent.isUnreserved b then [Percent.char b] else Percent.escape b

/-- The text of a name or a value. -/
def writeText (s : String) : String :=
  String.ofList ((Utf8.encode s).flatMap octetForm)

/-- The name or value that a text writes. -/
def readText (cs : List Char) : String :=
  Percent.decode (String.ofList (cs.map fun c => if c = '+' then ' ' else c))

/-- The pair that a piece of a text writes; without `=` its value is empty. -/
def readPair (cs : List Char) : String × String :=
  let (name, value) := Text.cutAt '=' cs
  (readText name, readText (value.getD []))

/-- The pairs of a text, in order. -/
def pairs (s : String) : List (String × String) :=
  ((Text.splitOn '&' s.toList).filter fun p => !p.isEmpty).map readPair

/-- The form with one more value for a name: among the name's values, or last where it is new. -/
def add (name value : String) : Form → Form
  | [] => [(name, [value])]
  | (n, vs) :: r => if n = name then (n, vs ++ [value]) :: r else (n, vs) :: add name value r

/-- Pairs grouped by name. -/
def ofPairs (ps : List (String × String)) : Form :=
  ps.foldl (fun f (n, v) => add n v f) []

/-- The form that a body writes; octets that are no UTF-8 are replacement characters. -/
def ofOctets (b : Octets) : Form :=
  ofPairs (pairs (Utf8.decodeLossy b))

/-- The pairs of a form. -/
def toPairs (f : Form) : List (String × String) :=
  f.flatMap fun (n, vs) => vs.map fun v => (n, v)

/-- The text of a pair. -/
def writePair (p : String × String) : String :=
  writeText p.1 ++ "=" ++ writeText p.2

/-- The text of a form. -/
def write (f : Form) : String :=
  "&".intercalate (f.toPairs.map writePair)

/-- The values of a name. -/
def values (name : String) : Form → List String
  | [] => []
  | (n, vs) :: r => if n = name then vs else values name r

/-- Well-formed forms have distinct names, each with a value. -/
def WellFormed (f : Form) : Prop :=
  (f.map Prod.fst).Nodup ∧ ∀ p ∈ f, p.2 ≠ []

end Form
end LoginGate
