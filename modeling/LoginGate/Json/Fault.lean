/-
# Faults of JSON documents

A document that is not read is no text, or no JSON, or holds too large a number, or is nested too
deep.  A flaw of the grammar has a place.

| flaw | stands at |
| --- | --- |
| `value`, `name`, `colon`, `comma` | what there is instead |
| `extra` | what follows the value |
| `unterminated` | the quote that opens the string |
| `control` | the control character |
| `escape` | the backslash |
| `hexEscape` | the `u` after the backslash |
-/

import LoginGate.Number.Reader
import LoginGate.Text.Encoding

namespace LoginGate
namespace Json

/-- What is wrong where the grammar fails. -/
inductive Flaw where
  /-- There is no value. -/
  | value
  /-- There is no name of a field. -/
  | name
  /-- There is no colon after a name. -/
  | colon
  /-- There is neither a comma nor the end of an array or object. -/
  | comma
  /-- Something follows the value. -/
  | extra
  /-- A string has no end. -/
  | unterminated
  /-- A string holds a control character. -/
  | control
  /-- A backslash begins no escape. -/
  | escape
  /-- An escape by number has fewer than four digits. -/
  | hexEscape
  deriving DecidableEq, Repr

/-- What is nested. -/
inductive Nesting where
  | array
  | object
  deriving DecidableEq, Repr

/-- A place in a document: line and column from one on, and the points in front of it. -/
structure Place where
  line : Nat
  column : Nat
  offset : Nat
  deriving DecidableEq, Repr

/-- Why a document is not read. -/
inductive ReadFault where
  /-- Its octets are no text. -/
  | encoding (fault : EncodingFault)
  /-- It is no JSON. -/
  | grammar (flaw : Flaw) (place : Place)
  /-- A whole number has too many digits. -/
  | digits (count : Nat)
  /-- Its arrays and objects stand too deep inside one another. -/
  | tooDeep (nesting : Nesting)
  deriving DecidableEq, Repr

/-- What is wrong, in words. -/
def Flaw.text : Flaw → String
  | .value => "Expecting value"
  | .name => "Expecting property name enclosed in double quotes"
  | .colon => "Expecting ':' delimiter"
  | .comma => "Expecting ',' delimiter"
  | .extra => "Extra data"
  | .unterminated => "Unterminated string starting at"
  | .control => "Invalid control character at"
  | .escape => "Invalid \\escape"
  | .hexEscape => "Invalid \\uXXXX escape"

/-- What is nested, in words. -/
def Nesting.text : Nesting → String
  | .array => "array"
  | .object => "object"

namespace Place

/-- The place after the first `offset` points of a document. -/
def after (ps : List Point) (offset : Nat) : Place :=
  let front := ps.take offset
  { line := front.count (.char '\n') + 1
    column := (front.reverse.takeWhile fun p => p ≠ .char '\n').length + 1
    offset }

/-- A place in words. -/
def text (p : Place) : String :=
  "line " ++ toString p.line ++ " column " ++ toString p.column ++ " (char " ++
    toString p.offset ++ ")"

end Place

namespace ReadFault

/-- The message of a fault. -/
def message : ReadFault → String
  | .encoding fault => fault.message
  | .grammar flaw place => flaw.text ++ ": " ++ place.text
  | .digits count =>
    "Exceeds the limit (" ++ toString Number.maxDigits ++
      " digits) for integer string conversion: value has " ++ toString count ++
      " digits; use sys.set_int_max_str_digits() to increase the limit"
  | .tooDeep nesting =>
    "maximum recursion depth exceeded while decoding a JSON " ++ nesting.text ++
      " from a unicode string"

/-- The document is given up for its depth. -/
def isTooDeep : ReadFault → Bool
  | .tooDeep _ => true
  | _ => false

end ReadFault
end Json
end LoginGate
