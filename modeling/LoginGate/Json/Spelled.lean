/-
# JSON values in messages

How a value reads inside a message: `None`, `True` and `False` for null and the truth values, texts
between quotes, items and fields with a comma and a blank between.  A value that is itself a text
stands without quotes.
-/

import LoginGate.Json.Basic
import LoginGate.Number.Shortest
import LoginGate.Text.Quoted

namespace LoginGate
namespace Json

/-- The texts with `", "` between any two. -/
def commaJoined (ws : List String) : String :=
  ", ".intercalate ws

mutual

/-- A value inside a message, texts between quotes. -/
def inner : Json → String
  | .null => "None"
  | .bool b => if b then "True" else "False"
  | .int n => toString n
  | .real d => d.text
  | .text s => Text.quoted s
  | .array vs => "[" ++ commaJoined (innerItems vs) ++ "]"
  | .object fs => "\x7b" ++ commaJoined (innerFields fs) ++ "\x7d"

/-- The items of an array inside a message. -/
def innerItems : List Json → List String
  | [] => []
  | v :: r => inner v :: innerItems r

/-- The fields of an object inside a message. -/
def innerFields : List (WideText × Json) → List String
  | [] => []
  | (k, v) :: r => (Text.quoted k ++ ": " ++ inner v) :: innerFields r

end

/-- A value as a message shows it. -/
def spelled : Json → WideText
  | .text s => s
  | v => inner v

end Json
end LoginGate
