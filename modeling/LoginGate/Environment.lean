/-
# Settings in the environment

Variables with their texts, and their readings as a switch, a list or a whole number.

| reading | rule |
| --- | --- |
| `flag` | on for `true`, `1`, `yes`, `y`, `on`, whatever the case and the blanks around |
| `list` | the words between commas and blanks |
| `int` | a whole number, else the default |
-/

import LoginGate.Log
import LoginGate.Number.Reader
import LoginGate.Text.Case

namespace LoginGate

/-- Variables and their texts. -/
abbrev Environment := List (String × String)

namespace Environment

/-- The text of a variable that is set. -/
def get? (name : String) (env : Environment) : Option String :=
  env.lookup name

/-- The text of a variable, empty where it is not set. -/
def get (name : String) (env : Environment) : String :=
  (env.get? name).getD ""

/-- The texts that turn a switch on. -/
def onWords : List String := ["true", "1", "yes", "y", "on"]

/-- The switch that a text sets; `default` where the variable is not set. -/
def flag (raw : Option String) (default : Bool) : Bool :=
  match raw with
  | none => default
  | some s => onWords.contains (Text.lower (Text.trim s))

/-- The words of a text, at commas and blanks. -/
def list (raw : Option String) : List String :=
  Text.words (String.ofList ((raw.getD "").toList.map fun c => if c = ',' then ' ' else c))

/-- The whole number of a text; `default` where there is no text or no number. -/
def int (raw : Option String) (default : Int) : Int :=
  match raw with
  | none => default
  | some s => if s.isEmpty then default else (Number.readInt? s).getD default

/-- A variable is set to a text that is no whole number. -/
def isNoInt (raw : Option String) : Bool :=
  raw.any fun s => !s.isEmpty && (Number.readInt? s).isNone

/-- The warning about a variable whose text is no whole number. -/
def intLog (name : String) (env : Environment) : List LogRecord :=
  if isNoInt (env.get? name) then
    [{ source := .environment, level := .warning,
       message := "Ignoring non-integer value for " ++ name }]
  else []

end Environment
end LoginGate
