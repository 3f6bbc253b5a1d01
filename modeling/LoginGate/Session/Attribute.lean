/-
# What a session holds

The gate writes values of one kind under each of its attributes, but an application may write any
other value there.  So the gate asks of what it finds whether it is there and not null (`present`),
or counts as true (`truthy`), and hands it on as it is: a method that it puts back, or an address
that it sends the browser to, may be no text.
-/

import LoginGate.Form
import LoginGate.Identity
import LoginGate.Json.Spelled

namespace LoginGate

/-- The value of an attribute. -/
inductive Attribute where
  | result (r : AuthResult)
  | form (f : Form)
  | json (v : Json)
  deriving DecidableEq, Repr

namespace Attribute

/-- The value that is a text. -/
@[match_pattern] abbrev text (s : String) : Attribute := .json (.text (.plain s))

/-- The value that is a wide text. -/
abbrev wide (w : WideText) : Attribute := .json (.text w)

/-- The value that is the fields of an object. -/
abbrev fields (f : Fields) : Attribute := .json (.object f)

/-- The value is null. -/
def isNull : Attribute → Bool
  | .json .null => true
  | _ => false

/-- The value counts as true. -/
def isTruthy : Attribute → Bool
  | .result _ => true
  | .form f => !f.isEmpty
  | .json v => v.isTruthy

/-- The text of a value that is one; none where surrogates stand alone in it. -/
def text? : Attribute → Option String
  | .text s => some s
  | _ => none

/-- The wide text of a value that is one. -/
def wide? : Attribute → Option WideText
  | .json v => v.asText?
  | _ => none

/-- The form of a value that is one. -/
def form? : Attribute → Option Form
  | .form f => some f
  | _ => none

/-- A value as a message shows it, a login by its subject. -/
def spelled : Attribute → WideText
  | .result r => r.identity.subject
  | .form f =>
    Json.spelled (.object (f.map fun (n, vs) => (n, .array (vs.map fun (v : String) => .text v))))
  | .json v => v.spelled

/-- A value that is there and not null. -/
def present (v : Option Attribute) : Option Attribute :=
  v.filter fun v => !v.isNull

/-- A value that is there and counts as true. -/
def truthy (v : Option Attribute) : Option Attribute :=
  v.filter isTruthy

/-- A text is read as itself. -/
@[simp] theorem text?_text (s : String) : (text s).text? = some s :=
  rfl

/-- What is read as a text is that text, in whichever form it is held. -/
theorem eq_text_of_text? {a : Attribute} {s : String} (h : a.text? = some s) : a = text s := by
  unfold text? at h
  split at h
  · exact congrArg text (Option.some.inj h)
  · cases h

/-- A text is spelled as it is. -/
@[simp] theorem spelled_text (s : String) : (text s).spelled = .plain s :=
  rfl

/-- A text counts as there, be it empty. -/
@[simp] theorem present_text (s : String) : present (some (text s)) = some (text s) :=
  rfl

/-- A wide text counts as true unless it is empty. -/
theorem truthy_wide {w : WideText} (h : w ≠ "") : truthy (some (wide w)) = some (wide w) := by
  have : w.isEmpty = false := Bool.eq_false_iff.2 fun empty => h (WideText.isEmpty_iff.1 empty)
  simp [truthy, isTruthy, Json.isTruthy, this]

/-- A text counts as true unless it is empty. -/
theorem truthy_text {s : String} (h : s ≠ "") : truthy (some (text s)) = some (text s) :=
  truthy_wide fun same => h (WideText.plain.inj same)

end Attribute

end LoginGate
