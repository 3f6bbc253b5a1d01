/-
# JSON values

A claim, a discovery document or a token response is any JSON value.  Whole numbers are kept apart
from doubles, and the fields of an object stand in the order in which their names first appeared.
Texts and names are wide, since a document may spell surrogates that stand alone.

| notion | rule |
| --- | --- |
| `Fields.get?` | the value of a name |
| `Fields.put` | a name keeps its place, the last value wins |
| `isTruthy` | all but null, false, zero and what is empty |
-/

import LoginGate.Number.Double
import LoginGate.Text.Wide

namespace LoginGate

/-- A JSON value; `real` also holds the infinities and `nan`, which documents may spell. -/
inductive Json where
  | null
  | bool (b : Bool)
  | int (n : Int)
  | real (d : Double)
  | text (s : WideText)
  | array (items : List Json)
  | object (fields : List (WideText × Json))
  deriving Inhabited, Repr

/-- The fields of an object, in order. -/
abbrev Fields := List (WideText × Json)

namespace Json

mutual

/-- Equality of two values is decided field by field. -/
def decEq : (a b : Json) → Decidable (a = b)
  | .null, .null => isTrue rfl
  | .bool a, .bool b => decidable_of_iff (a = b) (by simp)
  | .int a, .int b => decidable_of_iff (a = b) (by simp)
  | .real a, .real b => decidable_of_iff (a = b) (by simp)
  | .text a, .text b => decidable_of_iff (a = b) (by simp)
  | .array a, .array b => @decidable_of_iff _ (a = b) (by simp) (decEqItems a b)
  | .object a, .object b => @decidable_of_iff _ (a = b) (by simp) (decEqFields a b)
  | .null, .bool _ | .null, .int _ | .null, .real _ | .null, .text _ | .null, .array _
  | .null, .object _ | .bool _, .null | .bool _, .int _ | .bool _, .real _ | .bool _, .text _
  | .bool _, .array _ | .bool _, .object _ | .int _, .null | .int _, .bool _ | .int _, .real _
  | .int _, .text _ | .int _, .array _ | .int _, .object _ | .real _, .null | .real _, .bool _
  | .real _, .int _ | .real _, .text _ | .real _, .array _ | .real _, .object _ | .text _, .null
  | .text _, .bool _ | .text _, .int _ | .text _, .real _ | .text _, .array _ | .text _, .object _
  | .array _, .null | .array _, .bool _ | .array _, .int _ | .array _, .real _ | .array _, .text _
  | .array _, .object _ | .object _, .null | .object _, .bool _ | .object _, .int _
  | .object _, .real _ | .object _, .text _ | .object _, .array _ => isFalse (by simp)

/-- Equality of two lists of values. -/
def decEqItems : (a b : List Json) → Decidable (a = b)
  | [], [] => isTrue rfl
  | [], _ :: _ | _ :: _, [] => isFalse (by simp)
  | x :: a, y :: b =>
    match decEq x y, decEqItems a b with
    | isTrue hx, isTrue ha => isTrue (by rw [hx, ha])
    | isFalse hx, _ => isFalse (by simp [hx])
    | _, isFalse ha => isFalse (by simp [ha])

/-- Equality of two lists of fields. -/
def decEqFields : (a b : List (WideText × Json)) → Decidable (a = b)
  | [], [] => isTrue rfl
  | [], _ :: _ | _ :: _, [] => isFalse (by simp)
  | (k, x) :: a, (l, y) :: b =>
    match decEq x y, decEqFields a b with
    | isTrue hx, isTrue ha => decidable_of_iff (k = l) (by simp [hx, ha])
    | isFalse hx, _ => isFalse (by simp [hx])
    | _, isFalse ha => isFalse (by simp [ha])

end

instance : DecidableEq Json := decEq

/-- A value counts as true unless it is null, false, a zero, or empty. -/
def isTruthy : Json → Bool
  | .null => false
  | .bool b => b
  | .int n => n != 0
  | .real d => !d.isZero
  | .text s => !s.isEmpty
  | .array items => !items.isEmpty
  | .object fields => !fields.isEmpty

/-- The text of a value that is a text. -/
def asText? : Json → Option WideText
  | .text s => some s
  | _ => none

/-- The items of a value that is an array. -/
def asItems? : Json → Option (List Json)
  | .array items => some items
  | _ => none

/-- The fields of a value that is an object. -/
def asFields? : Json → Option Fields
  | .object fields => some fields
  | _ => none

/-- The whole number of a value that is one. -/
def asInt? : Json → Option Int
  | .int n => some n
  | _ => none

end Json

namespace Fields

/-- The value under a name. -/
def get? (name : WideText) : Fields → Option Json
  | [] => none
  | (k, v) :: r => if k = name then some v else get? name r

/-- The value under a name, null where there is none. -/
def get (name : WideText) (f : Fields) : Json :=
  (get? name f).getD .null

/-- The fields with a value put under a name: in its place, or last where the name is new. -/
def put (name : WideText) (v : Json) : Fields → Fields
  | [] => [(name, v)]
  | (k, w) :: r => if k = name then (k, v) :: r else (k, w) :: put name v r

/-- The fields without a name. -/
def erase (name : WideText) (f : Fields) : Fields :=
  f.filter fun (k, _) => k ≠ name

end Fields
end LoginGate
