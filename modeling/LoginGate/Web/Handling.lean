/-
# Handling inbound requests

Handling works on the world of a gate and on the correlation ids to come, and it may break off.
What was done before it broke off stays done.

| operation | does |
| --- | --- |
| `visit` | runs a step of a gate on a request |
| `address` | takes the address of an inbound request |
| `written` | answers with a response that may not be writable |
-/

import LoginGate.Gate.Basic
import LoginGate.Web.Cookie
import LoginGate.Web.Response
import LoginGate.Web.Url

namespace LoginGate

/-- Why handling breaks off. -/
inductive Crash where
  /-- The inbound request has no address. -/
  | url (fault : UrlFault)
  /-- A visit ended without an outcome. -/
  | visit (fault : Fault)
  /-- The session cookie cannot be set. -/
  | cookie (fault : CookieFault)
  /-- A parameter of the path has no value. -/
  | parameter
  /-- A handler needs a user and there is none. -/
  | noUser
  /-- A response cannot be written. -/
  | response (fault : ResponseFault)
  deriving DecidableEq, Repr

/-- Where requests come in: the world of the gate, the correlation ids to come, and the records and
the calls that requests led to. -/
structure Reception where
  world : World
  correlations : Supply := { series := { width := 32, base := 16 } }
  log : List LogRecord := []
  calls : List Call := []
  deriving DecidableEq, Repr

/-- Work on an inbound request. -/
abbrev Handling := ExceptT Crash (StateM Reception)

namespace Handling

/-- Runs the work: the value or the crash, and the reception after it. -/
def on {α : Type} (h : Handling α) (r : Reception) : Except Crash α × Reception :=
  Id.run (StateT.run (ExceptT.run h) r)

/-- A value is given without a change. -/
@[simp] theorem on_pure {α : Type} (a : α) (r : Reception) :
    (pure a : Handling α).on r = (.ok a, r) :=
  rfl

/-- A crash leaves the reception as it is. -/
@[simp] theorem on_throw {α : Type} (crash : Crash) (r : Reception) :
    (throw crash : Handling α).on r = (.error crash, r) :=
  rfl

/-- The reception is read without a change. -/
@[simp] theorem on_get (r : Reception) : (get : Handling Reception).on r = (.ok r, r) :=
  rfl

/-- A change of the reception always succeeds. -/
@[simp] theorem on_modify (f : Reception → Reception) (r : Reception) :
    (modify f : Handling Unit).on r = (.ok (), f r) :=
  rfl

/-- Work after other work runs on what that one left, unless it broke off. -/
theorem on_bind {α β : Type} (h : Handling α) (f : α → Handling β) (r : Reception) :
    (h >>= f).on r =
      match h.on r with
      | (.ok a, r) => (f a).on r
      | (.error crash, r) => (.error crash, r) := by
  simp only [on, bind, ExceptT.bind, ExceptT.mk, ExceptT.run, StateT.bind, StateT.run, Id.run]
  rcases h r with ⟨_ | _, _⟩ <;> rfl

/-- Writes a record. -/
def log (record : LogRecord) : Handling Unit :=
  modify fun r => { r with log := r.log ++ [record] }

/-- The reception after a visit. -/
def after (v : Visit) (r : Reception) : Reception :=
  { r with world := v.world, log := r.log ++ v.log, calls := r.calls ++ v.calls }

/-- Runs a step of a gate on a request: its value, and the visit after it. -/
def visit {α : Type} (q : Request) (s : Step α) : Handling (α × Visit) := do
  let (value, v) := s.on { world := (← get).world, request := q }
  modify (after v)
  match value with
  | .error fault => throw (.visit fault)
  | .ok value => pure (value, v)

/-- A visit gives what its step gives, and the reception takes over all that the step did. -/
theorem on_visit {α : Type} (q : Request) (s : Step α) (r : Reception) :
    (visit q s).on r =
      match s.on { world := r.world, request := q } with
      | (.ok a, v) => (.ok (a, v), after v r)
      | (.error fault, v) => (.error (.visit fault), after v r) := by
  simp only [visit, on_bind, on_get, on_modify]
  rcases s.on { world := r.world, request := q } with ⟨_ | _, _⟩ <;> rfl

/-- The part of an address, if the inbound request has one. -/
def address {α : Type} (part : Except UrlFault α) : Handling α :=
  match part with
  | .error fault => throw (.url fault)
  | .ok value => pure value

/-- A response, if it can be written. -/
def written (response : Except ResponseFault Response) : Handling Response :=
  match response with
  | .error fault => throw (.response fault)
  | .ok response => pure response

/-- A response with fields. -/
def json (status : Int) (f : Fields) : Handling Response :=
  written (Response.json status (.object f))

/-- Draws a correlation id. -/
def drawCorrelation : Handling String := do
  let (id, correlations) := (← get).correlations.draw
  modify fun r => { r with correlations }
  pure id

end Handling
end LoginGate
