/-
# Routes

A route answers the paths of a template in some methods.  Of the routes of an application the first
that answers the path in the method of the request is taken.

| else | |
| --- | --- |
| a route answers the path in other methods | `otherMethods` |
| a route answers the path with a slash at its end changed | `moved` |
| a number in the path has too many digits for a route | `unreadable` |
| no route does | `missing` |
-/

import LoginGate.Web.Inbound
import LoginGate.Web.PathTemplate

namespace LoginGate

/-- A template of paths, the methods they are answered in, and what answers them. -/
structure Route (α : Type) where
  path : PathTemplate
  methods : List String
  target : α

/-- Where a request leads. -/
inductive Routed (α : Type) where
  /-- A route answers it. -/
  | found (target : α)
  /-- Its path is answered in these methods only. -/
  | otherMethods (methods : List String)
  /-- It is answered at another address. -/
  | moved (i : Inbound)
  /-- A parameter of its path has no value. -/
  | unreadable
  /-- Nothing answers it. -/
  | missing

namespace Route

/-- A route for reading. -/
def read {α : Type} (path : PathTemplate) (target : α) : Route α :=
  ⟨path, ["GET", "HEAD"], target⟩

/-- A route for reading and writing. -/
def readWrite {α : Type} (path : PathTemplate) (target : α) : Route α :=
  ⟨path, ["GET", "HEAD", "POST"], target⟩

/-- A route for writing. -/
def write {α : Type} (path : PathTemplate) (target : α) : Route α :=
  ⟨path, ["POST"], target⟩

/-- The route answers the path. -/
def answers {α : Type} (path : String) (r : Route α) : Bool :=
  r.path.answers path

/-- The route can read the parameters of the path. -/
def reads {α : Type} (path : String) (r : Route α) : Bool :=
  r.path.reads path

/-- The route answers in the method. -/
def isFor {α : Type} (method : WideText) (r : Route α) : Bool :=
  r.methods.any fun m => method = m

/-- The request with the slashes at the end of its path left out, or with one put there. -/
def otherSlash (i : Inbound) : Inbound :=
  { i with
    path := if Text.endsWith '/' i.routePath then Text.dropEndChar '/' i.path else i.path ++ "/" }

/-- Where a request leads among routes. -/
def choose {α : Type} (routes : List (Route α)) (i : Inbound) : Routed α :=
  match routes.filter (answers i.routePath) with
  | r :: rest =>
    match (r :: rest).find? fun r => !reads i.routePath r || isFor i.method r with
    | some r => if reads i.routePath r then .found r.target else .unreadable
    | none => .otherMethods r.methods
  | [] =>
    let other := otherSlash i
    match if i.routePath = "/" then none else routes.find? (answers other.routePath) with
    | some r => if reads other.routePath r then .moved other else .unreadable
    | none => .missing

end Route
end LoginGate
