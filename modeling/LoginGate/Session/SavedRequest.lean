/-
# Saved requests

A request that is interrupted by a login is saved in the session and put back when the browser comes
again.

| operation | rule |
| --- | --- |
| `save` | writes the request, unless one is saved already and saving is not forced |
| `restore` | takes the saved request out, if the browser asks for its very address |
| `target` | where the browser goes after the login; read once |
| `restoredMethod?` | the saved method, for a logged-in browser at the saved address |
-/

import LoginGate.Log
import LoginGate.Request
import LoginGate.Session.Basic

namespace LoginGate

/-- A request as it was saved. -/
structure SavedRequest where
  uri : Attribute
  method : Attribute
  form : Option Attribute
  deriving DecidableEq, Repr

/-- What is put back of a saved request. -/
structure Restoration where
  method : Option Attribute
  form : Option Attribute
  deriving DecidableEq, Repr

namespace SavedRequest

/-- The saved request of a session. -/
def load? (s : Session) : Option SavedRequest :=
  (Attribute.truthy s.uri).map fun uri =>
    { uri
      method := (Attribute.truthy s.method).getD (.text "GET")
      form := Attribute.present s.post }

/-- A record of this part. -/
def record (message : WideText) : LogRecord :=
  .detail .savedRequest message

/-- The session takes a request: it has none, or saving is forced. -/
def takes (always : Bool) (s : Session) : Bool :=
  (Attribute.present s.uri).isNone || always

/-- The session with a request in a method written over what was saved before. -/
def write (q : Request) (method : WideText) (s : Session) : Session :=
  { s with
    uri := some (.text q.url)
    method := some (.wide (Text.upperWide method))
    destination := some (.text q.url)
    post := if q.isFormPost then some (.form (q.form.getD [])) else none }

/-- The session with a request saved, if it takes one.  The address is written first: where the
method is no text, the saving breaks off and leaves a session with the address alone. -/
def save (always : Bool) (q : Request) (s : Session) : Except Session Session :=
  if takes always s then
    match q.method.wide? with
    | some method => .ok (write q method s)
    | none => .error { s with uri := some (.text q.url) }
  else .ok s

/-- The record of a saved request. -/
def savedLog (q : Request) : LogRecord :=
  record ("Saved original request " ++ q.method.spelled ++ " " ++ q.url)

/-- The saved request is for the very address of a request. -/
def isFor (q : Request) (s : Session) : Bool :=
  s.uri == some (.text q.url)

/-- What is put back for a request. -/
def restoration? (q : Request) (s : Session) : Option Restoration :=
  if isFor q s then some ⟨s.method, s.post⟩ else none

/-- The session after its saved request was put back. -/
def drop (s : Session) : Session :=
  { s with uri := none, method := none, post := none }

/-- The record of a request that was put back. -/
def restoredLog (q : Request) (r : Restoration) : LogRecord :=
  let method := (r.method.getD (.json .null)).spelled
  record ("Restored original request " ++ method ++ " " ++ q.url)

/-- The root of the application. -/
def root (q : Request) : String :=
  if q.context.isEmpty then "/" else q.context

/-- Where the browser goes after the login: to the destination, else to the saved address, else to
the root of the application. -/
def target (q : Request) (s : Session) : Attribute :=
  ((Attribute.truthy s.destination).or (Attribute.truthy s.uri)).getD (.text (root q))

/-- The session after the browser was sent on. -/
def arrive (s : Session) : Session :=
  { s with destination := none }

/-- The method to put back on a request of a logged-in browser for the saved address. -/
def restoredMethod? (q : Request) (s : Session) : Option Attribute :=
  if (Attribute.present s.authenticated).isSome && (Attribute.truthy s.uri).isSome && isFor q s then
    Attribute.truthy s.method
  else none

/-- The record of a method that was put back. -/
def methodLog (q : Request) (method : Attribute) : List LogRecord :=
  if method = q.method then []
  else
    [record ("Restoring original method " ++ method.spelled ++ " for " ++ q.url ++
      " with method " ++ q.method.spelled)]

end SavedRequest
end LoginGate
