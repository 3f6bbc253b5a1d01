/-
# The wire to the provider

Requests to the provider and its answers.  The answers are data: they are taken in order, and the
last one is given for ever.  Without any answer the provider cannot be reached.
-/

import LoginGate.Json.Basic

namespace LoginGate

/-- An answer of the provider. -/
inductive Reply where
  /-- No connection, for the reason given. -/
  | unreachable (text : String)
  | response (status : Int) (body : String)
  deriving DecidableEq, Repr

/-- A request to the provider, or the use of a code. -/
inductive Call where
  | get (url : String)
  | post (url : Json) (fields : List (String × String))
  | exchange (code redirectUri : String)
  deriving DecidableEq, Repr

/-- How many arrays and objects may stand inside one another in a document of the provider.  It is
up to what is under way where the document is read. -/
structure Depths where
  /-- In the discovery document. -/
  discovery : Nat
  /-- In an answer of the token endpoint. -/
  answer : Nat
  /-- In the header of an ID token. -/
  header : Nat
  /-- In the payload of an ID token. -/
  payload : Nat
  deriving DecidableEq, Repr

namespace Provider

/-- Seconds to wait for a connection and for an answer. -/
def timeout : Int × Int := (5, 20)

/-- How much of an answer a message quotes. -/
def quotedLength : Nat := 200

/-- The status is no error of the client or the server. -/
def isGood (status : Int) : Bool :=
  !(400 ≤ status && status < 600)

/-- The next answer and those after it. -/
def next : List Reply → Reply × List Reply
  | [] => (.unreachable "no reply", [])
  | [r] => (r, [r])
  | r :: rs => (r, rs)

end Provider
end LoginGate
