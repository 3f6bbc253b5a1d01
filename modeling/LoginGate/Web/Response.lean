/-
# Responses

What is sent back: a status, headers in order, and a body.
-/

import LoginGate.Json.Writer
import LoginGate.Text.Percent

namespace LoginGate

/-- Why a response cannot be written. -/
inductive ResponseFault where
  /-- It holds a number that JSON has no form for. -/
  | number
  /-- A surrogate stands alone in its text. -/
  | surrogate
  deriving DecidableEq, Repr

/-- A response. -/
structure Response where
  status : Int
  headers : List (String × String) := []
  body : Octets := []
  deriving DecidableEq, Repr

namespace Response

/-- A response with a body of a type. -/
def typed (status : Int) (type : String) (body : Octets) : Response :=
  { status, body
    headers := [("content-length", toString body.length), ("content-type", type)] }

/-- A text. -/
def plain (status : Int) (text : String) : Response :=
  typed status "text/plain; charset=utf-8" (Utf8.encode text)

/-- A wide text that is to go into a response. -/
def textOf : WideText → Except ResponseFault String
  | .plain s => .ok s
  | .ragged _ => .error .surrogate

/-- A JSON value. -/
def json (status : Int) (v : Json) : Except ResponseFault Response :=
  match Json.write? false v with
  | none => .error .number
  | some w => (textOf w).map fun s => typed status "application/json" (Utf8.encode s)

/-- A redirect, the characters that an address may not hold escaped. -/
def redirect (status : Int) (location : String) : Response :=
  { status
    headers := [("content-length", "0"),
      ("location", Percent.encode Percent.isAddressMark location)] }

/-- A response without a body. -/
def empty : Response :=
  { status := 204 }

/-- The response to a method that a path does not answer. -/
def notAllowed (methods : List String) : Response :=
  let r := plain 405 "Method Not Allowed"
  { r with headers := ("allow", ", ".intercalate methods) :: r.headers }

/-- The response to a path that nothing answers. -/
def notFound : Response :=
  plain 404 "Not Found"

/-- The response to a request that the application failed on. -/
def failure : Response :=
  plain 500 "Internal Server Error"

/-- The response with more headers after its own. -/
def withHeaders (more : List (String × String)) (r : Response) : Response :=
  { r with headers := r.headers ++ more }

/-- The response with a header set to a value, in its place or last. -/
def setHeader (name value : String) (r : Response) : Response :=
  if r.headers.any fun h => h.1 == name then
    { r with headers := r.headers.map fun h => if h.1 == name then (name, value) else h }
  else r.withHeaders [(name, value)]

end Response
end LoginGate
