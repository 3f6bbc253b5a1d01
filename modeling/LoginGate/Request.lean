/-
# Requests

What the gate knows of an inbound request, and what it derives from it.

| notion | rule |
| --- | --- |
| `uri` | context path and path, `/` where both are empty |
| `url` | origin, `uri`, and the query where there is one |
| `parameter` | the first value in the query, else in the form |
| `isFormPost` | a `POST` whose content type is the form type, whatever the case |
| `redirectStatus` | 302 below HTTP 1.1, else 303 |
| `isCallback` | the first `/j_security_check` of `uri` ends there or at one of `; # / ?` |
-/

import LoginGate.Address
import LoginGate.Form
import LoginGate.Number.Reader
import LoginGate.Session.Attribute

namespace LoginGate

/-- An inbound request.  The gate changes the method, the form and the session id, and marks a
request that it put the saved one back into as `restored`. -/
structure Request where
  /-- A text, unless a session held something else as the method to put back. -/
  method : Attribute
  scheme : String
  host : String
  port : Option Int
  /-- The path below the context path. -/
  path : String
  /-- The query as it was sent. -/
  query : String := ""
  /-- The path that the application is mounted at. -/
  context : String := ""
  contentType : Option String := none
  httpVersion : String := "1.1"
  sessionId : Option String := none
  /-- The session id stood in the address and not in a cookie. -/
  sessionFromUrl : Bool := false
  form : Option Form := none
  correlation : Option String := none
  restored : Bool := false
  deriving DecidableEq, Repr

/-- The content type of a submitted form. -/
def formType : String := "application/x-www-form-urlencoded"

/-- A content type, its parameters left out, is the one of a submitted form. -/
def isFormType (contentType : String) : Bool :=
  Text.lower (Text.trim (Text.upTo ';' contentType)) == formType

/-- The path that the provider sends the browser back to, below the context path. -/
def callbackPath : String := "/j_security_check"

/-- The characters that may follow the callback path. -/
def callbackDelimiters : List Char := [';', '#', '/', '?']

/-- The address leads to the callback: the callback path occurs, and its first occurrence ends the
address or stands before a delimiter. -/
def isCallback (uri : String) : Bool :=
  match Text.find? callbackPath.toList uri.toList with
  | none => false
  | some (_, []) => true
  | some (_, c :: _) => callbackDelimiters.contains c

namespace Request

/-- The path of the request from the root of the server. -/
def uri (q : Request) : String :=
  let u := q.context ++ q.path
  if u.isEmpty then "/" else u

/-- The path below the context path, `/` where it is empty. -/
def pathInContext (q : Request) : String :=
  if q.path.isEmpty then "/" else q.path

/-- The origin that the request was sent to. -/
def origin (q : Request) : String :=
  Address.origin q.scheme q.host q.port

/-- The address of the request with its query. -/
def url (q : Request) : String :=
  let u := q.origin ++ q.uri
  if q.query.isEmpty then u else u ++ "?" ++ q.query

/-- The address that the provider is asked to send the browser back to. -/
def callbackUrl (q : Request) : String :=
  q.origin ++ q.context ++ callbackPath

/-- The first value of a parameter in the query, else in the form. -/
def parameter (q : Request) (name : String) : Option String :=
  match (Form.pairs q.query).find? fun p => p.1 == name with
  | some p => some p.2
  | none => (q.form.map (Form.values name)).bind List.head?

/-- A `POST` with the content type of a form. -/
def isFormPost (q : Request) : Bool :=
  q.method.wide?.any (Text.upperWide · == "POST") &&
    q.contentType.any fun t => !t.isEmpty && isFormType t

/-- The status of a redirect: clients below HTTP 1.1 do not know 303.  No double lies between eleven
tenths and the double that `1.1` writes. -/
def redirectStatus (q : Request) : Int :=
  match Number.readDouble? q.httpVersion with
  | none => 303
  | some v => if v.isBelow 11 10 then 302 else 303

end Request
end LoginGate
