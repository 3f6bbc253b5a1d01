/-
# Inbound requests

A request as the server hands it over: the path unescaped, the query as octets, header values one
character to an octet and names in lower case.

| notion | the mount is removed from the path |
| --- | --- |
| `pathInContext` | wherever the path begins with it |
| `routePath` | where a slash or the end of the path follows it |
-/

import LoginGate.Form
import LoginGate.Request

namespace LoginGate

/-- A request as the server hands it over. -/
structure Inbound where
  /-- Without surrogates, unless it was put back from a session. -/
  method : WideText := "GET"
  scheme : String := "http"
  /-- The host and the port of the server. -/
  server : Option (String × Option Int) := none
  /-- The path that the application is mounted at. -/
  mount : String := ""
  path : String := "/"
  query : Octets := []
  headers : List (String × String) := []
  httpVersion : String := "1.1"
  body : Octets := []
  deriving DecidableEq, Repr

namespace Inbound

/-- The first value of a header. -/
def header? (i : Inbound) (name : String) : Option String :=
  i.headers.lookup name

/-- All values of a header. -/
def headerAll (i : Inbound) (name : String) : List String :=
  (i.headers.filter fun h => h.1 == name).map Prod.snd

/-- The query, one character to an octet. -/
def queryText (i : Inbound) : String :=
  Octets.latin1 i.query

/-- The last value of a parameter in the query. -/
def parameter? (i : Inbound) (name : String) : Option String :=
  (((Form.pairs i.queryText).filter fun p => p.1 == name).getLast?).map Prod.snd

/-- The text, or `/` where it is empty. -/
def orRoot (s : String) : String :=
  if s.isEmpty then "/" else s

/-- The path below the mount, as the gate sees it. -/
def pathInContext (i : Inbound) : String :=
  let path := orRoot i.path
  if !i.mount.isEmpty && Text.begins i.mount path then
    orRoot (Text.dropChars i.mount.length path)
  else path

/-- The path below the mount, as the router sees it. -/
def routePath (i : Inbound) : String :=
  if i.mount.isEmpty then i.path
  else match Text.after? i.mount.toList i.path.toList with
    | none => i.path
    | some [] => ""
    | some ('/' :: r) => String.ofList ('/' :: r)
    | some _ => i.path

/-- The request submits a form. -/
def submitsForm (i : Inbound) : Bool :=
  i.method == "POST" && isFormType ((i.header? "content-type").getD "")

/-- The form that the request submits. -/
def form? (i : Inbound) : Option Form :=
  if i.submitsForm then some (Form.ofOctets i.body) else none

/-- A header that tells about the body. -/
def isBodyHeader (h : String × String) : Bool :=
  h.1 == "content-type" || h.1 == "content-length"

/-- The request with a form as its body. -/
def withForm (f : Form) (i : Inbound) : Inbound :=
  let body := Utf8.encode (Form.write f)
  { i with
    body
    headers := (i.headers.filter fun h => !isBodyHeader h) ++
      [("content-type", formType), ("content-length", toString body.length)] }

end Inbound
end LoginGate
