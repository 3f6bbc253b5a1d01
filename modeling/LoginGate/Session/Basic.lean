/-
# Sessions

What the gate remembers of a browser.

| attribute | holds |
| --- | --- |
| `authenticated`, `claims`, `response` | the cached login |
| `uri`, `method`, `post` | the saved request |
| `destination` | where the browser goes after the login |
| `csrfToken` | the text that the provider has to send back |

An application may write attributes of its own beside these.
-/

import LoginGate.Session.Attribute

namespace LoginGate

/-- A session. -/
structure Session where
  id : String
  authenticated : Option Attribute := none
  claims : Option Attribute := none
  response : Option Attribute := none
  uri : Option Attribute := none
  method : Option Attribute := none
  post : Option Attribute := none
  destination : Option Attribute := none
  csrfToken : Option Attribute := none
  /-- Attributes that the gate does not use, under their full names. -/
  notes : List (String × Attribute) := []
  deriving DecidableEq, Repr

/-- The attributes that the gate uses. -/
inductive SessionKey where
  | authenticated
  | claims
  | response
  | uri
  | method
  | post
  | destination
  | csrfToken
  deriving DecidableEq, Repr

namespace SessionKey

/-- The text in front of the names of the gate's attributes. -/
def area : String := "openid_authenticator."

/-- The short name of an attribute. -/
def shortName : SessionKey → String
  | .authenticated => "authenticated"
  | .claims => "claims"
  | .response => "response"
  | .uri => "uri"
  | .method => "method"
  | .post => "post"
  | .destination => "destination"
  | .csrfToken => "csrf_token"

/-- The full name of an attribute. -/
def fullName (k : SessionKey) : String :=
  area ++ k.shortName

/-- All attributes. -/
def all : List SessionKey :=
  [.authenticated, .claims, .response, .uri, .method, .post, .destination, .csrfToken]

/-- The attribute of a full name. -/
def ofFullName? (name : String) : Option SessionKey :=
  all.find? fun k => k.fullName == name

end SessionKey

namespace Session

/-- The value of one of the gate's attributes. -/
def read (s : Session) : SessionKey → Option Attribute
  | .authenticated => s.authenticated
  | .claims => s.claims
  | .response => s.response
  | .uri => s.uri
  | .method => s.method
  | .post => s.post
  | .destination => s.destination
  | .csrfToken => s.csrfToken

/-- The session with one of the gate's attributes set to a value, or removed. -/
def write (k : SessionKey) (v : Option Attribute) (s : Session) : Session :=
  match k with
  | .authenticated => { s with authenticated := v }
  | .claims => { s with claims := v }
  | .response => { s with response := v }
  | .uri => { s with uri := v }
  | .method => { s with method := v }
  | .post => { s with post := v }
  | .destination => { s with destination := v }
  | .csrfToken => { s with csrfToken := v }

/-- The session without an attribute. -/
def erase (name : String) (s : Session) : Session :=
  match SessionKey.ofFullName? name with
  | some k => s.write k none
  | none => { s with notes := s.notes.filter fun p => p.1 ≠ name }

/-- The session with a value in an attribute. -/
def put (name : String) (v : Attribute) (s : Session) : Session :=
  match SessionKey.ofFullName? name with
  | some k => s.write k (some v)
  | none => { s with notes := (s.notes.filter fun p => p.1 ≠ name) ++ [(name, v)] }

/-- The attributes under their full names. -/
def attributes (s : Session) : List (String × Attribute) :=
  (SessionKey.all.filterMap fun k => (s.read k).map fun v => (k.fullName, v)) ++ s.notes

/-- The value of an attribute. -/
def get? (name : String) (s : Session) : Option Attribute :=
  s.attributes.lookup name

/-- The full names of the attributes. -/
def names (s : Session) : List String :=
  s.attributes.map Prod.fst

/-- The session under another id. -/
def withId (id : String) (s : Session) : Session :=
  { s with id }

/-- A session id in a message. -/
def shownId (id : String) : String :=
  LogContext.shorten id ++ "****"

/-- The session in words. -/
def summary (s : Session) : String :=
  "Session(id=" ++ shownId s.id ++ ", keys=" ++ toString s.attributes.length ++ ")"

/-- The session with a login and its claims and response cached. -/
def cache (r : AuthResult) (s : Session) : Session :=
  { s with
    authenticated := some (.result r)
    claims := some (.fields r.claims)
    response := some (.fields r.response) }

/-- The session without its cached login. -/
def forget (s : Session) : Session :=
  { s with authenticated := none, claims := none, response := none }

end Session
end LoginGate
