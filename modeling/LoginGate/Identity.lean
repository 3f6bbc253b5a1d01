/-
# Who is logged in

The identity that a login gives, the credentials that it used up, and the result that a session
keeps.
-/

import LoginGate.Instant
import LoginGate.Provider.TokenEndpoint
import LoginGate.Text.Quoted

namespace LoginGate

/-- A user as the application sees one.  The name is whatever the provider claims. -/
structure Identity where
  subject : WideText
  name : Json := .null
  roles : List String := []
  deriving DecidableEq, Repr

/-- The identity has a role. -/
def Identity.isInRole (i : Identity) (role : String) : Bool :=
  i.roles.contains role

/-- An authorization code, the address it was sent to, and what it yielded once it was redeemed. -/
structure Credentials where
  code : String
  redirectUri : String
  verified : Option Verified := none
  deriving DecidableEq, Repr

namespace Credentials

/-- The code was redeemed. -/
def isRedeemed (c : Credentials) : Bool :=
  c.verified.isSome

/-- The credentials in words, without the code and without what it yielded. -/
def summary (c : Credentials) : String :=
  "OpenIdCredentials(redirect_uri=" ++ Text.quoted c.redirectUri ++ ", redeemed=" ++
    (if c.isRedeemed then "True" else "False") ++ ")"

end Credentials

/-- A completed login. -/
structure AuthResult where
  identity : Identity
  credentials : Option Credentials
  /-- The claims of the ID token. -/
  claims : Fields
  /-- The answer of the token endpoint. -/
  response : Fields
  /-- How the user logged in. -/
  method : String := "OPENID"
  /-- When the user logged in, in whole seconds. -/
  authenticatedAt : Int
  deriving DecidableEq, Repr

/-- The result of a login at a time, if the time can be told. -/
def AuthResult.at (now : Instant) (identity : Identity) (credentials : Option Credentials)
    (claims response : Fields) : Except ClockFault AuthResult :=
  now.wholeSeconds.map fun authenticatedAt =>
    { identity, credentials, claims, response, authenticatedAt }

end LoginGate
