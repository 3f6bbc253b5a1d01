/-
# The identity provider

The endpoints of the provider and the credentials of the client, given outright or found in the
discovery document of the issuer.

| fault | cause |
| --- | --- |
| `clientIdMissing`, `endpointsMissing` | the record itself is unusable |
| `unreachable`, `refused`, `notJson`, `noEndpoints`, `issuerMismatch` | the discovery failed |
| `issuerUnset` | the environment names neither endpoints nor issuer |
| `notAnObject`, `issuerNoText` | the document has another shape than a discovery document |
| `tooDeep` | the document is nested too deep to be read |
-/

import LoginGate.Environment
import LoginGate.Json.Reader
import LoginGate.Provider.Wire

namespace LoginGate

/-- Endpoints of the provider and credentials of the client.  The discovery document may hold any
truthy value as an endpoint. -/
structure Configuration where
  issuer : String
  authorizationEndpoint : Json
  tokenEndpoint : Json
  clientId : String
  clientSecret : String := ""
  scopes : List String := []
  /-- The discovery document. -/
  metadata : Fields := []
  deriving DecidableEq, Repr

/-- Why there is no usable configuration. -/
inductive ConfigurationFault where
  | clientIdMissing
  | endpointsMissing
  | unreachable (text : String)
  | refused (status : Int) (body : String)
  | notJson
  | noEndpoints
  | issuerMismatch (expected : String) (found : WideText)
  | issuerUnset
  | notAnObject
  | issuerNoText
  | tooDeep
  deriving DecidableEq, Repr

namespace ConfigurationFault

/-- The message of a fault; a document of another shape, or too deep to be read, has none. -/
def message? : ConfigurationFault → Option WideText
  | .clientIdMissing => some "client_id is required"
  | .endpointsMissing => some "authorization and token endpoints are required"
  | .unreachable text => some ("discovery request failed: " ++ text)
  | .refused status body =>
    some ("discovery endpoint returned " ++ toString status ++ ": " ++
      Text.firstChars Provider.quotedLength body)
  | .notJson => some "discovery document is not JSON"
  | .noEndpoints => some "discovery document missing endpoints"
  | .issuerMismatch expected found =>
    some (("issuer mismatch: expected " ++ expected ++ ", got " : String) ++ found)
  | .issuerUnset =>
    some "OIDC_ISSUER or both OIDC_AUTHORIZATION_ENDPOINT and OIDC_TOKEN_ENDPOINT must be set"
  | .notAnObject => none
  | .issuerNoText => none
  | .tooDeep => none

end ConfigurationFault

/-- What a client knows of its provider before the discovery. -/
structure Registration where
  issuer : String
  clientId : String
  clientSecret : String := ""
  scopes : List String := []

/-- What building a configuration leads to, with the requests made, the answers left and the records
written on the way. -/
structure Discovery where
  result : Except ConfigurationFault Configuration
  calls : List Call
  replies : List Reply
  log : List LogRecord

namespace Configuration

/-- The configuration, if it has a client id and both endpoints. -/
def check (c : Configuration) : Except ConfigurationFault Configuration :=
  if c.clientId.isEmpty then .error .clientIdMissing
  else if !c.authorizationEndpoint.isTruthy || !c.tokenEndpoint.isTruthy then
    .error .endpointsMissing
  else .ok c

/-- The path of the discovery document below the issuer. -/
def wellKnownPath : String := "/.well-known/openid-configuration"

/-- The address of the discovery document. -/
def discoveryUrl (issuer : String) : String :=
  Text.dropEndChar '/' issuer ++ wellKnownPath

/-- The issuer that a document names, the requested one where it names none. -/
def documentIssuer (requested : String) (doc : Fields) : Json :=
  let found := Fields.get "issuer" doc
  if found.isTruthy then found else .text requested

/-- The fields of the discovery document in an answer. -/
def document (depth : Nat) (reply : Reply) : Except ConfigurationFault Fields :=
  match reply with
  | .unreachable text => .error (.unreachable text)
  | .response status body =>
    if !Provider.isGood status then .error (.refused status body)
    else match Json.ofText depth body with
      | .error fault => .error (if fault.isTooDeep then .tooDeep else .notJson)
      | .ok (.object doc) => .ok doc
      | .ok _ => .error .notAnObject

/-- The configuration before its check, from a document whose issuer agrees with the requested one
up to slashes at the end. -/
def ofDocument (r : Registration) (doc : Fields) : Except ConfigurationFault Configuration :=
  let authorization := Fields.get "authorization_endpoint" doc
  let token := Fields.get "token_endpoint" doc
  if !authorization.isTruthy || !token.isTruthy then .error .noEndpoints
  else match documentIssuer r.issuer doc with
    | .text (.plain found) =>
      if Text.dropEndChar '/' found = Text.dropEndChar '/' r.issuer then
        .ok { issuer := found, authorizationEndpoint := authorization, tokenEndpoint := token,
              clientId := r.clientId, clientSecret := r.clientSecret, scopes := r.scopes,
              metadata := doc }
      else .error (.issuerMismatch r.issuer found)
    -- The requested issuer holds no surrogate, and slashes at the end take none away.
    | .text (.ragged found) => .error (.issuerMismatch r.issuer (.ragged found))
    | _ => .error .issuerNoText

/-- The record of a discovery that succeeded. -/
def discoveredLog (c : Configuration) : LogRecord :=
  { source := .configuration, level := .info, message := "Discovered OpenID provider " ++ c.issuer }

/-- The configuration that the issuer's discovery document gives. -/
def discover (depth : Nat) (r : Registration) (replies : List Reply) : Discovery :=
  let (reply, rest) := Provider.next replies
  let calls := [Call.get (discoveryUrl r.issuer)]
  match (document depth reply).bind (ofDocument r) with
  | .error e => ⟨.error e, calls, rest, []⟩
  | .ok c => ⟨c.check, calls, rest, [discoveredLog c]⟩

/-- The configuration that the environment gives: outright where both endpoints are set, else by
discovery. -/
def ofEnvironment (depth : Nat) (env : Environment) (replies : List Reply) : Discovery :=
  let r : Registration :=
    { issuer := Text.trim (env.get "OIDC_ISSUER")
      clientId := env.get "OIDC_CLIENT_ID"
      clientSecret := env.get "OIDC_CLIENT_SECRET"
      scopes := Environment.list (env.get? "OIDC_SCOPES") }
  let authorization := env.get "OIDC_AUTHORIZATION_ENDPOINT"
  let token := env.get "OIDC_TOKEN_ENDPOINT"
  if !authorization.isEmpty && !token.isEmpty then
    let c : Configuration :=
      { issuer := r.issuer, authorizationEndpoint := .text authorization,
        tokenEndpoint := .text token, clientId := r.clientId, clientSecret := r.clientSecret,
        scopes := r.scopes }
    ⟨c.check, [], replies, []⟩
  else if r.issuer.isEmpty then ⟨.error .issuerUnset, [], replies, []⟩
  else discover depth r replies

end Configuration
end LoginGate
