/-
# The token endpoint

An authorization code is redeemed with one request to the token endpoint.  The answer holds an ID
token, whose claims say who logged in.

| fault | reason |
| --- | --- |
| no connection | `token_request_failed` |
| an error status | `token_endpoint_error` |
| no JSON | `invalid_token_response` |
| no ID token in the answer | `missing_id_token` |
| the ID token is refused | `invalid_id_token` |

An exchange may also break down without a verdict on the code.
-/

import LoginGate.Json.Spelled
import LoginGate.Provider.IdToken

namespace LoginGate

/-- Why a code yields no claims. -/
inductive VerificationFault where
  | requestFailed (text : String)
  | endpointError (status : Int) (body : String)
  | notJson
  | noIdToken
  | idToken (fault : IdTokenFault)
  /-- Refused for a reason of the exchanger's own. -/
  | refused (reason : String) (text : Option String)
  deriving DecidableEq, Repr

namespace VerificationFault

/-- The reason in one word. -/
def reason : VerificationFault → String
  | .requestFailed _ => "token_request_failed"
  | .endpointError _ _ => "token_endpoint_error"
  | .notJson => "invalid_token_response"
  | .noIdToken => "missing_id_token"
  | .idToken _ => "invalid_id_token"
  | .refused reason _ => reason

/-- The text that explains a fault, where there is more to say than the reason. -/
def text? : VerificationFault → Option WideText
  | .requestFailed text => some ("Token request failed: " ++ text : String)
  | .endpointError status body =>
    some ("Token endpoint returned " ++ toString status ++ ": " ++
      Text.firstChars Provider.quotedLength body : String)
  | .notJson => none
  | .noIdToken => some "Token response missing id_token"
  | .idToken fault => some fault.message
  | .refused _ text => text.map .plain

/-- The message of a fault: its text, the reason where that is empty. -/
def message (f : VerificationFault) : WideText :=
  match f.text? with
  | none => f.reason
  | some t => if t.isEmpty then f.reason else t

/-- What a log record says of a fault. -/
def report (f : VerificationFault) : Json :=
  .object [("error", .text "verification_failed"), ("reason", .text f.reason),
    ("message", .text f.message)]

end VerificationFault

/-- What a redeemed code yields. -/
structure Verified where
  claims : Fields
  /-- The whole answer of the token endpoint. -/
  response : Fields
  deriving DecidableEq, Repr

namespace Verified

/-- The subject that claims name, in words; none where it is null. -/
def subjectOf (claims : Fields) : Option WideText :=
  match Fields.get "sub" claims with
  | .null => none
  | v => some v.spelled

end Verified

/-- Why an exchange breaks down. -/
inductive Breakdown where
  /-- The answer is nested too deep to be read. -/
  | depth
  /-- The clock of token checks fails. -/
  | clock (fault : ClockFault)
  /-- The ID token is no text in octets. -/
  | encoding
  deriving DecidableEq, Repr

/-- Why a code yields nothing. -/
inductive ExchangeFault where
  | verification (fault : VerificationFault)
  | breakdown (cause : Breakdown)
  deriving DecidableEq, Repr

/-- What redeeming a code leads to, with the requests made, the answers left and the records written
on the way. -/
structure Exchange where
  result : Except ExchangeFault Verified
  calls : List Call
  replies : List Reply
  log : List LogRecord

namespace TokenEndpoint

/-- Seconds that a token outlives its expiry unless told otherwise. -/
def usualLeeway : Seconds := .whole 30

/-- The fields that redeem a code; the secret is left out where there is none. -/
def requestFields (c : Configuration) (code redirectUri : String) : List (String × String) :=
  [("grant_type", "authorization_code"), ("code", code), ("redirect_uri", redirectUri),
    ("client_id", c.clientId)] ++
    if c.clientSecret.isEmpty then [] else [("client_secret", c.clientSecret)]

/-- What a token is checked against. -/
def checkOf (c : Configuration) (leeway : Seconds) (depths : Depths) (now : Instant) :
    IdTokenCheck :=
  { clientId := c.clientId, issuer := c.issuer, leeway, now, depths }

/-- A fault of verification, as one of an exchange. -/
def unverified {α : Type} (fault : VerificationFault) : Except ExchangeFault α :=
  .error (.verification fault)

/-- The fields of an answer; a JSON value that is no object has none. -/
def answerFields (depth : Nat) : Reply → Except ExchangeFault Fields
  | .unreachable text => unverified (.requestFailed text)
  | .response status body =>
    if !Provider.isGood status then unverified (.endpointError status body)
    else match Json.ofText depth body with
      | .error fault => if fault.isTooDeep then .error (.breakdown .depth) else unverified .notJson
      | .ok v => .ok (v.asFields?.getD [])

/-- The claims and the response that an answer gives. -/
def verified (c : Configuration) (leeway : Seconds) (depths : Depths) (now : Instant)
    (reply : Reply) : Except ExchangeFault Verified := do
  let response ← answerFields depths.answer reply
  let token := Fields.get "id_token" response
  if !token.isTruthy then unverified .noIdToken
  else match IdToken.verify (checkOf c leeway depths now) token with
    | .error (.refused fault) => unverified (.idToken fault)
    | .error (.clock fault) => throw (.breakdown (.clock fault))
    | .error .unencodable => throw (.breakdown .encoding)
    | .ok claims => pure { claims, response }

/-- The record of a redeemed code. -/
def redeemedLog (v : Verified) : LogRecord :=
  { source := .login, level := .info
    message := "Redeemed authorization code for sub=" ++ (Fields.get "sub" v.claims).spelled }

/-- Redeems a code. -/
def exchange (c : Configuration) (leeway : Seconds) (depths : Depths) (now : Instant)
    (replies : List Reply) (code redirectUri : String) : Exchange :=
  let (reply, rest) := Provider.next replies
  let calls := [Call.post c.tokenEndpoint (requestFields c code redirectUri)]
  match verified c leeway depths now reply with
  | .error fault => ⟨.error fault, calls, rest, []⟩
  | .ok v => ⟨.ok v, calls, rest, [redeemedLog v]⟩

end TokenEndpoint
end LoginGate
