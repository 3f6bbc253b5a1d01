/-
# ID tokens

An ID token is three segments of base 64 with points between them: a header, a payload and a
signature, the first two JSON objects.  It came over the wire from the provider itself, so the
signature is not verified; the claims of the payload are.

| claim | rule |
| --- | --- |
| `sub`, `aud`, `exp` | there, and not null |
| `exp` | a whole number of seconds later than now less the leeway |
| `iss` | the issuer, where one is configured |
| `aud` | the client, or a list of texts with the client among them |
| `azp` | null or the client; of several audiences one is named |

A check may also end without a verdict, where the clock of token checks fails, or where the token
holds a surrogate that stands alone and cannot be taken as octets.
-/

import LoginGate.Number.Reader
import LoginGate.Provider.Configuration
import LoginGate.Provider.TokenClock
import LoginGate.Text.Base64Url

namespace LoginGate

/-- Why an ID token is refused. -/
inductive IdTokenFault where
  | noText
  | segments
  | headerPadding
  | headerNotJson (fault : Json.ReadFault)
  | headerNoObject
  | payloadPadding
  | signaturePadding
  | payloadNotJson (fault : Json.ReadFault)
  | payloadNoObject
  | keyIdNoText
  | criticalEmpty
  | criticalNoText
  | criticalUnknown (name : WideText)
  | criticalAbsent (name : WideText)
  | plainPayloadPresent
  | plainNotCritical
  | plainDetached
  | missing (claim : String)
  | expiryNoInt
  | expired
  | issuerNoText
  | issuerWrong
  | audienceFormat
  | audienceWrong
  | partyMissing
  | partyWrong
  deriving DecidableEq, Repr

namespace IdTokenFault

/-- The message of a fault. -/
def message : IdTokenFault → WideText
  | .noText => "Invalid token type. Token must be a <class 'bytes'>"
  | .segments => "Not enough segments"
  | .headerPadding => "Invalid header padding"
  | .headerNotJson fault => ("Invalid header string: " ++ fault.message : String)
  | .headerNoObject => "Invalid header string: must be a json object"
  | .payloadPadding => "Invalid payload padding"
  | .signaturePadding => "Invalid crypto padding"
  | .payloadNotJson fault => ("Invalid payload string: " ++ fault.message : String)
  | .payloadNoObject => "Invalid payload string: must be a json object"
  | .keyIdNoText => "Key ID header parameter must be a string"
  | .criticalEmpty => "Invalid 'crit' header: must be a non-empty list"
  | .criticalNoText => "Invalid 'crit' header: values must be strings"
  | .criticalUnknown name => "Unsupported critical extension: " ++ name
  | .criticalAbsent name => "Critical extension '" ++ name ++ "' is missing from headers"
  | .plainPayloadPresent => "Payload segment must be empty when 'b64' is false."
  | .plainNotCritical => "The 'b64' header parameter requires 'b64' to be listed in 'crit'."
  | .plainDetached =>
    ("It is required that you pass in a value for the \"detached_payload\" argument to decode " ++
      "a message having the b64 header set to false." : String)
  | .missing claim => ("Token is missing the \"" ++ claim ++ "\" claim" : String)
  | .expiryNoInt => "Expiration Time claim (exp) must be an integer."
  | .expired => "Signature has expired"
  | .issuerNoText => "Payload Issuer (iss) must be a string"
  | .issuerWrong => "Invalid issuer"
  | .audienceFormat => "Invalid claim format in token"
  | .audienceWrong => "Audience doesn't match"
  | .partyMissing => "multiple audiences without azp"
  | .partyWrong => "azp mismatch"

end IdTokenFault

/-- Why a token yields no claims. -/
inductive IdTokenFailure where
  /-- It is refused. -/
  | refused (fault : IdTokenFault)
  /-- The clock has no reading, so there is no verdict. -/
  | clock (fault : ClockFault)
  /-- It holds a surrogate that stands alone, so that it is no text in octets. -/
  | unencodable
  deriving DecidableEq, Repr

/-- What a token is checked against. -/
structure IdTokenCheck where
  clientId : String
  /-- The issuer, empty where any is accepted. -/
  issuer : String
  /-- How many seconds a token outlives its expiry. -/
  leeway : Seconds
  now : Instant
  /-- How deep its header and its payload may be nested. -/
  depths : Depths

namespace IdToken

/-- The three segments of a token: up to the first point, up to the last one, and the rest. -/
def segments? (token : String) : Option (String × String × String) :=
  match Text.cutAtLast '.' token.toList with
  | none => none
  | some (front, signature) =>
    match Text.cutAt '.' front with
    | (_, none) => none
    | (header, some payload) =>
      some (String.ofList header, String.ofList payload, String.ofList signature)

/-- The fields of an object in octets, or the fault of a text that is none. -/
def objectOf (depth : Nat) (noJson : Json.ReadFault → IdTokenFault) (noObject : IdTokenFault)
    (b : Octets) : Except IdTokenFault Fields :=
  match Json.ofOctets depth b with
  | .error fault => .error (noJson fault)
  | .ok (.object fields) => .ok fields
  | .ok _ => .error noObject

/-- The value, or the fault where there is none. -/
def orFault {α : Type} (fault : IdTokenFault) : Option α → Except IdTokenFault α
  | some a => .ok a
  | none => .error fault

/-- The one extension that a header may call critical: whether the payload is in base 64. -/
def plainName : String := "b64"

/-- An entry of the critical extensions is the known one, and the header has it. -/
def checkCritical (header : Fields) : Json → Except IdTokenFault Unit
  | .text name =>
    if name ≠ (plainName : WideText) then .error (.criticalUnknown name)
    else if (Fields.get? name header).isNone then .error (.criticalAbsent name)
    else .ok ()
  | _ => .error .criticalNoText

/-- The header's key id is a text and its critical extensions are known. -/
def checkHeader (header : Fields) : Except IdTokenFault Unit := do
  if (Fields.get? "kid" header).any fun v => v.asText?.isNone then throw .keyIdNoText
  match Fields.get? "crit" header with
  | none => pure ()
  | some (.array []) => throw .criticalEmpty
  | some (.array entries) => entries.forM (checkCritical header)
  | some _ => throw .criticalEmpty

/-- The header asks for a payload outside of base 64. -/
def isPlain (header : Fields) : Bool :=
  Fields.get? plainName header = some (.bool false)

/-- A payload outside of base 64 does not stand in the token. -/
def checkPayload (header : Fields) (payload : String) : Except IdTokenFault Unit :=
  if isPlain header && !payload.isEmpty then .error .plainPayloadPresent else .ok ()

/-- The header does not ask for a payload outside of base 64, since none comes with the token. -/
def checkPlain (header : Fields) : Except IdTokenFault Unit :=
  if !isPlain header then .ok ()
  else if (Fields.get "crit" header).asItems?.any (·.contains (.text plainName)) then
    .error .plainDetached
  else .error .plainNotCritical

/-- The claims in a token. -/
def read (depths : Depths) (token : String) : Except IdTokenFault Fields := do
  let (h, p, s) ← orFault .segments (segments? token)
  let header ← (orFault .headerPadding (Base64Url.decode? h)).bind
    (objectOf depths.header .headerNotJson .headerNoObject)
  checkPayload header p
  let payload ← orFault .payloadPadding (Base64Url.decode? p)
  let _ ← orFault .signaturePadding (Base64Url.decode? s)
  checkHeader header
  checkPlain header
  objectOf depths.payload .payloadNotJson .payloadNoObject payload

/-- The claims that a token must make, in the order in which they are looked for. -/
def requiredClaims : List String := ["sub", "aud", "exp"]

/-- A claim is there and not null. -/
def checkRequired (claims : Fields) (name : String) : Except IdTokenFault Unit :=
  if Fields.get name claims = .null then .error (.missing name) else .ok ()

/-- The whole number that a claim gives: a fraction is cut off and a text is read. -/
def wholeNumber? : Json → Option Int
  | .bool b => some (if b then 1 else 0)
  | .int n => some n
  | .real d => d.truncate?
  | .text (.plain s) => Number.readInt? s
  | _ => none

/-- A check by itself, as a part of all checks. -/
def verdict {α : Type} (check : Except IdTokenFault α) : Except IdTokenFailure α :=
  check.mapError .refused

/-- The token has not expired. -/
def checkExpiry (c : IdTokenCheck) (claims : Fields) : Except IdTokenFailure Unit := do
  let now ← (TokenClock.reading c.now).mapError .clock
  let exp ← verdict (orFault .expiryNoInt (wholeNumber? (Fields.get "exp" claims)))
  let deadline ← (TokenClock.deadline now c.leeway).mapError .clock
  if Seconds.isBefore (.real deadline) (.whole exp) then pure () else throw (.refused .expired)

/-- The token comes from the issuer. -/
def checkIssuer (c : IdTokenCheck) (claims : Fields) : Except IdTokenFault Unit :=
  if c.issuer.isEmpty then .ok ()
  else match Fields.get? "iss" claims with
    | none => .error (.missing "iss")
    | some (.text iss) => if iss = (c.issuer : WideText) then .ok () else .error .issuerWrong
    | some _ => .error .issuerNoText

/-- The audiences that a claim names. -/
def audiences? : Json → Option (List WideText)
  | .text s => some [s]
  | .array items => items.mapM Json.asText?
  | _ => none

/-- The token is meant for the client. -/
def checkAudience (c : IdTokenCheck) (claims : Fields) : Except IdTokenFault Unit :=
  let aud := Fields.get "aud" claims
  if !aud.isTruthy then .error (.missing "aud")
  else match audiences? aud with
    | none => .error .audienceFormat
    | some l => if l.contains c.clientId then .ok () else .error .audienceWrong

/-- The claim names more than one audience. -/
def isSeveral : Json → Bool
  | .array (_ :: _ :: _) => true
  | _ => false

/-- The party that the token was issued to is the client, and is named where the audiences are
several. -/
def checkParty (c : IdTokenCheck) (claims : Fields) : Except IdTokenFault Unit :=
  let azp := Fields.get "azp" claims
  if azp = .null then
    if isSeveral (Fields.get "aud" claims) then .error .partyMissing else .ok ()
  else if azp = .text c.clientId then .ok () else .error .partyWrong

/-- All checks of the claims, the first that fails answered. -/
def checkClaims (c : IdTokenCheck) (claims : Fields) : Except IdTokenFailure Unit := do
  verdict (requiredClaims.forM (checkRequired claims))
  checkExpiry c claims
  verdict (checkIssuer c claims)
  verdict (checkAudience c claims)
  verdict (checkParty c claims)

/-- The text of a token, which is taken as octets first. -/
def textOf : Json → Except IdTokenFailure String
  | .text (.plain token) => .ok token
  | .text (.ragged _) => .error .unencodable
  | _ => .error (.refused .noText)

/-- The claims of a token that passes all checks. -/
def verify (c : IdTokenCheck) (token : Json) : Except IdTokenFailure Fields := do
  let text ← textOf token
  let claims ← verdict (read c.depths text)
  checkClaims c claims
  pure claims

end IdToken
end LoginGate
