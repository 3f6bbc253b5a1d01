/-
# Logging in

A login turns credentials into an identity: it redeems the code unless that was done before, takes
the subject from the claims, and asks the directory.

| directory | subject | login | cached login |
| --- | --- | --- | --- |
| none | any | accepted | valid |
| there | known | accepted with its roles | valid |
| there | unknown | accepted if newcomers are | valid if newcomers are and it was not revoked |
-/

import LoginGate.Identity
import LoginGate.Users

namespace LoginGate

/-- Who redeems codes. -/
inductive Exchanger where
  /-- A list of codes with what they yield; any other code is refused. -/
  | book (entries : List (String × Except VerificationFault Verified))
  /-- The token endpoint of a provider, with the seconds that a token outlives its expiry and how
  deep its answers may be nested. -/
  | endpoint (provider : Configuration) (leeway : Seconds) (depths : Depths)

/-- How logins are decided. -/
structure LoginService where
  exchanger : Exchanger
  /-- Subjects that the directory does not know are accepted. -/
  newcomers : Bool := false

/-- What a login leads to, with the requests made, the answers left and the records written on the
way. -/
structure LoginAttempt where
  /-- Who logged in, nobody where the login is refused; no answer where the exchange broke down. -/
  result : Except Breakdown (Option Identity)
  credentials : Credentials
  calls : List Call
  replies : List Reply
  log : List LogRecord

namespace Exchanger

/-- The refusal of a code that is not in the book. -/
def unknownCode : VerificationFault := .refused "invalid_grant" none

/-- Redeems a code. -/
def exchange (e : Exchanger) (now : Instant) (replies : List Reply) (code redirectUri : String) :
    Exchange :=
  match e with
  | .book entries =>
    ⟨((entries.lookup code).getD (.error unknownCode)).mapError .verification,
      [.exchange code redirectUri], replies, []⟩
  | .endpoint provider leeway depths =>
    TokenEndpoint.exchange provider leeway depths now replies code redirectUri

end Exchanger

namespace LoginService

/-- What credentials yield, redeemed at most once. -/
def redeem (s : LoginService) (now : Instant) (replies : List Reply) (c : Credentials) : Exchange :=
  match c.verified with
  | some v => ⟨.ok v, [], replies, []⟩
  | none => s.exchanger.exchange now replies c.code c.redirectUri

/-- The name that claims give: the first of three that counts as true, else the last. -/
def nameOf (claims : Fields) : Json :=
  let name := Fields.get "name" claims
  let preferred := Fields.get "preferred_username" claims
  if name.isTruthy then name
  else if preferred.isTruthy then preferred else Fields.get "email" claims

/-- The roles of a subject that may log in. -/
def rolesFor (s : LoginService) (users : Option Users) (subject : WideText) :
    Option (List String) :=
  match users with
  | none => some []
  | some u =>
    match u.roles? subject with
    | some roles => some roles
    | none => if s.newcomers then some [] else none

/-- The record of a refused code. -/
def refusedLog (fault : VerificationFault) : LogRecord :=
  { source := .login, level := .warning
    message := "OpenID login failed: " ++ fault.report.spelled }

/-- The record of claims without a subject. -/
def noSubjectLog : LogRecord :=
  { source := .login, level := .warning
    message := "OpenID login failed: claims carry no subject" }

/-- The record of a subject that the directory does not know. -/
def unknownLog (subject : WideText) : LogRecord :=
  { source := .login, level := .info, message := "Rejected unknown subject " ++ subject }

/-- The identity that claims give, or the record of why they give none. -/
def identify (s : LoginService) (users : Option Users) (claims : Fields) :
    Except LogRecord Identity :=
  match Verified.subjectOf claims with
  | none => .error noSubjectLog
  | some subject =>
    if subject.isEmpty then .error noSubjectLog
    else match s.rolesFor users subject with
      | none => .error (unknownLog subject)
      | some roles => .ok { subject, name := nameOf claims, roles }

/-- Logs in with credentials. -/
def login (s : LoginService) (users : Option Users) (now : Instant) (replies : List Reply)
    (c : Credentials) : LoginAttempt :=
  let e := s.redeem now replies c
  match e.result with
  | .error (.breakdown cause) => ⟨.error cause, c, e.calls, e.replies, e.log⟩
  | .error (.verification fault) =>
    ⟨.ok none, c, e.calls, e.replies, e.log ++ [refusedLog fault]⟩
  | .ok v =>
    let redeemed := { c with verified := some v }
    match s.identify users v.claims with
    | .error record => ⟨.ok none, redeemed, e.calls, e.replies, e.log ++ [record]⟩
    | .ok identity => ⟨.ok (some identity), redeemed, e.calls, e.replies, e.log⟩

/-- A login that was cached still holds. -/
def validates (s : LoginService) (users : Option Users) (identity : Identity) : Bool :=
  match users with
  | none => true
  | some u => u.isActive identity.subject || (s.newcomers && !u.isRevoked identity.subject)

end LoginService
end LoginGate
