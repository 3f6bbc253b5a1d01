/-
# Outcomes

What the gate decides on a request.  After an outcome with `isSent` the response is written and the
application does not run.

| outcome | sent |
| --- | --- |
| `deferred`, `unauthenticated` | no |
| `challenged`, `failed` | yes |
| `authenticated` | after a callback |
-/

import LoginGate.Identity

namespace LoginGate

/-- The decision on a request. -/
inductive Outcome where
  | deferred
  | unauthenticated
  | challenged
  | authenticated (result : AuthResult) (sent : Bool)
  | failed (reason : String)
  deriving DecidableEq, Repr

namespace Outcome

/-- The name of an outcome. -/
def status : Outcome → String
  | .deferred => "deferred"
  | .unauthenticated => "unauthenticated"
  | .challenged => "challenged"
  | .authenticated _ _ => "authenticated"
  | .failed _ => "failed"

/-- Why a request failed. -/
def reason? : Outcome → Option String
  | .failed reason => some reason
  | _ => none

/-- The login of an authenticated request. -/
def result? : Outcome → Option AuthResult
  | .authenticated result _ => some result
  | _ => none

/-- The response is written. -/
def isSent : Outcome → Bool
  | .challenged => true
  | .authenticated _ sent => sent
  | .failed _ => true
  | _ => false

/-- The request is authenticated. -/
def isAuthenticated (o : Outcome) : Bool :=
  o.result?.isSome

end Outcome
end LoginGate
