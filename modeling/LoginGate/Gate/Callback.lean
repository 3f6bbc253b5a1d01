/-
# The callback

The provider sends the browser back with a code, or with an error.

| step | failure |
| --- | --- |
| there is a code | the provider's error, or `missing_code` |
| the state is the token of the session | `invalid_state`, refused outright |
| the code logs somebody in | `login_failed` |

After a login the session goes on under a fresh id, and the browser is sent to the request that it
came with at first.
-/

import LoginGate.Gate.Basic
import LoginGate.Gate.Outcome
import LoginGate.Session.Csrf
import LoginGate.Session.SavedRequest

namespace LoginGate
namespace Gate

/-- Asks the login service to log in with credentials: who logged in, if anybody, and the
credentials after that. -/
def attempt (g : Gate) (c : Credentials) : Step (Option Identity × Credentials) := do
  let w := (← get).world
  let a := g.service.login w.users w.wall w.replies c
  modify fun v =>
    { v with
      world := { v.world with replies := a.replies }
      log := v.log ++ a.log
      calls := v.calls ++ a.calls }
  match a.result with
  | .error cause => throw (.breakdown cause)
  | .ok identity => pure (identity, a.credentials)

/-- The result of a login that just succeeded. -/
def loginResult (identity : Identity) (c : Credentials) : Step AuthResult := do
  let verified := c.verified.getD ⟨[], []⟩
  match AuthResult.at (← get).world.wall identity (some c) verified.claims verified.response with
  | .error fault => throw (.breakdown (.clock fault))
  | .ok result => pure result

/-- The session that a login goes on in. -/
def renewSession (session : Option Serial) : Step Serial := do
  let w := (← get).world
  match session with
  | none => throw .noSession
  | some n => Step.issued (w.store.renew w.now n)

/-- Logs in with credentials.  The session is renewed and the login is cached in it, and the request
takes its new id. -/
def login (g : Gate) (c : Credentials) (session : Option Serial) :
    Step (Option (AuthResult × Serial)) := do
  let (found, c) ← g.attempt c
  match found with
  | none => pure none
  | some identity =>
    let result ← loginResult identity c
    let m ← renewSession session
    Step.modifySession m (Session.cache result)
    Step.detail .authenticator (← Step.context) ("login " ++ identity.subject)
    pure (some (result, m))

/-- Forgets the cached login of the request's session; a login under way goes on. -/
def logout : Step Unit := do
  match ← Step.requestSession with
  | none => pure ()
  | some n =>
    Step.modifySession n Session.forget
    Step.detail .authenticator (← Step.context) "logout"

/-- The context of a callback for a session. -/
def callbackContext (session : Option Serial) : Step LogContext := do
  let v ← get
  pure (LogContext.of (session.map v.world.store.idOf) v.request.correlation)

/-- Ends a callback that failed. -/
def failCallback (g : Gate) (context : LogContext) (reason : String) : Step Outcome := do
  Step.detail .callback context ("OpenID authentication FAILED (" ++ reason ++ ")")
  Step.sendFailure g.settings
  pure (.failed reason)

/-- The reason of a callback without a code. -/
def missingReason (q : Request) : String :=
  ((q.parameter "error").filter fun e => !e.isEmpty).getD "missing_code"

/-- Refuses a callback whose state is not the token of its session. -/
def refuseState (context : LogContext) : Step Outcome := do
  Step.logAll
    [{ source := .callback, level := .warning
       message := "auth failed 403: invalid state parameter", context }]
  Step.refuse
  pure (.failed "invalid_state")

/-- Redeems the code of a callback in its session. -/
def redeemCode (g : Gate) (context : LogContext) (code : String) (n : Serial) : Step Outcome := do
  let redirectUri := (← get).request.callbackUrl
  match ← g.login { code, redirectUri } (some n) with
  | none => g.failCallback context "login_failed"
  | some (result, m) =>
    let target := SavedRequest.target (← get).request (← Step.session m)
    Step.modifySession m SavedRequest.arrive
    Step.detail .callback context
      ("authenticated " ++ result.identity.subject ++ " -> " ++ target.spelled)
    Step.redirect target
    pure (.authenticated result true)

/-- Answers a request to the callback address. -/
def callback (g : Gate) (session : Option Serial) : Step Outcome := do
  let context ← callbackContext session
  let q := (← get).request
  match q.parameter "code", session with
  | none, _ => g.failCallback context (missingReason q)
  | some _, none => refuseState context
  | some code, some n =>
    match Csrf.accepts? (← Step.session n) (q.parameter "state") with
    | none => throw .attributeShape
    | some true => g.redeemCode context code n
    | some false => refuseState context

end Gate
end LoginGate
