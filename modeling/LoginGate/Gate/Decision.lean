/-
# The decision on a request

`validate` decides on every request by the first rule that applies, but an error page that is the
callback as well is the callback:

| rule | outcome |
| --- | --- |
| no login needed, and not the callback | `deferred` |
| the error page, on a channel that is not deferred | `deferred` |
| the session id stands in the address | `failed` |
| the callback | what `callback` answers |
| a cached login that still holds | `authenticated` |
| the channel is deferred | `unauthenticated` |
| else: the request is saved and the browser sent to the provider | `challenged` |

A cached login that does not hold any more is dropped on the way.
-/

import LoginGate.Challenge
import LoginGate.Gate.Callback

namespace LoginGate

/-- What a request is, as messages name it. -/
inductive RequestState where
  | notMandatory
  | isCallback
  | isErrorPage
  | cachedValid
  | cachedRevoked
  | needsChallenge
  deriving DecidableEq, Repr

/-- The name of a state in messages. -/
def RequestState.text : RequestState → String
  | .notMandatory => "not_mandatory"
  | .isCallback => "is_callback"
  | .isErrorPage => "is_error_page"
  | .cachedValid => "cached_valid"
  | .cachedRevoked => "cached_revoked"
  | .needsChallenge => "needs_challenge"

namespace Gate

/-- Puts the method of the saved request back, if the browser comes to it after its login. -/
def prepare : Step Bool := do
  match ← Step.requestSession with
  | none => pure false
  | some n =>
    let q := (← get).request
    match SavedRequest.restoredMethod? q (← Step.session n) with
    | none => pure false
    | some method =>
      Step.logAll (SavedRequest.methodLog q method)
      Step.modifyRequest fun q => { q with method }
      pure true

/-- What a request is by its address alone. -/
def classify (g : Gate) (q : Request) (deferred mandatory : Bool) : Option RequestState :=
  if isCallback q.uri then some .isCallback
  else if !mandatory then some .notMandatory
  else if g.settings.isErrorPage (some q.pathInContext) && !deferred then some .isErrorPage
  else none

/-- The request with what was saved put back. -/
def restore (r : Restoration) (q : Request) : Request :=
  { q with
    method := (Attribute.truthy r.method).getD q.method
    form := (r.form.bind Attribute.form?).or q.form
    restored := true }

/-- Puts the saved request back into the request, if it asks for its address. -/
def replay (n : Serial) : Step Unit := do
  let q := (← get).request
  match SavedRequest.restoration? q (← Step.session n) with
  | none => pure ()
  | some r =>
    Step.modifySession n SavedRequest.drop
    Step.logAll [SavedRequest.restoredLog q r]
    Step.modifyRequest (restore r)

/-- The record of a cached login that does not hold any more. -/
def invalidLog (i : Identity) : LogRecord :=
  .detail .cache ("Identity " ++ i.subject ++ " no longer valid")

/-- Whether a cached login still holds. -/
def stillValid (g : Gate) (r : AuthResult) : Step Bool := do
  let valid := g.service.validates (← get).world.users r.identity
  if !valid then Step.logAll [invalidLog r.identity]
  pure valid

/-- The outcome of a cached login that still holds; a login that does not is dropped. -/
def cached (g : Gate) (context : LogContext) (n : Serial) : Step (Option Outcome) := do
  match Attribute.present (← Step.session n).authenticated with
  | none => pure none
  | some (.result r) =>
    if ← g.stillValid r then
      replay n
      Step.detail .authenticator context
        ("auth " ++ r.identity.subject ++ " (" ++ RequestState.cachedValid.text ++ ")")
      pure (some (.authenticated r false))
    else
      Step.detail .authenticator context
        ("auth revoked " ++ r.identity.subject ++ " (" ++ RequestState.cachedRevoked.text ++ ")")
      Step.modifySession n Session.forget
      pure none
  | some _ => throw .attributeShape

/-- Saves the request in a session. -/
def saveRequest (g : Gate) (n : Serial) : Step Unit := do
  let q := (← get).request
  let always := g.settings.alwaysSave
  let before ← Step.session n
  match SavedRequest.save always q before with
  | .error begun =>
    Step.modifySession n fun _ => begun
    throw .attributeShape
  | .ok after =>
    Step.modifySession n fun _ => after
    if SavedRequest.takes always before then Step.logAll [SavedRequest.savedLog q]

/-- The token of a session, which is given one if it has none. -/
def ensureToken (n : Serial) : Step String := do
  let i := Csrf.ensure (← get).world.tokens (← Step.session n)
  modify fun v => { v with world := { v.world with tokens := i.tokens } }
  Step.modifySession n fun _ => i.session
  Step.logAll i.log
  match i.token.text? with
  | none => throw .tokenShape
  | some token => pure token

/-- The address of the provider for a challenge in a session. -/
def challengeUrl (g : Gate) (n : Serial) : Step WideText := do
  let token ← ensureToken n
  let q := (← get).request
  match Challenge.url? g.provider q token with
  | none => throw .endpointShape
  | some url =>
    Step.logAll [Challenge.builtLog q token]
    pure url

/-- Saves the request and sends the browser to the provider. -/
def challenge (g : Gate) (context : LogContext) (session : Option Serial) : Step Outcome := do
  let n ← match session with
    | some n => pure n
    | none => Step.createSession
  g.saveRequest n
  let url ← g.challengeUrl n
  Step.detail .authenticator context
    ("challenge (" ++ RequestState.needsChallenge.text ++ ") -> " ++
      g.provider.authorizationEndpoint.spelled)
  Step.redirect (.wide url)
  pure .challenged

/-- Decides on a request that needs a login and is not the callback. -/
def protect (g : Gate) (context : LogContext) (session : Option Serial) : Step Outcome := do
  let found ← match session with
    | some n => g.cached context n
    | none => pure none
  match found with
  | some outcome => pure outcome
  | none =>
    if (← get).channel.isDeferred then
      Step.detail .authenticator context "auth deferred, cannot challenge"
      pure .unauthenticated
    else g.challenge context session

/-- Leaves a request to the application. -/
def defer (context : LogContext) (state : RequestState) : Step Outcome := do
  Step.detail .authenticator context
    ("auth deferred (" ++ state.text ++ ") " ++ (← get).request.uri)
  pure .deferred

/-- Refuses a request whose session id stands in the address. -/
def refuseUrlSession (g : Gate) (context : LogContext) : Step Outcome := do
  Step.detail .authenticator context
    "Session ID should be cookie for OpenID authentication to work"
  Step.sendFailure g.settings
  pure (.failed "session_id_from_url")

/-- Decides on a request. -/
def validate (g : Gate) (mandatory : Bool) : Step Outcome := do
  let context ← Step.context
  let v ← get
  let state := g.classify v.request v.channel.isDeferred mandatory
  match state with
  | some .notMandatory => defer context .notMandatory
  | some .isErrorPage => defer context .isErrorPage
  | _ =>
    if v.request.sessionFromUrl then g.refuseUrlSession context
    else
      let session ← Step.requestSession
      if state = some .isCallback then g.callback session else g.protect context session

/-- Looks for a cached login of a request that was left to the application, without sending
anything. -/
def resolve (g : Gate) : Step Outcome := do
  if isCallback (← get).request.uri then pure .unauthenticated
  else
    let outcome ← Step.onChannel .deferred (g.validate true)
    if outcome.isAuthenticated && !outcome.isSent then pure outcome else pure .unauthenticated

end Gate
end LoginGate
