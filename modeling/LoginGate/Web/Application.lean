/-
# Applications behind the gate

An application is a gate and routes behind it.  Every request gets a correlation id, the guard shows
it to the gate, and a handler answers what the guard admits.

| path | answers |
| --- | --- |
| `/healthz` | that the application is up |
| `me` below the base path | who is logged in |
| `logout` below the base path | after the login is forgotten |
-/

import LoginGate.Web.Guard
import LoginGate.Web.Route

namespace LoginGate

/-- What a handler is given. -/
structure Arrival where
  gate : Gate
  inbound : Inbound
  /-- What the gate decided. -/
  outcome : Outcome
  correlation : String

/-- Answers an admitted request. -/
abbrev Handler := Arrival → Handling Response

namespace Arrival

/-- The request as the gate sees it, its body left unread. -/
def request (a : Arrival) : Handling Request :=
  Handling.address
    (Guard.requestOf a.gate.settings.cookieName none (some a.correlation) a.inbound)

/-- Who is logged in, also where no login was needed. -/
def authenticate (a : Arrival) : Handling Outcome := do
  if a.outcome.isAuthenticated then pure a.outcome
  else
    let (outcome, _) ← Handling.visit (← a.request) a.gate.resolve
    pure outcome

/-- The user of a request that needed a login. -/
def user (a : Arrival) : Handling Identity :=
  match a.outcome.result? with
  | none => throw .noUser
  | some result => pure result.identity

end Arrival

namespace Handler

/-- Answers that the application is up. -/
def health : Handler := fun _ =>
  Handling.json 200 [("status", .text "ok")]

/-- A login as it is shown: the answer of the provider stays out. -/
def shown (r : AuthResult) : Fields :=
  [("subject", .text r.identity.subject), ("name", r.identity.name),
    ("roles", .array (r.identity.roles.map fun (role : String) => .text role)),
    ("claims", .object r.claims),
    ("authenticated_at", .int r.authenticatedAt)]

/-- Answers who is logged in. -/
def me : Handler := fun a => do
  let outcome ← a.authenticate
  match outcome.result? with
  | none => Handling.json 401 [("error", .text "unauthenticated")]
  | some result => Handling.json 200 (shown result)

/-- Forgets the login. -/
def logout : Handler := fun a => do
  let _ ← Handling.visit (← a.request) Gate.logout
  Handling.log
    { source := .routes, level := .info, message := "Logged out correlation_id=" ++ a.correlation }
  pure .empty

end Handler

/-- A gate and the routes behind it. -/
structure Application where
  gate : Gate
  routes : List (Route Handler)

namespace Application

/-- The base path of the routes about the login unless another is given. -/
def usualBasePath : String := "/auth"

/-- The routes of an application: its own stand between those that every application has. -/
def routesWith (me logout : PathTemplate) (own : List (Route Handler)) : List (Route Handler) :=
  .read "/healthz" .health :: own ++ [.read me .me, .write logout .logout]

/-- Puts an application behind a gate, if its routes can stand below the base path. -/
def make (gate : Gate) (basePath : String) (own : List (Route Handler)) :
    Except TemplateFault Application := do
  let me ← PathTemplate.ofString (basePath ++ "/me")
  let logout ← PathTemplate.ofString (basePath ++ "/logout")
  pure ⟨gate, routesWith me logout own⟩

/-- The record of an application that is put together. -/
def readyLog (gate : Gate) : LogRecord :=
  { source := .application, level := .info
    message := "OpenID authenticator ready (client_id=" ++ gate.provider.clientId ++
      ", protected=" ++ ",".intercalate gate.settings.protectedPaths ++ ")" }

/-- The header of the correlation id. -/
def correlationHeader : String := "x-correlation-id"

/-- The correlation id of an inbound request: the one that it came with, or a fresh one. -/
def correlationOf (i : Inbound) : Handling String :=
  match (i.header? correlationHeader).filter fun id => !id.isEmpty with
  | some id => pure id
  | none => Handling.drawCorrelation

/-- The record of an inbound request. -/
def arrivalLog (i : Inbound) (path correlation : String) : LogRecord :=
  { source := .correlation, level := .debug, message := "request " ++ i.method ++ " " ++ path
    context := { correlation := some correlation } }

/-- Answers an admitted request by its route. -/
def dispatch (app : Application) (a : Admission) (correlation : String) : Handling Response :=
  match Route.choose app.routes a.inbound with
  | .found handler => handler ⟨app.gate, a.inbound, a.outcome, correlation⟩
  | .otherMethods methods => pure (.notAllowed methods)
  | .moved i => (Handling.address (Url.text i)).map (Response.redirect 307)
  | .unreadable => throw .parameter
  | .missing => pure .notFound

/-- Answers an inbound request. -/
def handle (app : Application) (i : Inbound) : Handling Response := do
  let correlation ← correlationOf i
  let url ← Handling.address (Url.ofInbound i)
  Handling.log (arrivalLog i url.path correlation)
  let response ←
    match ← Guard.enter app.gate (some correlation) i with
    | .answered response => pure response
    | .admitted admission => app.dispatch admission correlation
  pure (response.setHeader correlationHeader correlation)

/-- Answers every inbound request: one that handling breaks off on with a failure. -/
def answer (app : Application) (i : Inbound) (r : Reception) :
    Response × Option Crash × Reception :=
  match (app.handle i).on r with
  | (.error crash, r) => (.failure, some crash, r)
  | (.ok response, r) => (response, none, r)

end Application

/-- A connection that carries no request. -/
inductive Connection where
  /-- The server starts and stops the application. -/
  | lifespan
  /-- A client opens a socket. -/
  | socket
  deriving DecidableEq, Repr

/-- What an application answers: it is ready and it is done, and a socket is closed. -/
def Connection.replies : Connection → List String
  | .lifespan => ["lifespan.startup.complete", "lifespan.shutdown.complete"]
  | .socket => ["websocket.close"]

end LoginGate
