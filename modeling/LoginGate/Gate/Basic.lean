/-
# The gate

A gate is set up once with a provider, settings and a login service.  Its world is what changes from
one request to the next.  A visit is one request in this world; a step of it may end the visit with
a fault, and what was done before the fault stays done.
-/

import LoginGate.Channel
import LoginGate.Login
import LoginGate.Request
import LoginGate.Session.Store
import LoginGate.Settings

namespace LoginGate

/-- How a gate is set up. -/
structure Gate where
  provider : Configuration
  settings : Settings
  service : LoginService

/-- What a gate works on: sessions, users, the tokens and the provider's answers to come, and two
clocks. -/
structure World where
  store : SessionStore
  users : Option Users := none
  tokens : Supply := {}
  replies : List Reply := []
  /-- The clock of the store, which sessions expire by. -/
  now : Instant
  /-- The clock of the system, which logins are stamped with and tokens are checked by; the store
  may have been given another one. -/
  wall : Instant := now
  deriving DecidableEq, Repr

/-- One request in the world, with the records and the calls that it led to. -/
structure Visit where
  world : World
  request : Request
  channel : Channel := .fresh
  log : List LogRecord := []
  calls : List Call := []
  deriving DecidableEq, Repr

/-- Why a visit ends without an outcome. -/
inductive Fault where
  /-- The response cannot be written. -/
  | channel (fault : ChannelFault)
  /-- The store does not take a session, or not once more. -/
  | capacity (fault : CapacityFault)
  /-- The provider's endpoint is no address. -/
  | endpointShape
  /-- The token of a session that is to go into an address is no text. -/
  | tokenShape
  /-- What a session holds as its token, its login or the method to put back is something else. -/
  | attributeShape
  /-- There is no session to go on with. -/
  | noSession
  /-- A login broke down. -/
  | breakdown (cause : Breakdown)
  deriving DecidableEq, Repr

/-- A step of a visit. -/
abbrev Step := ExceptT Fault (StateM Visit)

namespace Step

/-- Runs a step: the value or the fault, and the visit after it. -/
def on {α : Type} (s : Step α) (v : Visit) : Except Fault α × Visit :=
  Id.run (StateT.run (ExceptT.run s) v)

/-- A value is given without a change. -/
@[simp] theorem on_pure {α : Type} (a : α) (v : Visit) : (pure a : Step α).on v = (.ok a, v) :=
  rfl

/-- A fault leaves the visit as it is. -/
@[simp] theorem on_throw {α : Type} (fault : Fault) (v : Visit) :
    (throw fault : Step α).on v = (.error fault, v) :=
  rfl

/-- The visit is read without a change. -/
@[simp] theorem on_get (v : Visit) : (get : Step Visit).on v = (.ok v, v) :=
  rfl

/-- A change of the visit always succeeds. -/
@[simp] theorem on_modify (f : Visit → Visit) (v : Visit) :
    (modify f : Step Unit).on v = (.ok (), f v) :=
  rfl

/-- A step after another runs on what that one left, unless it ended the visit. -/
theorem on_bind {α β : Type} (s : Step α) (f : α → Step β) (v : Visit) :
    (s >>= f).on v =
      match s.on v with
      | (.ok a, v) => (f a).on v
      | (.error fault, v) => (.error fault, v) := by
  simp only [on, bind, ExceptT.bind, ExceptT.mk, ExceptT.run, StateT.bind, StateT.run, Id.run]
  rcases s v with ⟨_ | _, _⟩ <;> rfl

/-- Writes records. -/
def logAll (records : List LogRecord) : Step Unit :=
  modify fun v => { v with log := v.log ++ records }

/-- Writes a detail with a context. -/
def detail (source : Source) (context : LogContext) (message : WideText) : Step Unit :=
  logAll [{ source, level := .debug, message, context }]

/-- The context of the request as it stands. -/
def context : Step LogContext := do
  let q := (← get).request
  pure (LogContext.of q.sessionId q.correlation)

/-- Changes the request. -/
def modifyRequest (f : Request → Request) : Step Unit :=
  modify fun v => { v with request := f v.request }

/-- Changes the store. -/
def setStore (s : SessionStore) : Step Unit :=
  modify fun v => { v with world := { v.world with store := s } }

/-- The session of a serial. -/
def session (n : Serial) : Step Session := do
  pure (((← get).world.store.session? n).getD { id := "" })

/-- Changes the session of a serial. -/
def modifySession (n : Serial) (f : Session → Session) : Step Unit := do
  setStore ((← get).world.store.modify n f)

/-- The live session that the request names, its lease started again. -/
def requestSession : Step (Option Serial) := do
  let v ← get
  match v.request.sessionId with
  | none => pure none
  | some id =>
    if id.isEmpty then pure none
    else
      let (found, store) := v.world.store.get v.world.now id
      setStore store
      match found with
      | .error fault => throw (.capacity fault)
      | .ok found => pure found

/-- Takes over what issuing a session led to. -/
def issued (i : Issue) : Step Serial := do
  setStore i.store
  logAll i.log
  match i.result with
  | .error fault => throw (.capacity fault)
  | .ok n =>
    modifyRequest fun q => { q with sessionId := some (i.store.idOf n) }
    pure n

/-- Starts a session for the request, which takes its id. -/
def createSession : Step Serial := do
  let w := (← get).world
  issued (w.store.create w.now)

/-- Writes to the channel. -/
def write (f : Channel → Except ChannelFault Channel) : Step Unit := do
  let v ← get
  match f v.channel with
  | .error fault => throw (.channel fault)
  | .ok channel => set { v with channel }

/-- Takes a step with another channel; the channel of the visit is left as it was. -/
def onChannel {α : Type} (channel : Channel) (s : Step α) : Step α :=
  ExceptT.mk fun v =>
    let (r, w) := s.on { v with channel }
    (r, { w with channel := v.channel })

/-- **A step with another channel** writes nothing to the channel of the visit. -/
theorem on_onChannel {α : Type} (channel : Channel) (s : Step α) (v : Visit) :
    (onChannel channel s).on v =
      ((s.on { v with channel }).1, { (s.on { v with channel }).2 with channel := v.channel }) :=
  rfl

/-- Sends the browser to another address. -/
def redirect (location : Attribute) : Step Unit := do
  write (Channel.redirect (← get).request.redirectStatus location)

/-- The status of a refused request. -/
def forbidden : Int := 403

/-- Refuses the request. -/
def refuse : Step Unit :=
  write (Channel.error forbidden)

/-- Answers a failed login: a redirect to the error page, or a refusal where there is none. -/
def sendFailure (s : Settings) : Step Unit := do
  match s.errorPage with
  | none => refuse
  | some page => redirect (.text (Address.join (← get).request.context (some page)))

end Step
end LoginGate
