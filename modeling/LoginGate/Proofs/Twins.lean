/-
# Visits that differ in secrets alone

Twins are two visits that agree in all but secrets, which may stand in four places.

| place | secret |
| --- | --- |
| gate | the secret of the client |
| request | the code and the state, in query or form |
| session | the token, the answer of the provider, and what a login holds of code and answer |
| world | the tokens to come and the answers of the provider |

Steps are discreet that take twins to twins, with values that correspond and with the same fault
where they break off.  The logs of twins are the same, and so are their channels, so what a discreet
step writes tells nothing of a secret.
-/

import LoginGate.Proofs.Course
import Mathlib.Data.List.Forall2

namespace LoginGate

/-! ## Sessions -/

/-- Two logins of one user, at one time and with the same claims. -/
structure AuthResult.Twin (a b : AuthResult) : Prop where
  identity : b.identity = a.identity
  claims : b.claims = a.claims
  method : b.method = a.method
  authenticatedAt : b.authenticatedAt = a.authenticatedAt

namespace Session

/-- What two sessions hold as their logins: the same, or twins. -/
inductive LoginTwin : Option Attribute → Option Attribute → Prop
  | same (v : Option Attribute) : LoginTwin v v
  | login {a b : AuthResult} (h : a.Twin b) : LoginTwin (some (.result a)) (some (.result b))

/-- What two sessions hold as their tokens: the same, or any two texts. -/
inductive TokenTwin : Option Attribute → Option Attribute → Prop
  | same (v : Option Attribute) : TokenTwin v v
  | texts (s t : String) : TokenTwin (some (.text s)) (some (.text t))

/-- Two sessions that differ in secrets alone. -/
structure Twin (a b : Session) : Prop where
  id : b.id = a.id
  authenticated : LoginTwin a.authenticated b.authenticated
  claims : b.claims = a.claims
  uri : b.uri = a.uri
  method : b.method = a.method
  post : b.post = a.post
  destination : b.destination = a.destination
  csrfToken : TokenTwin a.csrfToken b.csrfToken
  notes : b.notes = a.notes

namespace Twin

variable {a b : Session} {r r' : AuthResult} {q p : Request}

/-- A session is a twin of itself. -/
protected theorem refl (a : Session) : a.Twin a :=
  ⟨rfl, .same _, rfl, rfl, rfl, rfl, rfl, .same _, rfl⟩

/-- Twins stay twins under a new id. -/
protected theorem withId (h : a.Twin b) (id : String) : (a.withId id).Twin (b.withId id) :=
  { h with id := rfl }

/-- Twins that keep logins which are twins stay twins: the answer of the provider is a secret. -/
protected theorem cache (h : a.Twin b) (results : r.Twin r') : (a.cache r).Twin (b.cache r') :=
  { h with
    authenticated := .login results
    claims := by rw [Session.cache, Session.cache, results.claims] }

/-- Twins stay twins when the destination is used up. -/
protected theorem arrive (h : a.Twin b) : (SavedRequest.arrive a).Twin (SavedRequest.arrive b) :=
  { h with destination := rfl }

/-- Twins send the browser to the same place. -/
theorem target_eq (h : a.Twin b) (root : SavedRequest.root p = SavedRequest.root q) :
    SavedRequest.target p b = SavedRequest.target q a := by
  rw [SavedRequest.target, SavedRequest.target, h.destination, h.uri, root]

end Twin
end Session

/-! ## Stores -/

/-- Two stores with the same pools and ids to come, and with sessions that are twins. -/
structure SessionStore.Twin (s t : SessionStore) : Prop where
  sessions : List.Forall₂ Session.Twin s.sessions t.sessions
  pool : ∀ name, t.pool name = s.pool name
  ids : t.ids = s.ids

/-- Two sessions that are issued, or refused, alike. -/
structure Issue.Twin (i j : Issue) : Prop where
  result : j.result = i.result
  store : i.store.Twin j.store
  log : j.log = i.log

namespace SessionStore.Twin

variable {s t : SessionStore} {now : Instant} {n : Serial} {name : PoolName} {id : String}
  {a b : Session}

/-- Twins have issued as many sessions. -/
theorem length_eq (h : s.Twin t) : t.sessions.length = s.sessions.length :=
  h.sessions.length_eq.symm

/-- The sessions of a serial are twins, or there is none in either store. -/
theorem session (h : s.Twin t) (n : Serial) :
    ((s.session? n).getD { id := "" }).Twin ((t.session? n).getD { id := "" }) := by
  unfold session?
  have sessions := h.sessions
  generalize s.sessions = l at sessions
  generalize t.sessions = m at sessions
  induction sessions generalizing n with
  | nil => exact .refl _
  | cons twin _ ih =>
    cases n with
    | zero => exact twin
    | succ n => exact ih n

/-- The session of a serial has the same id in both stores. -/
theorem idOf_eq (h : s.Twin t) (n : Serial) : t.idOf n = s.idOf n := by
  have named : ∀ s : SessionStore, s.idOf n = ((s.session? n).getD { id := "" }).id := by
    intro s
    rw [idOf]
    cases s.session? n <;> rfl
  rw [named, named, (h.session n).id]

/-- An id finds the same lease in both stores, since the pools are the same. -/
theorem holder?_eq (h : s.Twin t) (now : Instant) (id : String) :
    t.holder? now id = s.holder? now id := by
  have pending : t.pending = s.pending := h.pool .pending
  have authenticated : t.authenticated = s.authenticated := h.pool .authenticated
  rw [holder?, holder?, pending, authenticated]

/-- The same ids are live in both stores. -/
theorem liveIds_eq (h : s.Twin t) (now : Instant) : t.liveIds now = s.liveIds now := by
  have pending : t.pending = s.pending := h.pool .pending
  have authenticated : t.authenticated = s.authenticated := h.pool .authenticated
  rw [liveIds, liveIds, pending, authenticated]

/-- Twins stay twins when one of the pools is replaced alike. -/
theorem withPool (h : s.Twin t) (name : PoolName) (p : Pool) :
    (s.withPool name p).Twin (t.withPool name p) := by
  refine ⟨?_, fun other => ?_, ?_⟩
  · cases name <;> exact h.sessions
  · cases name with
    | pending =>
      cases other with
      | pending => rfl
      | authenticated => exact h.pool .authenticated
    | authenticated =>
      cases other with
      | pending => exact h.pool .pending
      | authenticated => rfl
  · cases name <;> exact h.ids

/-- Twins stay twins where a session of either is changed alike. -/
theorem modify {f f' : Session → Session} (h : s.Twin t) (n : Serial)
    (change : ∀ a b : Session, a.Twin b → (f a).Twin (f' b)) :
    (s.modify n f).Twin (t.modify n f') := by
  refine ⟨?_, h.pool, h.ids⟩
  change List.Forall₂ Session.Twin (s.sessions.modify n f) (t.sessions.modify n f')
  have sessions := h.sessions
  generalize s.sessions = l at sessions
  generalize t.sessions = m at sessions
  induction sessions generalizing n with
  | nil => simp
  | cons twin rest ih =>
    cases n with
    | zero => exact .cons (change _ _ twin) rest
    | succ n => exact .cons twin (ih n)

/-- A lease is set alike in twins, with the same records. -/
theorem set (h : s.Twin t) (now : Instant) (name : PoolName) (id : String) (n : Serial) :
    (∃ fault, s.set now name id n = .error fault ∧ t.set now name id n = .error fault) ∨
      ∃ s' t' log, s.set now name id n = .ok (s', log) ∧ t.set now name id n = .ok (t', log) ∧
        s'.Twin t' := by
  unfold SessionStore.set
  dsimp only
  rw [h.pool name]
  cases (s.pool name).set now id n with
  | error fault => exact .inl ⟨_, rfl, rfl⟩
  | ok q => exact .inr ⟨_, _, _, rfl, rfl, h.withPool name q⟩

/-- Looking for a session ends alike in twins. -/
theorem get (h : s.Twin t) (now : Instant) (id : String) :
    (t.get now id).1 = (s.get now id).1 ∧ (s.get now id).2.Twin (t.get now id).2 := by
  unfold SessionStore.get
  rw [h.holder?_eq now id]
  cases s.holder? now id with
  | none => exact ⟨rfl, h⟩
  | some found =>
    obtain ⟨name, l⟩ := found
    dsimp only
    obtain ⟨fault, left, right⟩ | ⟨s', t', log, left, right, twin⟩ := h.set now name id l.serial
    · rw [left, right, h.pool name]
      exact ⟨rfl, h.withPool name _⟩
    · rw [left, right]
      exact ⟨rfl, twin⟩

/-- **Twins are issued alike:** under the same id, with the same records. -/
theorem issue (h : s.Twin t) (now : Instant) (name : PoolName) (attributes : a.Twin b) :
    (s.issue now name a).Twin (t.issue now name b) := by
  unfold SessionStore.issue
  rw [h.ids, h.liveIds_eq now, h.length_eq]
  generalize s.ids.drawFree (s.liveIds now) = drawn
  obtain ⟨id, ids⟩ := drawn
  dsimp only
  -- Either the attributes are stored, or nothing of them where the pool refuses.
  have started : ∀ a b : Session, a.Twin b →
      ({ s with ids, sessions := s.sessions ++ [a.withId id] } : SessionStore).Twin
        { t with ids, sessions := t.sessions ++ [b.withId id] } := fun a b twin =>
    ⟨List.rel_append h.sessions (.cons (twin.withId id) .nil), fun name => by
      cases name with
      | pending => exact h.pool .pending
      | authenticated => exact h.pool .authenticated, rfl⟩
  obtain ⟨fault, left, right⟩ | ⟨s', t', log, left, right, twin⟩ :=
    (started a b attributes).set now name id s.sessions.length
  · rw [left, right]
    exact ⟨rfl, started _ _ (.refl _), rfl⟩
  · rw [left, right]
    exact ⟨rfl, twin, rfl⟩

/-- Invalidating an id ends the same leases and writes the same records in both stores. -/
theorem invalidate (h : s.Twin t) (now : Instant) (id : String) :
    (s.invalidate now id).1.Twin (t.invalidate now id).1 ∧
      (t.invalidate now id).2 = (s.invalidate now id).2 := by
  unfold SessionStore.invalidate
  rw [h.holder?_eq now id]
  cases s.holder? now id with
  | none => exact ⟨h, rfl⟩
  | some found =>
    dsimp only
    rw [h.pool found.1]
    exact ⟨h.withPool found.1 _, rfl⟩

/-- **Twins are renewed alike:** under the same id, and what is reported of old, new and evicted
sessions is the same. -/
theorem renew (h : s.Twin t) (now : Instant) (n : Serial) :
    (s.renew now n).Twin (t.renew now n) := by
  have issues := h.issue now .authenticated (h.session n)
  unfold SessionStore.renew
  dsimp only
  rw [(h.session n).id, issues.result]
  generalize s.issue now .authenticated ((s.session? n).getD { id := "" }) = i at issues ⊢
  generalize t.issue now .authenticated ((t.session? n).getD { id := "" }) = j at issues ⊢
  cases result : i.result with
  | error => exact issues
  | ok m =>
    dsimp only
    obtain ⟨twin, log⟩ := issues.store.invalidate now ((s.session? n).getD { id := "" }).id
    exact ⟨rfl, twin, by rw [issues.log, log, twin.idOf_eq]⟩

end SessionStore.Twin

/-! ## Visits -/

/-- Two requests that differ in query and form alone, where both bring a code, and a state both or
neither. -/
structure Request.Twin (q p : Request) : Prop where
  same : p = { q with query := p.query, form := p.form }
  code : (q.parameter "code").isSome = true ∧ (p.parameter "code").isSome = true
  state : (p.parameter "state").isSome = (q.parameter "state").isSome

/-- Two worlds that differ in secrets alone. -/
structure World.Twin (w x : World) : Prop where
  users : x.users = w.users
  now : x.now = w.now
  wall : x.wall = w.wall
  store : w.store.Twin x.store

/-- Two visits that differ in secrets alone, with the same channel and the same log. -/
structure Visit.Twin (v u : Visit) : Prop where
  request : v.request.Twin u.request
  channel : u.channel = v.channel
  world : v.world.Twin u.world
  log : u.log = v.log

namespace Request.Twin

variable {q p : Request}

/-- The id of the session is no secret here: twins name the same one. -/
theorem sessionId_eq (h : q.Twin p) : p.sessionId = q.sessionId := by rw [h.same]

/-- Twins have the same correlation id. -/
theorem correlation_eq (h : q.Twin p) : p.correlation = q.correlation := by rw [h.same]

/-- Twins are sent to the same application. -/
theorem context_eq (h : q.Twin p) : p.context = q.context := by rw [h.same]

/-- The session id stands in the address of both requests or of neither. -/
theorem sessionFromUrl_eq (h : q.Twin p) : p.sessionFromUrl = q.sessionFromUrl := by rw [h.same]

/-- Twins are sent to the same path: only their queries may differ. -/
theorem uri_eq (h : q.Twin p) : p.uri = q.uri := by
  rw [h.same]
  rfl

/-- Twins are redirected with the same status. -/
theorem redirectStatus_eq (h : q.Twin p) : p.redirectStatus = q.redirectStatus := by
  rw [h.same]
  rfl

/-- **A code is redeemed with the same address.** -/
theorem callbackUrl_eq (h : q.Twin p) : p.callbackUrl = q.callbackUrl := by
  rw [h.same]
  rfl

/-- The context of records is the same. -/
theorem logContext_eq (h : q.Twin p) :
    LogContext.of p.sessionId p.correlation = LogContext.of q.sessionId q.correlation := by
  rw [h.sessionId_eq, h.correlation_eq]

/-- Twins stay twins when they are given one session id. -/
theorem withSessionId (h : q.Twin p) (sessionId : Option String) :
    ({ q with sessionId } : Request).Twin { p with sessionId } :=
  ⟨by rw [h.same], h.code, h.state⟩

end Request.Twin

namespace Visit.Twin

variable {v u : Visit}

/-- Twins stay twins when they go on with stores that are twins. -/
theorem withStore {s t : SessionStore} (h : v.Twin u) (stores : s.Twin t) :
    (v.withStore s).Twin (u.withStore t) :=
  ⟨h.request, h.channel, ⟨h.world.users, h.world.now, h.world.wall, stores⟩, h.log⟩

/-- Twins stay twins when the same records are written. -/
theorem logged (h : v.Twin u) (records : List LogRecord) :
    Visit.Twin { v with log := v.log ++ records } { u with log := u.log ++ records } :=
  ⟨h.request, h.channel, h.world, congrArg (· ++ records) h.log⟩

/-- The sessions of a serial are twins in visits that are twins. -/
theorem session (h : v.Twin u) (n : Serial) : (v.session n).Twin (u.session n) :=
  h.world.store.session n

end Visit.Twin

/-! ## Steps -/

namespace Step

variable {α β γ δ : Type} {R : α → β → Prop} {S : γ → δ → Prop} {v u : Visit}

/-- Two steps end as twins: with the same fault, or with values that `R` relates, and the visits
that they leave are twins. -/
inductive Ended (R : α → β → Prop) : Except Fault α × Visit → Except Fault β × Visit → Prop
  | fault {v u : Visit} (fault : Fault) (visits : v.Twin u) :
      Ended R (.error fault, v) (.error fault, u)
  | value {v u : Visit} {a : α} {b : β} (values : R a b) (visits : v.Twin u) :
      Ended R (.ok a, v) (.ok b, u)

/-- Two steps are discreet: from twins they end as twins. -/
def Discreet (R : α → β → Prop) (s : Step α) (t : Step β) : Prop :=
  ∀ v u : Visit, v.Twin u → Ended R (s.on v) (t.on u)

/-- Steps that end as twins, followed on what they left by steps that end as twins. -/
theorem Ended.after {s : Step α} {t : Step β} {f : α → Step γ} {f' : β → Step δ}
    (h : Ended R (s.on v) (t.on u))
    (next : ∀ a b x y, s.on v = (.ok a, x) → t.on u = (.ok b, y) → R a b → x.Twin y →
      Ended S ((f a).on x) ((f' b).on y)) :
    Ended S ((s >>= f).on v) ((t >>= f').on u) := by
  rw [on_bind, on_bind]
  generalize left : s.on v = p at h
  generalize right : t.on u = q at h
  cases h with
  | fault fault visits => exact .fault fault visits
  | value values visits => exact next _ _ _ _ left right values visits

/-- Steps that ended as twins go on as twins, where what comes next is discreet for values that
correspond. -/
theorem Ended.bind {s : Step α} {t : Step β} {f : α → Step γ} {f' : β → Step δ}
    (h : Ended R (s.on v) (t.on u)) (next : ∀ a b, R a b → Discreet S (f a) (f' b)) :
    Ended S ((s >>= f).on v) ((t >>= f').on u) :=
  h.after fun a b x y _ _ values visits => next a b values x y visits

/-- **Discreet steps in a row are discreet.** -/
theorem Discreet.bind {s : Step α} {t : Step β} {f : α → Step γ} {f' : β → Step δ}
    (h : Discreet R s t) (next : ∀ a b, R a b → Discreet S (f a) (f' b)) :
    Discreet S (s >>= f) (t >>= f') :=
  fun v u visits => (h v u visits).bind next

/-- Giving a value changes nothing, so it is discreet for values that correspond. -/
theorem discreet_pure {a : α} {b : β} (values : R a b) : Discreet R (pure a) (pure b) :=
  fun _ _ visits => .value values visits

/-- Steps that look at their visits first. -/
theorem discreet_read {f : Visit → Step α} {f' : Visit → Step β}
    (h : ∀ v u, v.Twin u → Ended R ((f v).on v) ((f' u).on u)) :
    Discreet R (get >>= f) (get >>= f') := by
  intro v u visits
  rw [on_bind_ok (on_get v), on_bind_ok (on_get u)]
  exact h v u visits

/-- Writing records that are told in advance is discreet. -/
theorem discreet_logAll (records : List LogRecord) :
    Discreet Eq (logAll records) (logAll records) :=
  fun _ _ visits => .value rfl (visits.logged records)

/-- Writing a detail is discreet, if its message is the same. -/
theorem discreet_detail (source : Source) (c : LogContext) (message : WideText) :
    Discreet Eq (detail source c message) (detail source c message) :=
  discreet_logAll _

/-- The context of a request holds no secret. -/
theorem discreet_context : Discreet Eq context context := by
  intro v u visits
  rw [on_context, on_context, visits.request.logContext_eq]
  exact .value rfl visits

/-- Reading a session yields twins. -/
theorem discreet_session (n : Serial) : Discreet Session.Twin (session n) (session n) := by
  intro v u visits
  rw [on_session, on_session]
  exact .value (visits.session n) visits

/-- Changing a session is discreet, if the change takes twins to twins. -/
theorem discreet_modifySession {f f' : Session → Session} (n : Serial)
    (change : ∀ a b : Session, a.Twin b → (f a).Twin (f' b)) :
    Discreet Eq (modifySession n f) (modifySession n f') := by
  intro v u visits
  rw [on_modifySession, on_modifySession]
  exact .value rfl (visits.withStore (visits.world.store.modify n change))

/-- Writing to the channel is discreet: the channels are the same. -/
theorem discreet_write (f : Channel → Except ChannelFault Channel) :
    Discreet Eq (write f) (write f) := by
  refine discreet_read fun v u visits => ?_
  rw [visits.channel]
  cases f v.channel with
  | error fault => exact .fault _ visits
  | ok channel => exact .value rfl ⟨visits.request, rfl, visits.world, visits.log⟩

/-- Sending the browser to one place is discreet. -/
theorem discreet_redirect (location : Attribute) :
    Discreet Eq (redirect location) (redirect location) := by
  refine discreet_read fun v u visits => ?_
  rw [visits.request.redirectStatus_eq]
  exact discreet_write _ v u visits

/-- Sending the failure of a login is discreet: where to is a setting. -/
theorem discreet_sendFailure (s : Settings) : Discreet Eq (sendFailure s) (sendFailure s) := by
  intro v u visits
  have same : failure s u.request = failure s v.request := by
    rw [failure, failure, visits.request.redirectStatus_eq, visits.request.context_eq]
  rw [on_sendFailure, on_sendFailure, same]
  exact discreet_write _ v u visits

/-- **Looking for the session of the request** finds the same one in twins. -/
theorem discreet_requestSession : Discreet Eq requestSession requestSession := by
  refine discreet_read fun v u visits => ?_
  rw [visits.request.sessionId_eq, visits.world.now]
  cases v.request.sessionId with
  | none => exact .value rfl visits
  | some id =>
    by_cases blank : id.isEmpty
    · simp only [blank, if_true]
      exact .value rfl visits
    · obtain ⟨found, stores⟩ := visits.world.store.get v.world.now id
      simp only [blank, Bool.false_eq_true, if_false, on_bind, on_setStore]
      rw [found]
      cases (v.world.store.get v.world.now id).1 with
      | error fault => exact .fault _ (visits.withStore stores)
      | ok session => exact .value rfl (visits.withStore stores)

/-- Taking over a session that was issued gives both requests the same id. -/
theorem discreet_issued {i j : Issue} (issues : i.Twin j) : Discreet Eq (issued i) (issued j) := by
  intro v u visits
  have taken := (visits.withStore issues.store).logged i.log
  rw [Gate.on_issued, Gate.on_issued, issues.result, issues.log]
  cases i.result with
  | error fault => exact .fault _ taken
  | ok m =>
    refine .value rfl ⟨?_, taken.channel, taken.world, taken.log⟩
    dsimp only
    rw [issues.store.idOf_eq]
    exact visits.request.withSessionId _

end Step
end LoginGate
