/-
# The courses that a decision can take

For every part of a decision a relation lists the ways in which it can end, each with what decided
on it and with the visit that it leaves; only the log is left open.  The theorem beside a relation
says that the part ends in one of these ways.

| part | relation |
| --- | --- |
| logging in with credentials | `LogsIn` |
| redeeming the code of a callback | `Redeems` |
| answering a callback | `Answers` |
| letting go of a cached login | `Unheld` |
| sending the browser to the provider | `Sends` |
| a challenge in a session | `Challenges` |
| a request that needs a login | `Protects` |
| the whole decision | `Decides` |
| the other calls | `Prepares`, `LogsOut`, `Resolves` |
-/

import LoginGate.Gate.Decision
import LoginGate.Proofs.Steps

namespace LoginGate
namespace Gate

open Step (Ends Finds failure bind_ends)

/-! ## Logging in -/

/-- What the login service says to credentials. -/
def attemptOf (g : Gate) (c : Credentials) (v : Visit) : LoginAttempt :=
  g.service.login v.world.users v.world.wall v.world.replies c

/-- The visit after the login service was asked. -/
def asked (a : LoginAttempt) (v : Visit) : Visit :=
  { v with world := { v.world with replies := a.replies }, calls := v.calls ++ a.calls }

/-- The login of an identity with credentials that were just used. -/
def resultOf (identity : Identity) (c : Credentials) (authenticatedAt : Int) : AuthResult :=
  { identity, credentials := some c, claims := (c.verified.getD ⟨[], []⟩).claims
    response := (c.verified.getD ⟨[], []⟩).response, authenticatedAt }

/-- The visit after its session was issued again as `m`, with a login cached in it. -/
def renewed (i : Issue) (m : Serial) (result : AuthResult) (v : Visit) : Visit :=
  { v.withStore (i.store.modify m (Session.cache result)) with
    request := { v.request with sessionId := some (i.store.idOf m) } }

/-- How logging in with credentials in the session `n` ends. -/
inductive LogsIn (g : Gate) (c : Credentials) (n : Serial) (v : Visit) :
    Except Fault (Option (AuthResult × Serial)) → Visit → Prop
  | broken {cause : Breakdown} (h : (g.attemptOf c v).result = .error cause)
      (log : List LogRecord) :
      LogsIn g c n v (.error (.breakdown cause)) { asked (g.attemptOf c v) v with log }
  | refused (h : (g.attemptOf c v).result = .ok none) (log : List LogRecord) :
      LogsIn g c n v (.ok none) { asked (g.attemptOf c v) v with log }
  | untimed {identity : Identity} {fault : ClockFault}
      (h : (g.attemptOf c v).result = .ok (some identity))
      (time : v.world.wall.wholeSeconds = .error fault) (log : List LogRecord) :
      LogsIn g c n v (.error (.breakdown (.clock fault))) { asked (g.attemptOf c v) v with log }
  | unissued {identity : Identity} {seconds : Int} {fault : CapacityFault}
      (h : (g.attemptOf c v).result = .ok (some identity))
      (time : v.world.wall.wholeSeconds = .ok seconds)
      (issue : (v.world.store.renew v.world.now n).result = .error fault) (log : List LogRecord) :
      LogsIn g c n v (.error (.capacity fault))
        { (asked (g.attemptOf c v) v).withStore (v.world.store.renew v.world.now n).store with log }
  | renewed {identity : Identity} {seconds : Int} {m : Serial}
      (h : (g.attemptOf c v).result = .ok (some identity))
      (time : v.world.wall.wholeSeconds = .ok seconds)
      (issue : (v.world.store.renew v.world.now n).result = .ok m) (log : List LogRecord) :
      LogsIn g c n v (.ok (some (resultOf identity (g.attemptOf c v).credentials seconds, m)))
        { renewed (v.world.store.renew v.world.now n) m
            (resultOf identity (g.attemptOf c v).credentials seconds) (asked (g.attemptOf c v) v)
          with log }

/-- How an attempt to log in ends: with what its login found, which asks the provider and is
recorded. -/
theorem on_attempt (g : Gate) (c : Credentials) (v : Visit) :
    (g.attempt c).on v =
      match (g.attemptOf c v).result with
      | .error cause =>
        (.error (.breakdown cause),
          { asked (g.attemptOf c v) v with log := v.log ++ (g.attemptOf c v).log })
      | .ok found =>
        (.ok (found, (g.attemptOf c v).credentials),
          { asked (g.attemptOf c v) v with log := v.log ++ (g.attemptOf c v).log }) := by
  simp only [attempt, attemptOf, Step.on_bind, Step.on_get, Step.on_modify]
  cases (g.service.login v.world.users v.world.wall v.world.replies c).result <;> rfl

/-- A login is stamped with the whole seconds of the system's clock, which a clock without a number
breaks off. -/
theorem on_loginResult (identity : Identity) (c : Credentials) (v : Visit) :
    (loginResult identity c).on v =
      match v.world.wall.wholeSeconds with
      | .error fault => (.error (.breakdown (.clock fault)), v)
      | .ok seconds => (.ok (resultOf identity c seconds), v) := by
  simp only [loginResult, AuthResult.at, Step.on_bind, Step.on_get]
  cases v.world.wall.wholeSeconds <;> rfl

/-- Issuing a session goes on in the store that it left, be it that no pool took the session. -/
theorem on_issued (i : Issue) (v : Visit) :
    (Step.issued i).on v =
      match i.result with
      | .error fault =>
        (.error (.capacity fault), { v.withStore i.store with log := v.log ++ i.log })
      | .ok m =>
        (.ok m,
          { v.withStore i.store with
            request := { v.request with sessionId := some (i.store.idOf m) }
            log := v.log ++ i.log }) := by
  simp only [Step.issued, Step.on_bind, Step.on_setStore, Step.on_logAll]
  cases i.result <;> rfl

/-- The course of a login in a session. -/
theorem login_logsIn (g : Gate) (c : Credentials) (n : Serial) (v : Visit) :
    LogsIn g c n v ((g.login c (some n)).on v).1 ((g.login c (some n)).on v).2 := by
  simp only [login, Step.on_bind, on_attempt]
  cases h : (g.attemptOf c v).result with
  | error cause => exact .broken h _
  | ok found =>
    cases found with
    | none => exact .refused h _
    | some identity =>
      simp only [Step.on_bind, on_loginResult]
      cases time : v.world.wall.wholeSeconds with
      | error fault =>
        simp only [asked, time]
        exact .untimed h time _
      | ok seconds =>
        simp only [asked, time, renewSession, Step.on_bind, Step.on_get, on_issued]
        cases issue : (v.world.store.renew v.world.now n).result with
        | error fault => exact .unissued h time issue _
        | ok m => exact .renewed h time issue _

/-! ## Callbacks -/

/-- How redeeming a code in the session `n` ends. -/
inductive Redeems (g : Gate) (code : String) (n : Serial) (v : Visit) :
    Except Fault Outcome → Visit → Prop
  | broken {fault : Fault} {w : Visit}
      (login : LogsIn g { code, redirectUri := v.request.callbackUrl } n v (.error fault) w) :
      Redeems g code n v (.error fault) w
  | refused {u w : Visit} {r : Except Fault Outcome}
      (login : LogsIn g { code, redirectUri := v.request.callbackUrl } n v (.ok none) u)
      (ends : Ends (failure g.settings u.request) (.failed "login_failed") u r w) :
      Redeems g code n v r w
  | redeemed {result : AuthResult} {m : Serial} {u w : Visit} {r : Except Fault Outcome}
      (login : LogsIn g { code, redirectUri := v.request.callbackUrl } n v
        (.ok (some (result, m))) u)
      (ends : Ends
        (Channel.redirect u.request.redirectStatus (SavedRequest.target u.request (u.session m)))
        (.authenticated result true)
        (u.withStore (u.world.store.modify m SavedRequest.arrive)) r w) :
      Redeems g code n v r w

/-- How answering a callback in a session, or in none, ends. -/
inductive Answers (g : Gate) (v : Visit) : Option Serial → Except Fault Outcome → Visit → Prop
  | noCode {session : Option Serial} {r : Except Fault Outcome} {w : Visit}
      (given : v.request.parameter "code" = none)
      (ends : Ends (failure g.settings v.request) (.failed (missingReason v.request)) v r w) :
      Answers g v session r w
  | noSession {code : String} {r : Except Fault Outcome} {w : Visit}
      (given : v.request.parameter "code" = some code)
      (ends : Ends (Channel.error Step.forbidden) (.failed "invalid_state") v r w) :
      Answers g v none r w
  | unreadable {n : Serial} {code : String} (given : v.request.parameter "code" = some code)
      (state : Csrf.accepts? (v.session n) (v.request.parameter "state") = none) :
      Answers g v (some n) (.error .attributeShape) v
  | wrongState {n : Serial} {code : String} {r : Except Fault Outcome} {w : Visit}
      (given : v.request.parameter "code" = some code)
      (state : Csrf.accepts? (v.session n) (v.request.parameter "state") = some false)
      (ends : Ends (Channel.error Step.forbidden) (.failed "invalid_state") v r w) :
      Answers g v (some n) r w
  | redeemed {n : Serial} {code : String} {r : Except Fault Outcome} {w : Visit}
      (given : v.request.parameter "code" = some code)
      (state : Csrf.accepts? (v.session n) (v.request.parameter "state") = some true)
      (redeems : Redeems g code n v r w) :
      Answers g v (some n) r w

/-- A callback that fails ends with the reason and the answer that the settings give. -/
theorem failCallback_ends (g : Gate) (c : LogContext) (reason : String) (v : Visit) :
    Ends (failure g.settings v.request) (.failed reason) v
      ((g.failCallback c reason).on v).1 ((g.failCallback c reason).on v).2 := by
  unfold failCallback
  rw [Step.on_bind, Step.on_detail]
  exact Step.sendFailure_ends g.settings (.failed reason) v _

/-- A state that is refused ends with an error, without regard to the settings. -/
theorem refuseState_ends (c : LogContext) (v : Visit) :
    Ends (Channel.error Step.forbidden) (.failed "invalid_state") v
      ((refuseState c).on v).1 ((refuseState c).on v).2 := by
  unfold refuseState
  rw [Step.on_bind, Step.on_logAll]
  exact Step.write_ends _ (.failed "invalid_state") v _

/-- The course of a callback with a code whose state was accepted. -/
theorem redeemCode_redeems (g : Gate) (c : LogContext) (code : String) (n : Serial) (v : Visit) :
    Redeems g code n v ((g.redeemCode c code n).on v).1 ((g.redeemCode c code n).on v).2 := by
  unfold redeemCode
  rw [Step.on_bind, Step.on_get]
  have login := login_logsIn g { code, redirectUri := v.request.callbackUrl } n v
  refine bind_ends (fun found u h => ?_) (fun fault w h => ?_) <;> rw [h] at login
  · cases found with
    | none => exact .refused login (failCallback_ends ..)
    | some found =>
      obtain ⟨result, m⟩ := found
      rw [Step.on_bind_ok (Step.on_get u), Step.on_bind_ok (Step.on_session m u)]
      dsimp only
      rw [Step.on_bind_ok (Step.on_modifySession ..), Step.on_bind_ok (Step.on_detail ..)]
      refine .redeemed login ?_
      exact Step.redirect_ends (SavedRequest.target u.request (u.session m))
        (.authenticated result true) (u.withStore (u.world.store.modify m SavedRequest.arrive)) _
  · exact .broken login

/-- The course of a callback with or without a session. -/
theorem callback_answers (g : Gate) (session : Option Serial) (v : Visit) :
    Answers g v session ((g.callback session).on v).1 ((g.callback session).on v).2 := by
  simp only [callback, callbackContext, Step.on_bind, Step.on_get, Step.on_pure]
  cases given : v.request.parameter "code" with
  | none => exact .noCode given (failCallback_ends ..)
  | some code =>
    cases session with
    | none => exact .noSession given (refuseState_ends ..)
    | some n =>
      simp only [Step.on_bind, Step.on_session]
      cases state : Csrf.accepts? (v.session n) (v.request.parameter "state") with
      | none => exact .unreadable given state
      | some accepted =>
        cases accepted with
        | false => exact .wrongState given state (refuseState_ends ..)
        | true => exact .redeemed given state (redeemCode_redeems ..)

/-! ## Requests that need a login -/

/-- The visit after a session changed. -/
def changed (n : Serial) (f : Session → Session) (v : Visit) : Visit :=
  v.withStore (v.world.store.modify n f)

/-- The visit after what was saved in a session was put back. -/
def replayed (n : Serial) (v : Visit) : Visit :=
  match SavedRequest.restoration? v.request (v.session n) with
  | none => v
  | some r => { changed n SavedRequest.drop v with request := restore r v.request }

/-- The visit after a session was given what a challenge writes into it. -/
def marked (n : Serial) (i : IssuedToken) (v : Visit) : Visit :=
  { v with world :=
      { v.world with store := v.world.store.modify n fun _ => i.session, tokens := i.tokens } }

/-- How sending the browser to the provider with a token ends. -/
inductive Sends (g : Gate) (i : IssuedToken) (v : Visit) : Except Fault Outcome → Visit → Prop
  | tokenless (shown : i.token.text? = none) (log : List LogRecord) :
      Sends g i v (.error .tokenShape) { v with log }
  | unaddressed {token : String} (shown : i.token.text? = some token)
      (address : Challenge.url? g.provider v.request token = none) (log : List LogRecord) :
      Sends g i v (.error .endpointShape) { v with log }
  | sent {token : String} {url : WideText} {r : Except Fault Outcome} {w : Visit}
      (shown : i.token.text? = some token)
      (address : Challenge.url? g.provider v.request token = some url)
      (ends : Ends (Channel.redirect v.request.redirectStatus (.wide url)) .challenged v r w) :
      Sends g i v r w

/-- The request goes on without a cached login: there is no session, or the session holds none, or
the login that it holds was dropped. -/
inductive Unheld (g : Gate) (v : Visit) : Option Serial → Visit → Prop
  | nobody : Unheld g v none v
  | empty {n : Serial} (h : Attribute.present (v.session n).authenticated = none) :
      Unheld g v (some n) v
  | revoked {n : Serial} {result : AuthResult}
      (h : Attribute.present (v.session n).authenticated = some (.result result))
      (invalid : g.service.validates v.world.users result.identity = false) (log : List LogRecord) :
      Unheld g v (some n) { changed n Session.forget v with log }

/-- How a challenge in the session `n` ends. -/
inductive Challenges (g : Gate) (n : Serial) (v : Visit) : Except Fault Outcome → Visit → Prop
  | unsaved {begun : Session}
      (h : SavedRequest.save g.settings.alwaysSave v.request (v.session n) = .error begun) :
      Challenges g n v (.error .attributeShape) (changed n (fun _ => begun) v)
  | saved {after : Session} {u w : Visit} {i : IssuedToken} {r : Except Fault Outcome}
      (h : SavedRequest.save g.settings.alwaysSave v.request (v.session n) = .ok after)
      (left : u = changed n (fun _ => after) v)
      (issue : i = Csrf.ensure u.world.tokens (u.session n))
      (sends : Sends g i (marked n i u) r w) :
      Challenges g n v r w

/-- How deciding on a request that needs a login and is not the callback ends. -/
inductive Protects (g : Gate) (v : Visit) : Option Serial → Except Fault Outcome → Visit → Prop
  | held {n : Serial} {result : AuthResult}
      (h : Attribute.present (v.session n).authenticated = some (.result result))
      (valid : g.service.validates v.world.users result.identity = true) (log : List LogRecord) :
      Protects g v (some n) (.ok (.authenticated result false)) { replayed n v with log }
  | unreadable {n : Serial} {a : Attribute}
      (h : Attribute.present (v.session n).authenticated = some a) (shape : ∀ r, a ≠ .result r) :
      Protects g v (some n) (.error .attributeShape) v
  | passed {session : Option Serial} {u : Visit} (unheld : Unheld g v session u)
      (deferred : v.channel.isDeferred = true) (log : List LogRecord) :
      Protects g v session (.ok .unauthenticated) { u with log }
  | challenged {n : Serial} {u w : Visit} {r : Except Fault Outcome}
      (unheld : Unheld g v (some n) u) (deferred : v.channel.isDeferred = false)
      (challenges : Challenges g n u r w) :
      Protects g v (some n) r w
  | unissued {fault : CapacityFault} (deferred : v.channel.isDeferred = false)
      (issue : (v.world.store.create v.world.now).result = .error fault) (log : List LogRecord) :
      Protects g v none (.error (.capacity fault))
        { v.withStore (v.world.store.create v.world.now).store with log }
  | started {n : Serial} {u w : Visit} {r : Except Fault Outcome}
      (deferred : v.channel.isDeferred = false)
      (issue : (v.world.store.create v.world.now).result = .ok n) (log : List LogRecord)
      (left : u =
        { v.withStore (v.world.store.create v.world.now).store with
          request :=
            { v.request with
              sessionId := some ((v.world.store.create v.world.now).store.idOf n) }
          log })
      (challenges : Challenges g n u r w) :
      Protects g v none r w

/-- The request is left to the application by its address alone. -/
def IsDeferred (g : Gate) (mandatory : Bool) (v : Visit) : Prop :=
  isCallback v.request.uri = false ∧ (mandatory = false ∨
    g.settings.isErrorPage (some v.request.pathInContext) = true ∧ v.channel.isDeferred = false)

/-- How deciding on a request ends. -/
inductive Decides (g : Gate) (mandatory : Bool) (v : Visit) : Except Fault Outcome → Visit → Prop
  | deferred (h : IsDeferred g mandatory v) (log : List LogRecord) :
      Decides g mandatory v (.ok .deferred) { v with log }
  | urlSession {r : Except Fault Outcome} {w : Visit} (h : ¬ IsDeferred g mandatory v)
      (url : v.request.sessionFromUrl = true)
      (ends : Ends (failure g.settings v.request) (.failed "session_id_from_url") v r w) :
      Decides g mandatory v r w
  | unfound {fault : Fault} {w : Visit} (h : ¬ IsDeferred g mandatory v)
      (url : v.request.sessionFromUrl = false) (finds : Finds v (.error fault) w) :
      Decides g mandatory v (.error fault) w
  | callback {session : Option Serial} {u w : Visit} {r : Except Fault Outcome}
      (h : isCallback v.request.uri = true) (url : v.request.sessionFromUrl = false)
      (finds : Finds v (.ok session) u) (answers : Answers g u session r w) :
      Decides g mandatory v r w
  | protect {session : Option Serial} {u w : Visit} {r : Except Fault Outcome}
      (h : ¬ IsDeferred g mandatory v) (other : isCallback v.request.uri = false)
      (url : v.request.sessionFromUrl = false) (finds : Finds v (.ok session) u)
      (protects : Protects g u session r w) :
      Decides g mandatory v r w

/-- A saved request is put back whatever was logged before. -/
theorem on_replay (n : Serial) (v : Visit) (before : List LogRecord) :
    ∃ log, (replay n).on { v with log := before } = (.ok (), { replayed n v with log }) := by
  have hs : ({ v with log := before } : Visit).session n = v.session n := rfl
  simp only [replay, Step.on_bind, Step.on_get, Step.on_session, replayed, hs]
  cases SavedRequest.restoration? v.request (v.session n) with
  | none => exact ⟨before, rfl⟩
  | some r => exact ⟨_, rfl⟩

/-- A login is checked against the directory, and a refusal is recorded. -/
theorem on_stillValid (g : Gate) (r : AuthResult) (v : Visit) :
    ∃ log, (g.stillValid r).on v =
      (.ok (g.service.validates v.world.users r.identity), { v with log }) := by
  simp only [stillValid, Step.on_bind, Step.on_get]
  cases g.service.validates v.world.users r.identity with
  | false => exact ⟨_, rfl⟩
  | true => exact ⟨v.log, rfl⟩

/-- A cached login holds, is gone, or is no login at all. -/
theorem on_cached (g : Gate) (c : LogContext) (n : Serial) (v : Visit) :
    (∃ result log, Attribute.present (v.session n).authenticated = some (.result result) ∧
        g.service.validates v.world.users result.identity = true ∧
        (g.cached c n).on v =
          (.ok (some (.authenticated result false)), { replayed n v with log })) ∨
      (∃ u, Unheld g v (some n) u ∧ (g.cached c n).on v = (.ok none, u)) ∨
      ∃ a, Attribute.present (v.session n).authenticated = some a ∧ (∀ r, a ≠ .result r) ∧
        (g.cached c n).on v = (.error .attributeShape, v) := by
  rw [cached, Step.on_bind_ok (Step.on_session n v)]
  cases h : Attribute.present (v.session n).authenticated with
  | none => exact .inr (.inl ⟨v, .empty h, rfl⟩)
  | some a =>
    cases a with
    | form f => exact .inr (.inr ⟨_, rfl, by simp, rfl⟩)
    | json j => exact .inr (.inr ⟨_, rfl, by simp, rfl⟩)
    | result r =>
      obtain ⟨log, hv⟩ := on_stillValid g r v
      dsimp only
      rw [Step.on_bind_ok hv]
      cases valid : g.service.validates v.world.users r.identity with
      | true =>
        obtain ⟨log', hr⟩ := on_replay n v log
        rw [if_pos rfl, Step.on_bind_ok hr]
        exact .inl ⟨r, _, rfl, valid, rfl⟩
      | false => exact .inr (.inl ⟨_, .revoked h valid _, rfl⟩)

/-- Saving a request ends with the session that has it; where the method is no text, with the one
that has the address alone. -/
theorem on_saveRequest (g : Gate) (n : Serial) (v : Visit) :
    match SavedRequest.save g.settings.alwaysSave v.request (v.session n) with
    | .error begun =>
      (g.saveRequest n).on v = (.error .attributeShape, changed n (fun _ => begun) v)
    | .ok after =>
      ∃ log, (g.saveRequest n).on v = (.ok (), { changed n (fun _ => after) v with log }) := by
  simp only [saveRequest, Step.on_bind, Step.on_get, Step.on_session]
  cases SavedRequest.save g.settings.alwaysSave v.request (v.session n) with
  | error begun =>
    dsimp only
    rw [Step.on_bind_ok (Step.on_modifySession ..)]
    rfl
  | ok after =>
    dsimp only
    rw [Step.on_bind_ok (Step.on_modifySession ..)]
    cases SavedRequest.takes g.settings.alwaysSave (v.session n) with
    | false => exact ⟨v.log, rfl⟩
    | true => exact ⟨_, rfl⟩

/-- A session that has no token draws one. -/
theorem on_ensureToken (n : Serial) (v : Visit) (before : List LogRecord) :
    let i := Csrf.ensure v.world.tokens (v.session n)
    ∃ log, (ensureToken n).on { v with log := before } =
      (match i.token.text? with
        | none => .error .tokenShape
        | some token => .ok token,
      { marked n i v with log }) := by
  have hs : ({ v with log := before } : Visit).session n = v.session n := rfl
  simp only [ensureToken, Step.on_bind, Step.on_get, Step.on_session, Step.on_modify,
    Step.on_modifySession, Step.on_logAll, hs]
  cases (Csrf.ensure v.world.tokens (v.session n)).token.text? <;> exact ⟨_, rfl⟩

/-- The address of a challenge is that of its token. -/
theorem on_challengeUrl (g : Gate) (n : Serial) (v : Visit) (before : List LogRecord) :
    let i := Csrf.ensure v.world.tokens (v.session n)
    ∃ log, (g.challengeUrl n).on { v with log := before } =
      (match i.token.text? with
        | none => .error .tokenShape
        | some token =>
          match Challenge.url? g.provider v.request token with
          | none => .error .endpointShape
          | some url => .ok url,
      { marked n i v with log }) := by
  obtain ⟨log, token⟩ := on_ensureToken n v before
  rw [challengeUrl, Step.on_bind, token]
  dsimp only
  cases (Csrf.ensure v.world.tokens (v.session n)).token.text? with
  | none => exact ⟨_, rfl⟩
  | some token =>
    dsimp only
    rw [Step.on_bind_ok (Step.on_get _)]
    dsimp only [marked]
    cases Challenge.url? g.provider v.request token with
    | none => exact ⟨_, rfl⟩
    | some url => exact ⟨_, rfl⟩

/-- The course of a challenge in a session. -/
theorem challenge_challenges (g : Gate) (c : LogContext) (n : Serial) (v : Visit) :
    Challenges g n v ((g.challenge c (some n)).on v).1 ((g.challenge c (some n)).on v).2 := by
  have save := on_saveRequest g n v
  rw [challenge, Step.on_bind_ok (Step.on_pure n v)]
  cases h : SavedRequest.save g.settings.alwaysSave v.request (v.session n) with
  | error begun =>
    simp only [h] at save
    rw [Step.on_bind, save]
    exact .unsaved h
  | ok after =>
    simp only [h] at save
    obtain ⟨log, save⟩ := save
    refine .saved h rfl rfl ?_
    rw [Step.on_bind_ok save]
    -- The rest of a challenge does not depend on what was saved.
    generalize changed n (fun _ => after) v = u
    obtain ⟨log', built⟩ := on_challengeUrl g n u log
    generalize Csrf.ensure u.world.tokens (u.session n) = i at built ⊢
    cases shown : i.token.text? with
    | none =>
      simp only [shown] at built
      rw [Step.on_bind, built]
      exact .tokenless shown log'
    | some token =>
      simp only [shown] at built
      cases address : Challenge.url? g.provider u.request token with
      | none =>
        simp only [address] at built
        rw [Step.on_bind, built]
        exact .unaddressed (v := marked n i u) shown address log'
      | some url =>
        simp only [address] at built
        rw [Step.on_bind_ok built, Step.on_bind_ok (Step.on_detail ..)]
        exact .sent shown address
          (Step.redirect_ends (.wide url) .challenged (marked n i u) _)

/-- A challenge without a session starts one. -/
theorem on_challenge_none (g : Gate) (c : LogContext) (v : Visit) :
    (g.challenge c none).on v =
      match (v.world.store.create v.world.now).result with
      | .error fault =>
        (.error (.capacity fault),
          { v.withStore (v.world.store.create v.world.now).store with
            log := v.log ++ (v.world.store.create v.world.now).log })
      | .ok n =>
        (g.challenge c (some n)).on
          { v.withStore (v.world.store.create v.world.now).store with
            request :=
              { v.request with
                sessionId := some ((v.world.store.create v.world.now).store.idOf n) }
            log := v.log ++ (v.world.store.create v.world.now).log } := by
  have start := on_issued (v.world.store.create v.world.now) v
  rw [challenge, Step.createSession, Step.on_bind, Step.on_bind_ok (Step.on_get v), start]
  cases (v.world.store.create v.world.now).result with
  | error fault => rfl
  | ok n =>
    dsimp only
    rw [challenge, Step.on_bind_ok (Step.on_pure n _)]

/-- The course of a decision on a request for a page. -/
theorem protect_protects (g : Gate) (c : LogContext) (session : Option Serial) (v : Visit) :
    Protects g v session ((g.protect c session).on v).1 ((g.protect c session).on v).2 := by
  cases session with
  | none =>
    rw [protect, Step.on_bind_ok (Step.on_pure none v)]
    dsimp only
    rw [Step.on_bind_ok (Step.on_get v)]
    cases deferred : v.channel.isDeferred with
    | true => exact .passed .nobody deferred _
    | false =>
      rw [if_neg Bool.false_ne_true, on_challenge_none]
      cases issue : (v.world.store.create v.world.now).result with
      | error fault => exact .unissued deferred issue _
      | ok n => exact .started deferred issue _ rfl (challenge_challenges ..)
  | some n =>
    rw [protect]
    obtain ⟨result, log, h, valid, done⟩ | ⟨u, unheld, done⟩ | ⟨a, h, shape, done⟩ :=
      on_cached g c n v
    · rw [Step.on_bind_ok done]
      exact .held h valid log
    · have same : u.channel = v.channel := by cases unheld <;> rfl
      rw [Step.on_bind_ok done]
      dsimp only
      rw [Step.on_bind_ok (Step.on_get u), same]
      cases deferred : v.channel.isDeferred with
      | true => exact .passed unheld deferred _
      | false => exact .challenged unheld deferred (challenge_challenges ..)
    · rw [Step.on_bind, done]
      exact .unreadable h shape

/-- A decision on a request by its address alone. -/
theorem classify_cases (g : Gate) (mandatory : Bool) (v : Visit) :
    (g.classify v.request v.channel.isDeferred mandatory = some .isCallback ∧
        isCallback v.request.uri = true) ∨
      (∃ state, (state = .notMandatory ∨ state = .isErrorPage) ∧
        g.classify v.request v.channel.isDeferred mandatory = some state ∧
        IsDeferred g mandatory v) ∨
      (g.classify v.request v.channel.isDeferred mandatory = none ∧
        isCallback v.request.uri = false ∧ ¬ IsDeferred g mandatory v) := by
  simp only [classify, IsDeferred]
  cases other : isCallback v.request.uri with
  | true => exact .inl ⟨rfl, rfl⟩
  | false =>
    cases mandatory with
    | false => exact .inr (.inl ⟨_, .inl rfl, rfl, rfl, .inl rfl⟩)
    | true =>
      cases page : g.settings.isErrorPage (some v.request.pathInContext) with
      | false => exact .inr (.inr ⟨rfl, rfl, by simp⟩)
      | true =>
        cases deferred : v.channel.isDeferred with
        | true => exact .inr (.inr ⟨rfl, rfl, by simp⟩)
        | false => exact .inr (.inl ⟨_, .inr rfl, rfl, rfl, .inr ⟨rfl, rfl⟩⟩)

/-- A callback with a session id in the address ends as one that fails. -/
theorem refuseUrlSession_ends (g : Gate) (c : LogContext) (v : Visit) :
    Ends (failure g.settings v.request) (.failed "session_id_from_url") v
      ((g.refuseUrlSession c).on v).1 ((g.refuseUrlSession c).on v).2 := by
  unfold refuseUrlSession
  rw [Step.on_bind, Step.on_detail]
  exact Step.sendFailure_ends g.settings (.failed "session_id_from_url") v _

/-- A request that is not decided on by its address is refused if its session id stands in the
address, and else goes on with the session that it names. -/
theorem identified_decides {g : Gate} {mandatory : Bool} {v : Visit} (c : LogContext)
    (h : ¬ IsDeferred g mandatory v) {next : Option Serial → Step Outcome}
    (goesOn : ∀ session u, v.request.sessionFromUrl = false → Finds v (.ok session) u →
      Decides g mandatory v ((next session).on u).1 ((next session).on u).2) :
    let step : Step Outcome :=
      if v.request.sessionFromUrl then g.refuseUrlSession c else Step.requestSession >>= next
    Decides g mandatory v (step.on v).1 (step.on v).2 := by
  intro step
  cases url : v.request.sessionFromUrl with
  | true =>
    have refused : step = g.refuseUrlSession c := if_pos url
    rw [refused]
    exact .urlSession h url (refuseUrlSession_ends ..)
  | false =>
    have looks : step = Step.requestSession >>= next := if_neg (by simp [url])
    have finds := Step.requestSession_finds v
    rw [looks]
    refine bind_ends (fun session u found => ?_) (fun fault u found => ?_) <;> rw [found] at finds
    · exact goesOn session u url finds
    · exact .unfound h url finds

/-- **Every decision takes one of the listed courses.** -/
theorem validate_decides (g : Gate) (mandatory : Bool) (v : Visit) :
    Decides g mandatory v ((g.validate mandatory).on v).1 ((g.validate mandatory).on v).2 := by
  rw [validate, Step.on_bind_ok (Step.on_context v), Step.on_bind_ok (Step.on_get v)]
  obtain ⟨state, callback⟩ | ⟨s, hs, state, h⟩ | ⟨state, other, h⟩ := classify_cases g mandatory v
  · have h : ¬ IsDeferred g mandatory v := by simp [IsDeferred, callback]
    rw [state]
    refine identified_decides _ h fun session u url finds => ?_
    rw [if_pos rfl]
    exact .callback callback url finds (callback_answers ..)
  · rw [state]
    obtain rfl | rfl := hs
    · exact .deferred h _
    · exact .deferred h _
  · rw [state]
    refine identified_decides _ h fun session u url finds => ?_
    rw [if_neg (by simp)]
    exact .protect h other url finds (protect_protects ..)

/-! ## Outcomes that are sent -/

variable {g : Gate} {v w : Visit} {o : Outcome}

/-- An end whose response was sent says so in its outcome, whichever of the two it is. -/
theorem ends_isSent {f : Channel → Except ChannelFault Channel} {p : Outcome}
    (h : Ends f p v (.ok o) w) (sent : p.isSent = true) : o.isSent = true := by
  cases h with
  | taken => exact sent

/-- A callback is never left to the application. -/
theorem Answers.isSent {session : Option Serial} (h : Answers g v session (.ok o) w) :
    o.isSent = true := by
  cases h with
  | noCode _ ends => exact ends_isSent ends rfl
  | noSession _ ends => exact ends_isSent ends rfl
  | wrongState _ _ ends => exact ends_isSent ends rfl
  | redeemed _ _ redeems =>
    cases redeems with
    | refused _ ends => exact ends_isSent ends rfl
    | redeemed _ ends => exact ends_isSent ends rfl

/-- The response of a challenge was sent. -/
theorem Challenges.isSent {n : Serial} (h : Challenges g n v (.ok o) w) : o.isSent = true := by
  cases h with
  | saved _ _ _ sends =>
    cases sends with
    | sent _ _ ends => exact ends_isSent ends rfl

/-! ## The other calls -/

/-- How putting a method back ends. -/
inductive Prepares (v : Visit) : Except Fault Bool → Visit → Prop
  | unfound {fault : Fault} {w : Visit} (finds : Finds v (.error fault) w) :
      Prepares v (.error fault) w
  | found {session : Option Serial} {u : Visit} (finds : Finds v (.ok session) u) (done : Bool)
      (method : Attribute) (log : List LogRecord) :
      Prepares v (.ok done) { u with request := { u.request with method }, log }

/-- How a logout ends. -/
inductive LogsOut (v : Visit) : Except Fault Unit → Visit → Prop
  | unfound {fault : Fault} {w : Visit} (finds : Finds v (.error fault) w) :
      LogsOut v (.error fault) w
  | nobody {w : Visit} (finds : Finds v (.ok none) w) : LogsOut v (.ok ()) w
  | forgotten {n : Serial} {u : Visit} (finds : Finds v (.ok (some n)) u) (log : List LogRecord) :
      LogsOut v (.ok ()) { changed n Session.forget u with log }

/-- The outcome that is handed on when nothing can be sent. -/
def unsent (o : Outcome) : Outcome :=
  if o.isAuthenticated && !o.isSent then o else .unauthenticated

/-- How looking for a cached login of a deferred request ends. -/
inductive Resolves (g : Gate) (v : Visit) : Except Fault Outcome → Visit → Prop
  | callback (h : isCallback v.request.uri = true) : Resolves g v (.ok .unauthenticated) v
  | decided {r : Except Fault Outcome} {w : Visit} (h : isCallback v.request.uri = false)
      (decides : Decides g true { v with channel := .deferred } r w) :
      Resolves g v (r.map unsent) { w with channel := v.channel }

/-- The course of preparing a request. -/
theorem prepare_prepares (v : Visit) : Prepares v (prepare.on v).1 (prepare.on v).2 := by
  have finds := Step.requestSession_finds v
  unfold prepare
  refine bind_ends (fun session u found => ?_) (fun fault u found => ?_) <;> rw [found] at finds
  · cases session with
    | none => exact .found finds false u.request.method u.log
    | some n =>
      dsimp only
      rw [Step.on_bind_ok (Step.on_get u), Step.on_bind_ok (Step.on_session n u)]
      cases SavedRequest.restoredMethod? u.request (u.session n) with
      | none => exact .found finds false u.request.method u.log
      | some method => exact .found finds true method _
  · exact .unfound finds

/-- The course of a logout. -/
theorem logout_logsOut (v : Visit) : LogsOut v (logout.on v).1 (logout.on v).2 := by
  have finds := Step.requestSession_finds v
  unfold logout
  refine bind_ends (fun session u found => ?_) (fun fault u found => ?_) <;> rw [found] at finds
  · cases session with
    | none => exact .nobody finds
    | some n => exact .forgotten finds _
  · exact .unfound finds

/-- The request of a callback is not looked at. -/
theorem on_resolve_of_callback (g : Gate) {v : Visit} (callback : isCallback v.request.uri = true) :
    g.resolve.on v = (.ok .unauthenticated, v) := by
  rw [resolve, Step.on_bind_ok (Step.on_get v), callback, if_pos rfl]
  rfl

/-- A request that is no callback is decided on with a channel that drops what is written. -/
theorem on_resolve (g : Gate) {v : Visit} (other : isCallback v.request.uri = false) :
    g.resolve.on v =
      (((g.validate true).on { v with channel := .deferred }).1.map unsent,
        { ((g.validate true).on { v with channel := .deferred }).2 with
          channel := v.channel }) := by
  rw [resolve, Step.on_bind_ok (Step.on_get v), other, if_neg Bool.false_ne_true, Step.on_bind,
    Step.on_onChannel]
  rcases (g.validate true).on { v with channel := .deferred } with ⟨fault | o, w⟩
  · rfl
  · dsimp only [Except.map, unsent]
    split <;> rfl

/-- The course of a resolution. -/
theorem resolve_resolves (g : Gate) (v : Visit) :
    Resolves g v (g.resolve.on v).1 (g.resolve.on v).2 := by
  cases h : isCallback v.request.uri with
  | true =>
    rw [on_resolve_of_callback g h]
    exact .callback h
  | false =>
    rw [on_resolve g h]
    exact .decided h (validate_decides ..)

end Gate
end LoginGate
