/-
# What the steps of a visit do

The equations of the small steps, and three relations that say how a larger step can end.  What a
step writes to the log is left open in them.

| relation | says |
| --- | --- |
| `Ends` | a write to the channel, the last thing that a visit does, is taken or fails |
| `Finds` | the session that the request names is found, there is none, or it cannot be kept |
-/

import LoginGate.Gate.Basic
import LoginGate.Gate.Outcome

namespace LoginGate

namespace Visit

/-- The visit with another store. -/
def withStore (v : Visit) (s : SessionStore) : Visit :=
  { v with world := { v.world with store := s } }

/-- The session of a serial, an empty one where there is none. -/
def session (v : Visit) (n : Serial) : Session :=
  (v.world.store.session? n).getD { id := "" }

end Visit

namespace Step

variable {α β : Type}

/-- Records are written behind those that are there. -/
@[simp] theorem on_logAll (records : List LogRecord) (v : Visit) :
    (logAll records).on v = (.ok (), { v with log := v.log ++ records }) :=
  rfl

/-- A detail is the last record. -/
@[simp] theorem on_detail (source : Source) (c : LogContext) (message : WideText) (v : Visit) :
    (detail source c message).on v =
      (.ok (), { v with log := v.log ++ [{ source, level := .debug, message, context := c }] }) :=
  rfl

/-- The context names the session id and the correlation id that the request has. -/
@[simp] theorem on_context (v : Visit) :
    context.on v = (.ok (LogContext.of v.request.sessionId v.request.correlation), v) := by
  simp only [context, on_bind, on_get, on_pure]

/-- Replacing the store replaces nothing else. -/
@[simp] theorem on_setStore (s : SessionStore) (v : Visit) :
    (setStore s).on v = (.ok (), v.withStore s) :=
  rfl

/-- Reading a session changes nothing. -/
@[simp] theorem on_session (n : Serial) (v : Visit) :
    (session n).on v = (.ok (v.session n), v) := by
  simp only [session, on_bind, on_get, on_pure, Visit.session]

/-- Changing a session changes nothing but the store. -/
@[simp] theorem on_modifySession (n : Serial) (f : Session → Session) (v : Visit) :
    (modifySession n f).on v = (.ok (), v.withStore (v.world.store.modify n f)) := by
  simp only [modifySession, on_bind, on_get, on_setStore]

/-- A step after one that goes on runs on what that one left. -/
theorem on_bind_ok {s : Step α} {f : α → Step β} {v w : Visit} {a : α} (h : s.on v = (.ok a, w)) :
    (s >>= f).on v = (f a).on w := by
  rw [on_bind, h]

/-- **How a step after another ends:** as that one, where it broke off, and else as the step run on
what that one left. -/
theorem bind_ends {P : Except Fault β → Visit → Prop} {s : Step α} {f : α → Step β} {v : Visit}
    (ok : ∀ a w, s.on v = (.ok a, w) → P ((f a).on w).1 ((f a).on w).2)
    (error : ∀ fault w, s.on v = (.error fault, w) → P (.error fault) w) :
    P ((s >>= f).on v).1 ((s >>= f).on v).2 := by
  rw [on_bind]
  rcases h : s.on v with ⟨fault | a, w⟩
  · exact error fault w h
  · exact ok a w h

/-- A visit that ends with a write to its channel: with an outcome where the channel takes it, with
a fault where it does not. -/
inductive Ends (f : Channel → Except ChannelFault Channel) (o : Outcome) (v : Visit) :
    Except Fault Outcome → Visit → Prop
  | taken {channel : Channel} (h : f v.channel = .ok channel) (log : List LogRecord) :
      Ends f o v (.ok o) { v with channel, log }
  | failed {fault : ChannelFault} (h : f v.channel = .error fault) (log : List LogRecord) :
      Ends f o v (.error (.channel fault)) { v with log }

/-- A write to the channel ends a decision. -/
theorem write_ends (f : Channel → Except ChannelFault Channel) (o : Outcome) (v : Visit)
    (log : List LogRecord) :
    Ends f o v ((do write f; pure o : Step Outcome).on { v with log }).1
      ((do write f; pure o : Step Outcome).on { v with log }).2 := by
  simp only [write, on_bind, on_get]
  cases h : f v.channel with
  | error fault => exact .failed h log
  | ok channel => exact .taken h log

/-- What a failed login writes: a redirect to the error page, or a refusal where there is none. -/
def failure (s : Settings) (q : Request) : Channel → Except ChannelFault Channel :=
  match s.errorPage with
  | none => Channel.error forbidden
  | some page => Channel.redirect q.redirectStatus (.text (Address.join q.context (some page)))

/-- A redirect is a write, with the status that the request has. -/
theorem on_redirect (location : Attribute) (v : Visit) :
    (redirect location).on v =
      (write (Channel.redirect v.request.redirectStatus location)).on v := by
  simp only [redirect, on_bind, on_get]

/-- A redirect ends a decision. -/
theorem redirect_ends (location : Attribute) (o : Outcome) (v : Visit) (log : List LogRecord) :
    Ends (Channel.redirect v.request.redirectStatus location) o v
      ((do redirect location; pure o : Step Outcome).on { v with log }).1
      ((do redirect location; pure o : Step Outcome).on { v with log }).2 := by
  rw [on_bind, on_redirect, ← on_bind]
  exact write_ends _ o v log

/-- Sending a failure is a write, of what the settings say. -/
theorem on_sendFailure (s : Settings) (v : Visit) :
    (sendFailure s).on v = (write (failure s v.request)).on v := by
  unfold sendFailure failure
  cases s.errorPage with
  | none => rfl
  | some page => simp only [on_bind, on_get, on_redirect]

/-- Sending a failure ends a decision. -/
theorem sendFailure_ends (s : Settings) (o : Outcome) (v : Visit) (log : List LogRecord) :
    Ends (failure s v.request) o v ((do sendFailure s; pure o : Step Outcome).on { v with log }).1
      ((do sendFailure s; pure o : Step Outcome).on { v with log }).2 := by
  rw [on_bind, on_sendFailure, ← on_bind]
  exact write_ends _ o v log

/-- How looking for the session of a request ends. -/
inductive Finds (v : Visit) : Except Fault (Option Serial) → Visit → Prop
  /-- The request names no session, or none that is live. -/
  | nobody (h : ∀ id, v.request.sessionId = some id →
      id = "" ∨ (v.world.store.get v.world.now id).1 = .ok none) : Finds v (.ok none) v
  /-- It names a live session, whose lease starts again. -/
  | found {id : String} {n : Serial} {s : SessionStore} (named : v.request.sessionId = some id)
      (given : id ≠ "") (h : v.world.store.get v.world.now id = (.ok (some n), s)) :
      Finds v (.ok (some n)) (v.withStore s)
  /-- It names a live session, whose lease cannot start again. -/
  | broken {id : String} {fault : CapacityFault} {s : SessionStore}
      (named : v.request.sessionId = some id)
      (h : v.world.store.get v.world.now id = (.error fault, s)) :
      Finds v (.error (.capacity fault)) (v.withStore s)

end Step

namespace SessionStore

/-- Looking for a session that is not live changes nothing. -/
theorem eq_of_get_eq_none {s t : SessionStore} {now : Instant} {id : String}
    (h : s.get now id = (.ok none, t)) : t = s := by
  unfold get at h
  split at h
  · simpa using h.symm
  · split at h <;> simp at h

end SessionStore

namespace Step

/-- The course of looking for the session of a request. -/
theorem requestSession_finds (v : Visit) :
    Finds v (requestSession.on v).1 (requestSession.on v).2 := by
  simp only [requestSession, on_bind, on_get]
  cases hid : v.request.sessionId with
  | none => exact .nobody fun id h => by simp [hid] at h
  | some id =>
    by_cases he : id.isEmpty
    · simp only [he, if_true]
      refine .nobody fun id' h => .inl ?_
      obtain rfl : id = id' := by simpa [hid] using h
      simpa using he
    · simp only [he, Bool.false_eq_true, if_false, on_bind, on_setStore]
      rcases hg : v.world.store.get v.world.now id with ⟨fault | found, s⟩
      · exact .broken hid hg
      · cases found with
        | some n => exact .found hid (by simpa using he) hg
        | none =>
          obtain rfl := SessionStore.eq_of_get_eq_none hg
          refine .nobody fun id' h => .inr ?_
          obtain rfl : id = id' := by simpa [hid] using h
          rw [hg]

end Step
end LoginGate
