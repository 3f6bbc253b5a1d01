/-
# Two visits in tandem

The same step taken in two worlds, of which the second has some of the sessions of the first: a step
on a session in the one world, and the same step on the session at its place in the other.

| relation | says |
| --- | --- |
| `Visit.Mirrors` | request, channel, directory and times are the same, and the stores mirror |
| `Alike` | two steps end with the same value or fault, and leave visits that mirror each other |
| `Parallel` | two steps end alike from all visits that mirror each other |

Only three things that a step takes from the world can differ between such worlds: an id, a token
and an answer of the provider.  A step that takes none of them runs in parallel.  A challenge of a
session that is there takes a token, and ends alike where it is the same one.
-/

import LoginGate.Proofs.FormReplay
import LoginGate.Proofs.Mirror
import LoginGate.Proofs.Turnover

namespace LoginGate

/-- The second world has the sessions of the first at the serials `σ`, the same directory and the
same times. -/
structure World.Mirrors (σ : List Serial) (total : Nat) (w x : World) : Prop where
  users : x.users = w.users
  now : x.now = w.now
  wall : x.wall = w.wall
  store : SessionStore.Mirrors σ total w.store x.store

/-- Two visits with the same request and channel, the second in a world with the sessions of the
first at the serials `σ`. -/
structure Visit.Mirrors (σ : List Serial) (total : Nat) (v u : Visit) : Prop where
  request : u.request = v.request
  channel : u.channel = v.channel
  world : World.Mirrors σ total v.world u.world

namespace Visit.Mirrors

variable {σ : List Serial} {total : Nat} {v u : Visit} {n k : Serial}

/-- The session at the place of another one holds what that one holds. -/
theorem session_eq (h : Mirrors σ total v u) (place : σ[k]? = some n) :
    u.session k = v.session n := by
  rw [Visit.session, Visit.session, h.world.store.session?_eq place]

/-- Visits mirror each other whatever was logged: records name ids, which may differ. -/
theorem withLog (h : Mirrors σ total v u) (l m : List LogRecord) :
    Mirrors σ total { v with log := l } { u with log := m } :=
  ⟨h.request, h.channel, h.world⟩

/-- The session and the one at its place can be changed alike. -/
theorem changed (h : Mirrors σ total v u) (place : σ[k]? = some n) (f : Session → Session) :
    Mirrors σ total (Gate.changed n f v) (Gate.changed k f u) :=
  ⟨h.request, h.channel, h.world.users, h.world.now, h.world.wall, h.world.store.modify place f⟩

end Visit.Mirrors

namespace Step

variable {α β : Type} {σ : List Serial} {total : Nat} {v u : Visit} {n k : Serial}

/-- Two steps end alike: with the same value or fault, and the visit that the second leaves mirrors
the one that the first leaves. -/
structure Alike (σ : List Serial) (total : Nat) (p q : Except Fault α × Visit) : Prop where
  result : q.1 = p.1
  visit : Visit.Mirrors σ total p.2 q.2

/-- Two steps run in parallel: from visits of which the second mirrors the first they end alike. -/
def Parallel (σ : List Serial) (total : Nat) (s t : Step α) : Prop :=
  ∀ v u : Visit, Visit.Mirrors σ total v u → Alike σ total (s.on v) (t.on u)

/-- Steps that end alike and are followed, on what they left, by steps that end alike. -/
theorem Alike.after {s t : Step α} {f f' : α → Step β} (h : Alike σ total (s.on v) (t.on u))
    (next : ∀ a x y, s.on v = (.ok a, x) → t.on u = (.ok a, y) → Visit.Mirrors σ total x y →
      Alike σ total ((f a).on x) ((f' a).on y)) :
    Alike σ total ((s >>= f).on v) ((t >>= f').on u) := by
  rw [on_bind, on_bind]
  obtain ⟨result, visit⟩ := h
  rcases hs : s.on v with ⟨fault | a, x⟩ <;> rcases ht : t.on u with ⟨fault' | b, y⟩ <;>
    simp only [hs, ht] at result visit
  · obtain rfl := Except.error.inj result
    exact ⟨rfl, visit⟩
  · cases result
  · cases result
  · obtain rfl := Except.ok.inj result
    exact next _ _ _ hs ht visit

/-- Steps that end alike and go on in parallel end alike. -/
theorem Alike.bind {s t : Step α} {f f' : α → Step β} (h : Alike σ total (s.on v) (t.on u))
    (next : ∀ a, Parallel σ total (f a) (f' a)) :
    Alike σ total ((s >>= f).on v) ((t >>= f').on u) :=
  h.after fun a x y _ _ => next a x y

/-- Giving a value changes nothing in either world. -/
theorem parallel_pure (a : α) : Parallel σ total (pure a) (pure a) :=
  fun _ _ h => ⟨rfl, h⟩

/-- Breaking off changes nothing in either world. -/
theorem parallel_throw (fault : Fault) : Parallel (α := α) σ total (throw fault) (throw fault) :=
  fun _ _ h => ⟨rfl, h⟩

/-- Steps in parallel, one after the other, are in parallel. -/
theorem Parallel.bind {s t : Step α} {f f' : α → Step β} (h : Parallel σ total s t)
    (next : ∀ a, Parallel σ total (f a) (f' a)) : Parallel σ total (s >>= f) (t >>= f') :=
  fun v u mirrors => (h v u mirrors).bind next

/-- Steps that look at their visits first. -/
theorem parallel_read {f f' : Visit → Step α}
    (h : ∀ v u, Visit.Mirrors σ total v u → Alike σ total ((f v).on v) ((f' u).on u)) :
    Parallel σ total (get >>= f) (get >>= f') := by
  intro v u mirrors
  rw [on_bind_ok (on_get v), on_bind_ok (on_get u)]
  exact h v u mirrors

/-- Any records may be written in either world. -/
theorem parallel_logAll {l m : List LogRecord} : Parallel σ total (logAll l) (logAll m) :=
  fun _ _ h => ⟨rfl, h.withLog _ _⟩

/-- A detail is written in parallel, whatever session its context names. -/
theorem parallel_detail {source : Source} {c d : LogContext} {message : WideText} :
    Parallel σ total (detail source c message) (detail source d message) :=
  parallel_logAll

/-- Both worlds have the same context, since it is read off the request. -/
theorem parallel_context : Parallel σ total context context := by
  intro v u h
  rw [on_context, on_context, h.request]
  exact ⟨rfl, h⟩

/-- A session and the one at its place read the same. -/
theorem parallel_session (place : σ[k]? = some n) : Parallel σ total (session n) (session k) := by
  intro v u h
  rw [on_session, on_session]
  exact ⟨congrArg Except.ok (h.session_eq place), h⟩

/-- A session and the one at its place are changed in parallel. -/
theorem parallel_modifySession (place : σ[k]? = some n) (f : Session → Session) :
    Parallel σ total (modifySession n f) (modifySession k f) := by
  intro v u h
  rw [on_modifySession, on_modifySession]
  exact ⟨rfl, h.changed place f⟩

/-- The request is the same, and is changed alike. -/
theorem parallel_modifyRequest (f : Request → Request) :
    Parallel σ total (modifyRequest f) (modifyRequest f) :=
  fun _ _ h => ⟨rfl, congrArg f h.request, h.channel, h.world⟩

/-- The channel is the same, and is written to alike. -/
theorem parallel_write (f : Channel → Except ChannelFault Channel) :
    Parallel σ total (write f) (write f) := by
  refine parallel_read fun v u h => ?_
  rw [h.channel]
  cases f v.channel with
  | error fault => exact ⟨rfl, h⟩
  | ok channel => exact ⟨rfl, h.request, rfl, h.world⟩

/-- The browser is redirected in both worlds or in neither. -/
theorem parallel_redirect (location : Attribute) :
    Parallel σ total (redirect location) (redirect location) := by
  refine parallel_read fun v u h => ?_
  rw [h.request]
  exact parallel_write _ _ _ h

/-- A failed login is answered in parallel: where to send it is a setting. -/
theorem parallel_sendFailure (s : Settings) : Parallel σ total (sendFailure s) (sendFailure s) := by
  intro v u h
  rw [on_sendFailure, on_sendFailure, h.request]
  exact parallel_write _ _ _ h

end Step

namespace Supply

/-- A draw changes the supply. -/
theorem draw_ne (s : Supply) : s.draw.2 ≠ s := by
  unfold draw
  split
  · rename_i given
    intro same
    have := congrArg (fun s => s.given.length) same
    simp [given] at this
  · intro same
    have := congrArg Supply.made same
    simp at this

end Supply

namespace Csrf

/-- A session without a token is given one that is drawn. -/
theorem ensure_tokens_of_none {tokens : Supply} {s : Session} (h : token? s = none) :
    (ensure tokens s).tokens = tokens.draw.2 := by
  rw [ensure, h]

/-- Where the token that would be drawn is the same, the session is given the same one. -/
theorem ensure_congr {tokens other : Supply} {s : Session}
    (h : token? s = none → other.draw.1 = tokens.draw.1) :
    (ensure other s).token = (ensure tokens s).token ∧
      (ensure other s).session = (ensure tokens s).session := by
  unfold ensure
  cases held : token? s with
  | some token => exact ⟨rfl, rfl⟩
  | none =>
    dsimp only
    rw [h held]
    exact ⟨rfl, rfl⟩

end Csrf

namespace Gate

open Step (Alike Parallel parallel_pure parallel_throw parallel_read parallel_logAll
  parallel_detail parallel_session parallel_modifySession parallel_modifyRequest parallel_write
  parallel_redirect parallel_sendFailure)

variable {g : Gate} {σ : List Serial} {total : Nat} {v u x : Visit} {n k : Serial}
  {c d : LogContext}

/-- A saved request is put back in parallel: the same one, and from sessions that mirror each
other. -/
theorem parallel_replay (place : σ[k]? = some n) : Parallel σ total (replay n) (replay k) := by
  refine parallel_read fun v u h => (parallel_session place).bind (fun a => ?_) v u h
  rw [h.request]
  cases SavedRequest.restoration? _ a with
  | none => exact parallel_pure ()
  | some r =>
    exact (parallel_modifySession place _).bind fun _ =>
      parallel_logAll.bind fun _ => parallel_modifyRequest _

/-- A login is valid in both worlds or in neither, as their directory is the same. -/
theorem parallel_stillValid (r : AuthResult) :
    Parallel σ total (g.stillValid r) (g.stillValid r) := by
  refine parallel_read fun v u h => ?_
  rw [h.world.users]
  dsimp only
  split
  · exact parallel_logAll.bind (fun _ => parallel_pure _) v u h
  · exact parallel_pure _ v u h

/-- The login of a session is found and checked in parallel. -/
theorem parallel_cached (place : σ[k]? = some n) :
    Parallel σ total (g.cached c n) (g.cached d k) := by
  refine (parallel_session place).bind fun a => ?_
  cases Attribute.present a.authenticated with
  | none => exact parallel_pure none
  | some b =>
    cases b with
    | form => exact parallel_throw _
    | json => exact parallel_throw _
    | result r =>
      refine (parallel_stillValid r).bind fun valid => ?_
      cases valid with
      | true =>
        exact (parallel_replay place).bind fun _ =>
          parallel_detail.bind fun _ => parallel_pure _
      | false =>
        exact parallel_detail.bind fun _ =>
          (parallel_modifySession place _).bind fun _ => parallel_pure _

/-- A request is saved in parallel, in a session and in the one at its place. -/
theorem parallel_saveRequest (place : σ[k]? = some n) :
    Parallel σ total (g.saveRequest n) (g.saveRequest k) := by
  refine parallel_read fun v u h => (parallel_session place).bind (fun a => ?_) v u h
  rw [h.request]
  cases SavedRequest.save g.settings.alwaysSave _ a with
  | error begun => exact (parallel_modifySession place _).bind fun _ => parallel_throw _
  | ok after =>
    refine (parallel_modifySession place _).bind fun _ => ?_
    split
    · exact parallel_logAll
    · exact parallel_pure ()

/-- A callback fails in parallel. -/
theorem parallel_failCallback (reason : String) :
    Parallel σ total (g.failCallback c reason) (g.failCallback d reason) :=
  parallel_detail.bind fun _ => (parallel_sendFailure _).bind fun _ => parallel_pure _

/-- A state is refused in parallel. -/
theorem parallel_refuseState : Parallel σ total (refuseState c) (refuseState d) :=
  parallel_logAll.bind fun _ => (parallel_write _).bind fun _ => parallel_pure _

/-- A session id in the address is refused in parallel. -/
theorem parallel_refuseUrlSession :
    Parallel σ total (g.refuseUrlSession c) (g.refuseUrlSession d) :=
  parallel_detail.bind fun _ => (parallel_sendFailure _).bind fun _ => parallel_pure _

/-- A decision is deferred in parallel. -/
theorem parallel_defer (state : RequestState) : Parallel σ total (defer c state) (defer d state) :=
  parallel_read fun v u h => by
    rw [h.request]
    exact parallel_detail.bind (fun _ => parallel_pure _) v u h

/-- A session and the one at its place get the same token, if the next ones are the same or none is
drawn. -/
theorem ensureToken_alike (h : Visit.Mirrors σ total v u) (place : σ[k]? = some n)
    (draws : Csrf.token? (v.session n) = none →
      u.world.tokens.draw.1 = v.world.tokens.draw.1) :
    Alike σ total ((ensureToken n).on v) ((ensureToken k).on u) := by
  obtain ⟨token, session⟩ := Csrf.ensure_congr draws
  rw [ensureToken, ensureToken, Step.on_bind_ok (Step.on_get v), Step.on_bind_ok (Step.on_get u),
    Step.on_bind_ok (Step.on_session n v), Step.on_bind_ok (Step.on_session k u),
    h.session_eq place]
  dsimp only
  rw [token, session]
  refine Alike.bind (s := modify _) (t := modify _)
    ⟨rfl, h.request, h.channel, h.world.users, h.world.now, h.world.wall, h.world.store⟩ fun _ => ?_
  refine (parallel_modifySession place _).bind fun _ => parallel_logAll.bind fun _ => ?_
  cases (Csrf.ensure v.world.tokens (v.session n)).token.text? with
  | none => exact parallel_throw _
  | some token => exact parallel_pure token

/-- The address of a challenge is the same, if the token in it is. -/
theorem challengeUrl_alike (h : Visit.Mirrors σ total v u) (place : σ[k]? = some n)
    (draws : Csrf.token? (v.session n) = none →
      u.world.tokens.draw.1 = v.world.tokens.draw.1) :
    Alike σ total ((g.challengeUrl n).on v) ((g.challengeUrl k).on u) := by
  refine (ensureToken_alike h place draws).bind fun token => parallel_read fun v u h => ?_
  dsimp only
  rw [h.request]
  cases Challenge.url? g.provider v.request token with
  | none => exact parallel_throw _ v u h
  | some url => exact parallel_logAll.bind (fun _ => parallel_pure url) v u h

/-- The tokens that a challenge leaves, once its request is saved. -/
theorem tokens_of_saved (saved : (g.saveRequest n).on v = (.ok (), x)) :
    ((g.challenge c (some n)).on v).2.world.tokens =
      (Csrf.ensure x.world.tokens (x.session n)).tokens := by
  have ends := challenge_challenges g c n v
  have save := on_saveRequest g n v
  generalize ((g.challenge c (some n)).on v).1 = r at ends
  generalize ((g.challenge c (some n)).on v).2 = z at ends ⊢
  cases ends with
  | unsaved h =>
    simp only [h, saved] at save
    cases save
  | saved h left issue sends =>
    simp only [h, saved] at save
    obtain ⟨log, same⟩ := save
    obtain ⟨-, rfl⟩ := Prod.mk.inj same
    subst left issue
    rw [sends.world_eq]
    rfl

/-- Saving a request draws no token. -/
theorem tokens_of_saveRequest (saved : (g.saveRequest n).on v = (.ok (), x)) :
    x.world.tokens = v.world.tokens := by
  have save := on_saveRequest g n v
  split at save
  · exact absurd (congrArg Prod.fst (saved.symm.trans save)) nofun
  · obtain ⟨log, save⟩ := save
    obtain ⟨-, rfl⟩ := Prod.mk.inj (saved.symm.trans save)
    rfl

/-- A challenge draws a token for a session that has none. -/
theorem challenge_draws (saved : (g.saveRequest n).on v = (.ok (), x))
    (empty : Csrf.token? (x.session n) = none) :
    ((g.challenge c (some n)).on v).2.world.tokens ≠ v.world.tokens := by
  rw [tokens_of_saved saved, Csrf.ensure_tokens_of_none empty, tokens_of_saveRequest saved]
  exact Supply.draw_ne _

/-- **A challenge in a session that is there ends alike,** if both challenges would draw the same
token. -/
theorem challenge_alike (h : Visit.Mirrors σ total v u) (place : σ[k]? = some n)
    (draws : ((g.challenge c (some n)).on v).2.world.tokens ≠ v.world.tokens →
      ((g.challenge d (some k)).on u).2.world.tokens ≠ u.world.tokens →
      u.world.tokens.draw.1 = v.world.tokens.draw.1) :
    Alike σ total ((g.challenge c (some n)).on v) ((g.challenge d (some k)).on u) := by
  have saves := parallel_saveRequest (g := g) place v u h
  rw [challenge, challenge, Step.on_bind_ok (Step.on_pure n v), Step.on_bind_ok (Step.on_pure k u)]
  refine saves.after fun _ x y left right saved => ?_
  have url := challengeUrl_alike (g := g) saved place fun empty => by
    rw [tokens_of_saveRequest left, tokens_of_saveRequest right]
    exact draws (challenge_draws left empty)
      (challenge_draws right (saved.session_eq place ▸ empty))
  exact url.bind fun _ => parallel_detail.bind fun _ =>
    (parallel_redirect _).bind fun _ => parallel_pure _

/-- Looking for a cached login draws no token. -/
theorem tokens_of_cached {r : Except Fault (Option Outcome)} (h : (g.cached c n).on v = (r, x)) :
    x.world.tokens = v.world.tokens := by
  have put : (replayed n v).world.tokens = v.world.tokens := by
    unfold replayed
    split <;> rfl
  obtain ⟨_, _, -, -, done⟩ | ⟨_, unheld, done⟩ | ⟨_, -, -, done⟩ := on_cached g c n v
  · obtain ⟨-, rfl⟩ := Prod.mk.inj (h.symm.trans done)
    exact put
  · obtain ⟨-, rfl⟩ := Prod.mk.inj (h.symm.trans done)
    cases unheld <;> rfl
  · obtain ⟨-, rfl⟩ := Prod.mk.inj (h.symm.trans done)
    rfl

/-- A request that needs a login, in a session that is there, ends alike. -/
theorem protect_alike (h : Visit.Mirrors σ total v u) (place : σ[k]? = some n)
    (draws : ((g.protect c (some n)).on v).2.world.tokens ≠ v.world.tokens →
      ((g.protect d (some k)).on u).2.world.tokens ≠ u.world.tokens →
      u.world.tokens.draw.1 = v.world.tokens.draw.1) :
    Alike σ total ((g.protect c (some n)).on v) ((g.protect d (some k)).on u) := by
  have challenged : ∀ {c : LogContext} {n : Serial} {v x : Visit},
      (g.cached c n).on v = (.ok none, x) → x.channel.isDeferred = false →
      (g.protect c (some n)).on v = (g.challenge c (some n)).on x := by
    intro c n v x none sendable
    rw [protect, Step.on_bind_ok none]
    dsimp only
    rw [Step.on_bind_ok (Step.on_get x), sendable, if_neg Bool.false_ne_true]
  rw [protect, protect]
  refine (parallel_cached place v u h).after fun found x y left right mirrors => ?_
  cases found with
  | some outcome => exact parallel_pure outcome x y mirrors
  | none =>
    dsimp only
    rw [Step.on_bind_ok (Step.on_get x), Step.on_bind_ok (Step.on_get y), mirrors.channel]
    cases deferred : x.channel.isDeferred with
    | true => exact parallel_detail.bind (fun _ => parallel_pure _) x y mirrors
    | false =>
      rw [if_neg Bool.false_ne_true, if_neg Bool.false_ne_true]
      rw [challenged left deferred, challenged right (mirrors.channel ▸ deferred),
        ← tokens_of_cached left, ← tokens_of_cached right] at draws
      exact challenge_alike mirrors place draws

end Gate
end LoginGate
