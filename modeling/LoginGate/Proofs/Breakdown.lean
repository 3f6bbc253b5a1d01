/-
# Callbacks that break off

A callback gets a verdict: it logs in, or it fails.  Two things break it off before that, the lease
of its session, which cannot start again where the end of it cannot be told, and the answer of the
token endpoint, where the exchange breaks down on it.  The lease is a matter of the clock of the
store, the exchange one of the clock of the system.

| answer | the callback |
| --- | --- |
| the exchange breaks down | breaks off |
| a fault of verification | fails with `login_failed` |
| claims | logs in, or fails with `login_failed` |
-/

import LoginGate.Proofs.Exchange
import LoginGate.Proofs.Precedence
import LoginGate.Proofs.Refusal

namespace LoginGate

/-- The outcome is the verdict on a callback: the browser is logged in, or the login failed. -/
def Outcome.IsVerdict : Outcome → Prop
  | .authenticated _ _ | .failed _ => True
  | _ => False

namespace Gate

open Step (Ends Finds)

variable {g : Gate} {w : World} {v u x : Visit} {q : Request} {n : Serial} {code : String}
  {mandatory : Bool} {session : Option Serial} {r : Except Fault Outcome} {ttl leeway : Seconds}
  {depths : Depths} {c : Configuration} {capacity : Int} {ids : Supply}

/-- A callback comes as far as to redeem a code: it brings one, and the token of its session. -/
structure Redeeming (w : World) (q : Request) : Prop where
  cookie : q.sessionFromUrl = false
  code : ∃ code, q.parameter "code" = some code
  state : ∃ n token, w.live? q = some n ∧ w.HasToken n token ∧ q.parameter "state" = some token

/-- What a login comes to, as far as the exchange of the code decides on it. -/
theorem attemptOf_endpoint (exchanger : g.service.exchanger = .endpoint c leeway depths)
    (code redirectUri : String) (v : Visit) :
    (g.attemptOf { code, redirectUri } v).result =
      match TokenEndpoint.verified c leeway depths v.world.wall
          (Provider.next v.world.replies).1 with
      | .error (.breakdown cause) => .error cause
      | .error (.verification _) => .ok none
      | .ok y => .ok (g.service.identify v.world.users y.claims).toOption := by
  unfold attemptOf LoginService.login LoginService.redeem
  dsimp only
  rw [exchanger]
  dsimp only [Exchanger.exchange, TokenEndpoint.exchange]
  cases TokenEndpoint.verified c leeway depths v.world.wall (Provider.next v.world.replies).1 with
  | error fault => cases fault <;> rfl
  | ok y =>
    dsimp only
    cases g.service.identify v.world.users y.claims <;> rfl

/-- A channel that nothing was written to takes every failure. -/
theorem fresh_takes_failure (s : Settings) (q : Request) :
    ∃ d, Step.failure s q .fresh = .ok d := by
  unfold Step.failure
  cases s.errorPage <;> exact ⟨_, rfl⟩

/-- How redeeming a code ends, as the endpoint answers. -/
inductive Settles (c : Configuration) (leeway : Seconds) (depths : Depths) (now : Instant)
    (reply : Reply) :
    Except Fault Outcome → Prop
  /-- The exchange breaks down, and the callback with it. -/
  | broken {cause : Breakdown} (fault : Fault)
      (breaks : TokenEndpoint.BreaksDown c leeway depths now reply cause) :
      Settles c leeway depths now reply (.error fault)
  /-- The answer is refused, and so is the login. -/
  | refused {fault : VerificationFault}
      (e : TokenEndpoint.verified c leeway depths now reply = .error (.verification fault)) :
      Settles c leeway depths now reply (.ok (.failed "login_failed"))
  /-- It yields claims, of somebody who may log in or not. -/
  | yielded {y : Verified} {o : Outcome}
      (e : TokenEndpoint.verified c leeway depths now reply = .ok y)
      (verdict : o.IsVerdict) : Settles c leeway depths now reply (.ok o)

/-- **Redeeming a code at a token endpoint,** on a fresh channel and where the pools take leases. -/
theorem Redeems.settles (exchanger : g.service.exchanger = .endpoint c leeway depths)
    (fresh : v.channel = .fresh)
    (room : (v.world.store.pool .authenticated).refusal? v.world.now = none)
    (h : Redeems g code n v r u) :
    Settles c leeway depths v.world.wall (Provider.next v.world.replies).1 r := by
  have attempt := attemptOf_endpoint exchanger code v.request.callbackUrl v
  cases e : TokenEndpoint.verified c leeway depths v.world.wall
    (Provider.next v.world.replies).1 with
  | error fault =>
    rw [e] at attempt
    cases fault with
    | breakdown cause =>
      have breaks := TokenEndpoint.verified_eq_breakdown_iff.1 e
      cases h with
      | broken => exact .broken _ breaks
      | refused login => cases login with | refused none => cases attempt.symm.trans none
      | redeemed login => cases login with | renewed found => cases attempt.symm.trans found
    | verification fault =>
      cases h with
      | broken login =>
        cases login with
        | broken broken => cases attempt.symm.trans broken
        | untimed found => cases attempt.symm.trans found
        | unissued found => cases attempt.symm.trans found
      | refused login ends =>
        cases login with
        | refused =>
          obtain rfl := ends_eq_ok ends (fresh ▸ fresh_takes_failure ..)
          exact .refused e
      | redeemed login => cases login with | renewed found => cases attempt.symm.trans found
  | ok y =>
    rw [e] at attempt
    cases h with
    | broken login =>
      cases login with
      | broken broken => cases attempt.symm.trans broken
      | untimed _ time =>
        obtain ⟨n, told⟩ := TokenEndpoint.wholeSeconds_of_verified e
        cases told.symm.trans time
      | unissued _ _ issue =>
        rw [SessionStore.renew_result, SessionStore.issuing, room] at issue
        cases issue
    | refused login ends =>
      cases login with
      | refused =>
        obtain rfl := ends_eq_ok ends (fresh ▸ fresh_takes_failure ..)
        exact .yielded e trivial
    | redeemed login ends =>
      cases login with
      | renewed =>
        have takes : ∀ status location, ∃ d, Channel.redirect status location v.channel = .ok d :=
          fun _ _ => fresh ▸ ⟨_, rfl⟩
        obtain rfl := ends_eq_ok ends (takes ..)
        exact .yielded e trivial

/-- The token of a session that can be read is compared with the state. -/
theorem accepts?_ne_none {s : Session} (h : s.Legible) (state : Option String) :
    Csrf.accepts? s state ≠ none := by
  unfold Csrf.accepts?
  split
  · rename_i token _ held
    obtain ⟨t, rfl⟩ := h.token token (Option.filter_eq_some_iff.1 held).1
    exact nofun
  · exact nofun

/-- A pool with room takes a lease where the time can be told. -/
theorem refusal?_eq_none {p : Pool} {now : Instant} {e : Seconds} (room : p.capacity ≠ 0)
    (time : now.add p.ttl = .ok e) : p.refusal? now = none := by
  rw [Pool.refusal?, time]
  exact if_neg room

/-- The lease of a session that was found did start again. -/
theorem exists_add_of_finds (ttls : ∀ a, (v.world.store.pool a).ttl = ttl)
    (finds : Finds v (.ok (some n)) x) : ∃ e, v.world.now.add ttl = .ok e := by
  cases finds with
  | found _ _ found =>
    obtain ⟨a, e, told, -⟩ := SessionStore.set_of_get (congrArg Prod.fst found)
    exact ⟨e, ttls a ▸ told⟩

/-- **How a callback ends** once its session was looked for: with a verdict, or as the redeeming of
its code does. -/
theorem Answers.settles (exchanger : g.service.exchanger = .endpoint c leeway depths)
    (fresh : v.channel = .fresh) (legible : v.world.Legible)
    (room : ∀ a, (v.world.store.pool a).capacity ≠ 0)
    (ttls : ∀ a, (v.world.store.pool a).ttl = ttl) (cookie : v.request.sessionFromUrl = false)
    (finds : Finds v (.ok session) x) (h : Answers g x session r u) :
    (¬ Redeeming v.world v.request ∧ ∃ o, r = .ok o ∧ o.IsVerdict) ∨
      Redeeming v.world v.request ∧
        Settles c leeway depths v.world.wall (Provider.next v.world.replies).1 r := by
  have live := live?_of_finds finds
  have same := finds_session finds
  obtain ⟨s, rfl, -⟩ := finds.exists_store
  cases h with
  | noCode given ends =>
    refine .inl ⟨fun redeeming => ?_, _, ends_eq_ok ends (fresh ▸ fresh_takes_failure ..), trivial⟩
    obtain ⟨code, brought⟩ := redeeming.code
    cases brought.symm.trans given
  | noSession given ends =>
    refine .inl ⟨fun redeeming => ?_, _, ends_eq_ok ends (fresh ▸ ⟨_, rfl⟩), trivial⟩
    obtain ⟨n, -, there, -⟩ := redeeming.state
    cases live.symm.trans there
  | unreadable _ state =>
    rw [same] at state
    exact absurd state (accepts?_ne_none (legible_session legible _) _)
  | wrongState _ state ends =>
    refine .inl ⟨fun redeeming => ?_, _, ends_eq_ok ends (fresh ▸ ⟨_, rfl⟩), trivial⟩
    obtain ⟨n, token, there, held, sent⟩ := redeeming.state
    obtain rfl := Option.some.inj (live.symm.trans there)
    rw [same] at state
    change Csrf.accepts? _ (v.request.parameter "state") = _ at state
    rw [sent, held.accepts] at state
    cases state
  | redeemed given state redeems =>
    rw [same] at state
    obtain ⟨token, held, sent⟩ := hasToken_of_accepts state
    refine .inr ⟨⟨cookie, ⟨_, given⟩, _, token, live, held, sent⟩, ?_⟩
    obtain ⟨e, time⟩ := exists_add_of_finds ttls finds
    have free : (v.world.store.pool .authenticated).refusal? v.world.now = none :=
      refusal?_eq_none (room _) ((ttls _).symm ▸ time)
    cases finds with
    | @found id _ _ _ _ found =>
      have size := (SessionStore.get_evolves v.world.store v.world.now id).pools .authenticated
      rw [found] at size
      exact Redeems.settles (v := v.withStore s) exchanger fresh
        ((Pool.refusal?_congr size _).trans free) redeems

end Gate
end LoginGate
