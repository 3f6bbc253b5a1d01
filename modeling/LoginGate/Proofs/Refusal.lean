/-
# Callbacks that fail

A callback fails at one of six points, and at each of them it wrote nothing yet but the lease of its
own session, which started again when that was looked for.  So a callback that was forged, or came
too late, costs nobody a session, a login under way or a cached login, and it can be tried again.

| failure | the code is redeemed |
| --- | --- |
| the session id stands in the address | no |
| there is no code, or no live session | no |
| the state is not the token of the session | no |
| the exchange is refused, or nobody logs in | once |
-/

import LoginGate.Proofs.Completion
import LoginGate.Proofs.Eviction
import LoginGate.Proofs.Revocation

namespace LoginGate

namespace SessionStore

variable {s t : SessionStore} {now : Instant} {id : String}

/-- The lease of one id may have started again, and nothing else changed: neither what any session
holds, nor any other live lease, nor what any id finds.  Only where a lease that starts now is over
at once may that id find its session no more. -/
structure Restarts (s t : SessionStore) (now : Instant) (own : Option String) : Prop where
  sessions : t.sessions = s.sessions
  leases : ∀ a l, l.isLive now = true → own ≠ some l.id →
    (l ∈ (t.pool a).leases ↔ l ∈ (s.pool a).leases)
  found : ∀ id, t.find? now id = s.find? now id ∨ own = some id ∧ ∃ a l e,
    s.holder? now id = some (a, l) ∧ now.add (s.pool a).ttl = .ok e ∧ now.isBefore e = false

/-- Nothing was looked for, and no lease starts again. -/
theorem Restarts.refl (s : SessionStore) (now : Instant) (own : Option String) :
    s.Restarts s now own :=
  ⟨rfl, fun _ _ _ _ => Iff.rfl, fun _ => .inl rfl⟩

/-- Where the live leases of an id are as they were, it finds what it found. -/
theorem find?_congr (tidy : s.Tidy) (tidy' : t.Tidy)
    (same : ∀ a l, l.isLive now = true → l.id = id →
      (l ∈ (t.pool a).leases ↔ l ∈ (s.pool a).leases)) : t.find? now id = s.find? now id := by
  have alone : id ∈ t.authenticated.liveIds now ↔ id ∈ s.authenticated.liveIds now := by
    unfold Pool.liveIds Pool.live
    simp only [List.mem_map, List.mem_filter]
    constructor
    · rintro ⟨l, ⟨hl, live⟩, hid⟩
      exact ⟨l, ⟨(same .authenticated l live hid).1 hl, live⟩, hid⟩
    · rintro ⟨l, ⟨hl, live⟩, hid⟩
      exact ⟨l, ⟨(same .authenticated l live hid).2 hl, live⟩, hid⟩
  have holder : t.holder? now id = s.holder? now id := by
    refine Option.ext fun ⟨a, l⟩ => ?_
    rw [holder?_eq_some_iff tidy, holder?_eq_some_iff tidy', alone]
    exact ⟨fun ⟨hl, live, hid, rest⟩ => ⟨(same a l live hid).1 hl, live, hid, rest⟩,
      fun ⟨hl, live, hid, rest⟩ => ⟨(same a l live hid).2 hl, live, hid, rest⟩⟩
  rw [find?, find?, holder]

/-- A pool in which the lease `k` that an id finds gave way to the lease `j` of the same session. -/
theorem restarts_withPool {b : PoolName} {k j : Lease} {q : Pool} (tidy : s.Tidy)
    (tidy' : (s.withPool b q).Tidy) (holder : s.holder? now k.id = some (b, k))
    (others : ∀ l, l.isLive now = true → l.id ≠ k.id → (l ∈ q.leases ↔ l ∈ (s.pool b).leases))
    (there : j ∈ q.leases) (same : j.id = k.id ∧ j.serial = k.serial)
    (lasts : j.isLive now = true ∨ now.add (s.pool b).ttl = .ok j.expires) :
    s.Restarts (s.withPool b q) now (some k.id) := by
  have leases : ∀ a l, l.isLive now = true → l.id ≠ k.id →
      (l ∈ ((s.withPool b q).pool a).leases ↔ l ∈ (s.pool a).leases) := by
    intro a l lives other
    by_cases own : a = b
    · subst own
      rw [pool_withPool_self]
      exact others l lives other
    · rw [pool_withPool_of_ne own]
  refine ⟨by cases b <;> rfl, fun a l lives other =>
    leases a l lives fun own => other (own ▸ rfl), fun id => ?_⟩
  by_cases own : id = k.id
  · subst own
    cases live : j.isLive now with
    | false =>
      have time := lasts.resolve_left (by rw [live]; exact Bool.false_ne_true)
      exact .inr ⟨rfl, b, k, j.expires, holder, time, live⟩
    | true =>
      -- The lease that was set is the one that is found.
      refine .inl ?_
      have mem : j ∈ ((s.withPool b q).pool b).leases := by rwa [pool_withPool_self]
      have alone : b = .pending → k.id ∉ (s.withPool b q).authenticated.liveIds now := by
        rintro rfl
        exact ((holder?_eq_some_iff tidy).1 holder).2.2.2 rfl
      have found := (holder?_eq_some_iff tidy').2 ⟨mem, live, same.1, alone⟩
      rw [find?, find?, found, holder]
      exact congrArg some same.2
  · exact .inl (find?_congr tidy tidy' fun a l lives hid =>
      leases a l lives fun same => own (hid ▸ same))

/-- **A look for a session** starts its lease again, or uses it, and changes nothing else. -/
theorem get_restarts (tidy : s.Tidy) (now : Instant) (id : String) :
    s.Restarts (s.get now id).2 now (some id) := by
  have tidy' : (s.get now id).2.Tidy := get_of_stable (Pool.tidy_stable now) tidy id
  have gets := s.get_gets now id
  generalize (s.get now id).1 = r at gets
  generalize (s.get now id).2 = t at gets tidy' ⊢
  cases gets with
  | absent => exact .refl ..
  | @unset b k _ holder =>
    obtain ⟨mem, live, rfl⟩ := mem_leases_of_holder? holder
    refine restarts_withPool (j := { k with used := (s.pool b).uses }) tidy tidy' holder
      (fun l _ other => ⟨fun hl => ?_, fun hl => Pool.mem_use hl other⟩)
      (List.mem_map.2 ⟨k, mem, if_pos rfl⟩) ⟨rfl, rfl⟩ (.inl live)
    obtain ⟨m, hm, rfl⟩ := List.mem_map.1 hl
    by_cases own : m.id = k.id
    · rw [if_pos own] at other
      exact absurd own other
    · rwa [if_neg own]
  | @set b k q holder set =>
    obtain ⟨mem, live, rfl⟩ := mem_leases_of_holder? holder
    obtain ⟨e, time, -, -, leases⟩ := Pool.set_eq_ok set
    refine restarts_withPool (j := ⟨k.id, k.serial, e, (s.pool b).uses⟩) tidy tidy' holder
      (fun l lives other => ⟨fun hl => ?_, fun hl => ?_⟩)
      (leases ▸ List.mem_append_right _ List.mem_cons_self) ⟨rfl, rfl⟩ (.inr time)
    · rw [leases] at hl
      obtain kept | new := List.mem_append.1 hl
      · exact (Pool.expire_sublist now _).subset (List.mem_filter.1 kept).1
      · obtain rfl := List.mem_singleton.1 new
        exact absurd rfl other
    · obtain stays | gone := Pool.mem_set set hl lives other
      · exact stays
      · rw [Pool.evicted_eq_none mem live] at gone
        cases gone

end SessionStore

namespace Gate

open Step (Ends Finds)

variable {g : Gate} {w : World} {v u : Visit} {q : Request} {channel : Channel}
  {session : Option Serial} {mandatory : Bool} {reason : String} {n : Serial} {ttl : Seconds}
  {capacity : Int} {ids : Supply}

/-- Looking for the session of a request changes no lease but its own. -/
theorem finds_restarts {x : Except Fault (Option Serial)} (tidy : v.world.store.Tidy)
    (h : Finds v x u) :
    v.world.store.Restarts u.world.store v.world.now v.request.sessionId := by
  have sought : ∀ {id : String} {y : Except CapacityFault (Option Serial)} {s : SessionStore},
      v.world.store.get v.world.now id = (y, s) →
        v.world.store.Restarts s v.world.now (some id) := by
    intro id y s found
    have restarts := SessionStore.get_restarts tidy v.world.now id
    rwa [found] at restarts
  cases h with
  | nobody => exact .refl ..
  | found named _ found => exact named ▸ sought found
  | broken named found => exact named ▸ sought found

/-- A code may be redeemed: it came with a state that is the token of the request's session. -/
def Entitled (w : World) (q : Request) (code : String) : Prop :=
  q.parameter "code" = some code ∧ ∃ n a token, w.live? q = some n ∧ w.store.session? n = some a ∧
    a.csrfToken = some (.text token) ∧ q.parameter "state" = some token

/-- What a failed callback leaves as it was: the request, all sessions, and all leases but that of
its own session.  The exchanger is asked once at most. -/
structure Unharmed (g : Gate) (w : World) (q : Request) (v : Visit) : Prop where
  request : v.request = q
  store : w.store.Restarts v.world.store w.now q.sessionId
  users : v.world.users = w.users
  tokens : v.world.tokens = w.tokens
  now : v.world.now = w.now
  calls : v.calls = [] ∨ ∃ code, Entitled w q code ∧
    v.calls = [g.service.exchanger.callOf code q.callbackUrl]

/-- The end of a decision leaves the world, the request and the calls to the provider. -/
theorem ends_keeps {f : Channel → Except ChannelFault Channel} {o : Outcome}
    {r : Except Fault Outcome} (h : Ends f o v r u) :
    u.world = v.world ∧ u.request = v.request ∧ u.calls = v.calls := by
  cases h <;> exact ⟨rfl, rfl, rfl⟩

/-- A login that is refused asked the exchanger, and left the rest of the world. -/
theorem LogsIn.refused_keeps {code redirectUri : String}
    (h : LogsIn g { code, redirectUri } n v (.ok none) u) :
    u.request = v.request ∧ u.world = { v.world with replies := u.world.replies } ∧
      u.calls = v.calls ++ [g.service.exchanger.callOf code redirectUri] := by
  cases h with
  | refused =>
    refine ⟨rfl, rfl, ?_⟩
    exact congrArg (v.calls ++ ·) (g.service.calls_login ..)

/-- **A callback that fails in its session** wrote nothing, and redeemed a code only with the token
of the session. -/
theorem Answers.keeps_of_failed (h : Answers g v session (.ok (.failed reason)) u) :
    u.request = v.request ∧ u.world = { v.world with replies := u.world.replies } ∧
      (u.calls = v.calls ∨ ∃ n code, session = some n ∧ v.request.parameter "code" = some code ∧
        Csrf.accepts? (v.session n) (v.request.parameter "state") = some true ∧
        u.calls = v.calls ++ [g.service.exchanger.callOf code v.request.callbackUrl]) := by
  have still : u.world = v.world ∧ u.request = v.request ∧ u.calls = v.calls →
      u.request = v.request ∧ u.world = { v.world with replies := u.world.replies } ∧
        (u.calls = v.calls ∨ ∃ n code, session = some n ∧
          v.request.parameter "code" = some code ∧
          Csrf.accepts? (v.session n) (v.request.parameter "state") = some true ∧
          u.calls = v.calls ++ [g.service.exchanger.callOf code v.request.callbackUrl]) := by
    rintro ⟨world, request, calls⟩
    exact ⟨request, by rw [world], .inl calls⟩
  cases h with
  | noCode _ ends => exact still (ends_keeps ends)
  | noSession _ ends => exact still (ends_keeps ends)
  | wrongState _ _ ends => exact still (ends_keeps ends)
  | @redeemed n code _ _ given state redeems =>
    cases redeems with
    | refused login ends =>
      obtain ⟨world, request, calls⟩ := ends_keeps ends
      obtain ⟨request', world', calls'⟩ := login.refused_keeps
      rw [request, world, calls]
      exact ⟨request', world', .inr ⟨n, code, rfl, given, state, calls'⟩⟩
    | redeemed _ ends => cases ends

/-- A state that is accepted is a token of the session. -/
theorem hasToken_of_accepts {state : Option String}
    (h : Csrf.accepts? (v.session n) state = some true) :
    ∃ token, v.world.HasToken n token ∧ state = some token := by
  obtain ⟨token, held, sent⟩ := Csrf.eq_of_accepts? h
  refine ⟨token, ?_, sent⟩
  unfold World.HasToken
  cases there : v.world.store.session? n with
  | none =>
    rw [Visit.session, there] at held
    cases held
  | some a => rwa [Visit.session_of_session? there] at held

/-- A state that is accepted entitles a request to redeem its code. -/
theorem entitled_of_accepts {code : String} (live : v.world.live? v.request = some n)
    (given : v.request.parameter "code" = some code)
    (state : Csrf.accepts? (v.session n) (v.request.parameter "state") = some true) :
    Entitled v.world v.request code := by
  obtain ⟨token, held, sent⟩ := hasToken_of_accepts state
  obtain ⟨a, there, held⟩ := Option.bind_eq_some_iff.1 held
  exact ⟨given, n, a, token, live, there, (Option.filter_eq_some_iff.1 held).1, sent⟩

/-- **A callback that fails** harms nothing. -/
theorem Decides.unharmed (tidy : v.world.store.Tidy) (quiet : v.calls = [])
    (callback : isCallback v.request.uri = true)
    (h : Decides g mandatory v (.ok (.failed reason)) u) : Unharmed g v.world v.request u := by
  cases h with
  | urlSession _ _ ends =>
    obtain ⟨world, request, calls⟩ := ends_keeps ends
    exact
      { request
        store := world ▸ .refl ..
        users := by rw [world]
        tokens := by rw [world]
        now := by rw [world]
        calls := .inl (calls.trans quiet) }
  | @callback session x _ _ _ _ finds answers =>
    have live := live?_of_finds finds
    obtain ⟨request, world, calls⟩ := answers.keeps_of_failed
    have restarts := finds_restarts tidy finds
    have same := finds_session finds
    obtain ⟨world', request', calls'⟩ : x.world = { v.world with store := x.world.store } ∧
        x.request = v.request ∧ x.calls = v.calls := by
      obtain ⟨s, rfl, -⟩ := finds.exists_store
      exact ⟨rfl, rfl, rfl⟩
    refine
      { request := request.trans request'
        store := by rwa [world]
        users := by rw [world, world']
        tokens := by rw [world, world']
        now := by rw [world, world']
        calls := ?_ }
    obtain none | ⟨n, code, rfl, given, state, once⟩ := calls
    · exact .inl (none.trans (calls'.trans quiet))
    · rw [request'] at given state once
      rw [same] at state
      rw [calls', quiet, List.nil_append] at once
      exact .inr ⟨code, entitled_of_accepts live given state, once⟩
  | protect _ other => exact absurd (callback.symm.trans other) nofun

/-- How the outcome of a visit was decided. -/
theorem decides_of_visit {o : Outcome}
    (h : (g.visit w (.validate mandatory) q channel).1 = .ok (some o)) :
    Decides g mandatory { world := w, request := q, channel } (.ok o)
      (g.visit w (.validate mandatory) q channel).2 := by
  have decides := validate_decides g mandatory { world := w, request := q, channel }
  rw [visit_validate] at h
  rw [visit_validate_snd]
  generalize ((g.validate mandatory).on { world := w, request := q, channel }).1 = r at h decides
  cases r with
  | error fault => cases h
  | ok o' =>
    obtain rfl : o' = o := Option.some.inj (Except.ok.inj h)
    exact decides

/-- **A failed callback leaves everything as it was.**  After any run a callback that is answered
with a failure changes neither the request nor any session, and no lease but that of its own
session, which may have started again; so, if the clock was never set back, every id finds what it
found.  It asks the exchanger once at most, and only with a code that came with the token of its
live session. -/
theorem unharmed_of_failed (made : SessionStore.make ttl capacity ids = .ok w.store)
    (es : List Event) (mandatory : Bool) (q : Request) (channel : Channel)
    (callback : isCallback q.uri = true)
    (failed : (g.visit (g.run w es) (.validate mandatory) q channel).1 =
      .ok (some (.failed reason))) :
    let x := g.run w es
    let u := (g.visit x (.validate mandatory) q channel).2
    Unharmed g x q u ∧ (Steady w.now es → Seconds.OneKind (times w.now es) →
      ∀ id, u.world.store.find? x.now id = x.store.find? x.now id) := by
  intro x u
  have tidy : x.store.Tidy := tidy_run (SessionStore.tidy_of_make made) es
  have unharmed : Unharmed g x q u :=
    Decides.unharmed (v := { world := x, request := q, channel }) tidy rfl callback
      (decides_of_visit failed)
  refine ⟨unharmed, fun steady kind id => ?_⟩
  obtain same | ⟨-, a, l, e, holder, time, past⟩ := unharmed.store.found id
  · exact same
  · obtain ⟨hl, live, -⟩ := SessionStore.mem_leases_of_holder? holder
    have kept : (x.store.pool a).ttl = ttl := (pools_run_of_make made es a).2
    have lasts := isBefore_of_live made steady kind hl live (kept ▸ time)
    exact absurd (lasts.symm.trans past) nofun

/-- A code that nobody knows, sent with the token of a session: the login that is under way in it
stays, and the exchanger was asked once. -/
theorem unharmed_of_smallFailure :
    let x := (smallGate true).run (smallWorld none) (smallLogin.take 1)
    let q := smallRequest "/j_security_check" "code=xyz&state=token" (some "first")
    let u := ((smallGate true).visit x (.validate true) q .fresh).2
    ((smallGate true).visit x (.validate true) q .fresh).1 = .ok (some (.failed "login_failed")) ∧
      Unharmed (smallGate true) x q u ∧ u.world.store.find? x.now "first" = some 0 ∧
      u.calls = [.exchange "xyz" "http://app/j_security_check"] := by
  intro x q u
  have made : SessionStore.make (.whole 60) 4 { given := ["first", "second"] } =
      .ok (smallWorld none).store := rfl
  have failed : ((smallGate true).visit x (.validate true) q .fresh).1 =
      .ok (some (.failed "login_failed")) := by decide +kernel
  obtain ⟨unharmed, found⟩ := unharmed_of_failed made (smallLogin.take 1) true q .fresh
    (by decide +kernel) failed
  have first : x.store.find? x.now "first" = some 0 := by decide +kernel
  refine ⟨failed, unharmed, (found trivial (.inl fun t ht => ?_) "first").trans first,
    by decide +kernel⟩
  obtain rfl := List.mem_singleton.1 ht
  exact ⟨0, rfl⟩

end Gate
end LoginGate
