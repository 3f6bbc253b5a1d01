/-
# What a login leaves of its session

A login goes on under a fresh id.  The session of the old id is gone, from whichever pool held it,
and all that it held is in the new one, but for the login that is new and the destination that is
used up.

| | after the login |
| --- | --- |
| the new id, which was live nowhere | finds the new session, logged in |
| the old id | finds nothing |
| any other session | holds what it held |

Where the clock was set back, an id that was drawn twice may be live in both pools; a login in it
invalidates the one session and leaves the other.
-/

import LoginGate.Proofs.Refusal
import LoginGate.Proofs.Uses

namespace LoginGate

namespace SessionStore

variable {s t : SessionStore} {now : Instant} {id : String} {m n : Serial} {ttl e : Seconds}

/-- An id is live where one of the pools has a live lease of it. -/
theorem mem_liveIds_iff :
    id ∈ s.liveIds now ↔ ∃ a, ∃ l ∈ (s.pool a).leases, l.isLive now = true ∧ l.id = id := by
  constructor
  · intro h
    obtain h | h := List.mem_append.1 h
    · obtain ⟨l, hl, hid⟩ := List.mem_map.1 h
      exact ⟨.authenticated, l, (List.mem_filter.1 hl).1, (List.mem_filter.1 hl).2, hid⟩
    · obtain ⟨l, hl, hid⟩ := List.mem_map.1 h
      exact ⟨.pending, l, (List.mem_filter.1 hl).1, (List.mem_filter.1 hl).2, hid⟩
  · rintro ⟨a, l, hl, live, rfl⟩
    exact mem_liveIds (List.mem_filter.2 ⟨hl, live⟩)

/-- An id that finds a session is live. -/
theorem mem_liveIds_of_find? (h : s.find? now id = some n) : id ∈ s.liveIds now := by
  obtain ⟨⟨a, l⟩, holder, -⟩ := Option.map_eq_some_iff.1 h
  obtain ⟨hl, live, hid⟩ := mem_leases_of_holder? holder
  exact mem_liveIds_iff.2 ⟨a, l, hl, live, hid⟩

/-- An id is live in both pools: in the one of the logins it is the id of the session `n`, in the
pending one that of the session `k`. -/
structure Shares (s : SessionStore) (now : Instant) (id : String) (n k : Serial) : Prop where
  login : (s.authenticated.live? now id).map Lease.serial = some n
  pending : (s.pending.live? now id).map Lease.serial = some k

/-- An id that is live in a pool and found in another one is shared: what is found is the login. -/
theorem shares_of_holder {a b : PoolName} {h i : Lease} (tidy : s.Tidy)
    (holder : s.holder? now id = some (a, h)) (hi : i ∈ (s.pool b).leases)
    (live : i.isLive now = true) (same : i.id = id) (other : b ≠ a) :
    s.Shares now id h.serial i.serial := by
  obtain ⟨mem, lives, rfl, alone⟩ := (holder?_eq_some_iff tidy).1 holder
  have found := (tidy b).live? hi live
  rw [same] at found
  cases a with
  | authenticated =>
    cases b with
    | authenticated => exact absurd rfl other
    | pending =>
      exact ⟨congrArg (Option.map Lease.serial) ((tidy .authenticated).live? mem lives),
        congrArg (Option.map Lease.serial) found⟩
  | pending =>
    cases b with
    | pending => exact absurd rfl other
    | authenticated =>
      exact absurd (List.mem_map.2 ⟨i, List.mem_filter.2 ⟨hi, live⟩, same⟩) (alone rfl)

/-- Where no id is live in both pools, none is shared. -/
theorem Unshared.not_shares {k : Serial} (h : s.Unshared now) : ¬ s.Shares now id n k := by
  rintro ⟨login, pending⟩
  obtain ⟨i, first, -⟩ := Option.map_eq_some_iff.1 login
  obtain ⟨j, second, -⟩ := Option.map_eq_some_iff.1 pending
  have own : ∀ {p : Pool} {l : Lease}, p.live? now id = some l → l ∈ p.live now ∧ l.id = id := by
    intro p l found
    have same := List.find?_some found
    exact ⟨List.mem_of_find?_eq_some found, eq_of_beq same⟩
  exact h j (own second).1 i (own first).1 ((own second).2.trans (own first).2.symm)

section Renewal

variable (sane : s.Sane) (found : s.get now id = (.ok (some n), t))
  (ttls : ∀ a, (s.pool a).ttl = ttl) (time : now.add ttl = .ok e)
include sane found ttls time

/-- A look that finds a session keeps the ids that are live, if a lease that starts now lasts. -/
theorem liveIds_of_get (lasts : now.isBefore e = true) :
    ∀ j ∈ s.liveIds now, j ∈ t.liveIds now := by
  have tidy : s.Tidy := fun a => (sane.ranked a).toTidy
  have restarts := get_restarts tidy now id
  rw [found] at restarts
  intro j hj
  obtain ⟨a, l, hl, live, rfl⟩ := mem_liveIds_iff.1 hj
  by_cases own : l.id = id
  · rw [own]
    obtain same | ⟨-, b, k, f, -, ends, past⟩ := restarts.found id
    · exact mem_liveIds_of_find? (same.trans (find?_of_get (congrArg Prod.fst found)))
    · rw [ttls b] at ends
      obtain rfl := Except.ok.inj (time.symm.trans ends)
      exact absurd (lasts.symm.trans past) nofun
  · have stays := (restarts.leases a l live fun same => own (Option.some.inj same).symm).2 hl
    exact mem_liveIds_iff.2 ⟨a, l, stays, live, rfl⟩

/-- The id that a renewal draws was live nowhere before the session was looked for. -/
theorem drawn_not_mem (lasts : now.isBefore e = true) :
    (t.ids.drawFree (t.liveIds now)).1 ∉ s.liveIds now := by
  have evolves := get_evolves s now id
  rw [found] at evolves
  exact fun taken => Supply.drawFree_not_mem (evolves.distinct sane.distinct)
    (liveIds_of_get sane found ttls time lasts _ taken)

/-- The id that a renewal draws is not the old one. -/
theorem drawn_ne (lasts : now.isBefore e = true) :
    (t.ids.drawFree (t.liveIds now)).1 ≠ id := fun same =>
  drawn_not_mem sane found ttls time lasts
    (same ▸ mem_liveIds_of_find? (find?_of_get (congrArg Prod.fst found)))

/-- **The old id of a renewed session finds it no more.**  What it still finds is the session that
the pending pool has under it, where the renewed one was a login. -/
theorem of_find?_old {k : Serial} (done : (t.renew now n).result = .ok m)
    (still : (t.renew now n).store.find? now id = some k) : k ≠ n ∧ s.Shares now id n k := by
  obtain ⟨l, hl, live, lid, rfl⟩ := exists_of_find? still
  -- A live lease of the old id is of another session than the renewed one.
  have other : l.serial ≠ n := fun own =>
    absurd live (Bool.eq_false_iff.1
      (renew_dormant sane.named sane.apart sane.distinct found done l hl own).1)
  refine ⟨other, ?_⟩
  obtain ⟨b, hl⟩ := exists_pool_of_mem_leases hl
  obtain ⟨i, rfl, issue, store⟩ := renew_eq_ok done
  rw [store] at hl
  have evolves := get_evolves s now id
  have continues := get_continues s now id b
  rw [found] at evolves continues
  obtain ⟨-, drawn, ends⟩ | before := leases_of_issue issue b l (leases_of_invalidate hl).1
  · -- The lease of the new session is live only where its id is another one.
    rw [(evolves.pools .authenticated).2, ttls] at ends
    obtain rfl := Except.ok.inj (time.symm.trans ends)
    exact absurd (drawn.symm.trans lid) (drawn_ne sane found ttls time live)
  · obtain ⟨i, hi, iid, serial, lives⟩ := continues l before
    have lives : i.isLive now = true := by
      obtain same | lives := lives
      · rwa [Lease.isLive, same]
      · exact lives
    obtain ⟨⟨a, h⟩, holder, own⟩ :=
      Option.map_eq_some_iff.1 (find?_of_get (congrArg Prod.fst found))
    by_cases here : b = a
    · subst here
      obtain ⟨hh, -, hid⟩ := mem_leases_of_holder? holder
      have same := List.inj_on_of_nodup_map (sane.ranked b).nodup hi hh
        (iid.trans (lid.trans hid.symm))
      exact absurd (serial.symm.trans ((congrArg Lease.serial same).trans own)) other
    · have tidy : s.Tidy := fun a => (sane.ranked a).toTidy
      have shares := shares_of_holder tidy holder hi lives (iid.trans lid) here
      rwa [own, serial] at shares

/-- **The new id of a renewed session finds it** among the logins. -/
theorem holder?_new (done : (t.renew now n).result = .ok m) (lasts : now.isBefore e = true) :
    ∃ l, (t.renew now n).store.holder? now (t.ids.drawFree (t.liveIds now)).1 =
      some (.authenticated, l) ∧ l.serial = m := by
  have evolves := get_evolves s now id
  have ranked := get_of_stable (Pool.ranked_stable now) sane.ranked id
  have sessions := sessions_get s now id
  rw [found] at evolves ranked sessions
  have issued := sane.named.of_find? (find?_of_get (congrArg Prod.fst found))
  have idOf : t.idOf n = id := idOf_of_issued (by rwa [issuedIds, sessions])
  have fresh := drawn_ne sane found ttls time lasts
  obtain ⟨f, ends, l, hl, lid, serial, expires, -⟩ :=
    lease_of_renew (ranked .authenticated) done (idOf.symm ▸ fresh)
  rw [(evolves.pools .authenticated).2, ttls] at ends
  obtain rfl := Except.ok.inj (time.symm.trans ends)
  have tidy : (t.renew now n).store.Tidy := fun a =>
    (renew_of_stable (Pool.ranked_stable now) ranked n a).toTidy
  have live : l.isLive now = true := by rwa [Lease.isLive, expires]
  exact ⟨l, (holder?_eq_some_iff tidy).2 ⟨hl, live, lid, by simp⟩, serial⟩

end Renewal

end SessionStore

namespace Gate

open Step (Finds)

variable {g : Gate} {w : World} {v u : Visit} {mandatory sent : Bool} {result : AuthResult}
  {ttl : Seconds} {capacity : Int} {ids : Supply} {q : Request} {channel : Channel}

/-- A login in the session `n`, which came as `old` under the id `i`, goes on under the id `j`. A
lease that starts with the call ends at `e`. -/
structure HandsOver (x : World) (q : Request) (result : AuthResult) (i j : String) (n : Serial)
    (old : Session) (e : Seconds) (u : Visit) : Prop where
  request : u.request = { q with sessionId := some j }
  /-- The new session holds the login, and all else that the old one held but the destination. -/
  sessions : u.world.store.sessions = x.store.sessions ++
    [{ old with
        id := j
        authenticated := some (.result result)
        claims := some (.fields result.claims)
        response := some (.fields result.response)
        destination := none }]
  /-- The old id finds nothing, unless it was live in both pools: then it finds the session that the
  pending pool has under it, and the one that was renewed was a login. -/
  gone : ∀ k, u.world.store.find? x.now i = some k → k ≠ n ∧ x.store.Shares x.now i n k
  fresh : x.now.isBefore e = true → j ≠ i ∧ j ∉ x.store.liveIds x.now
  live : x.now.isBefore e = true → ∃ l, l.serial = x.store.sessions.length ∧
    u.world.store.holder? x.now j = some (.authenticated, l)

/-- The id that a sign-in goes on under is the one that its renewal drew. -/
theorem SignIn.At.drawn {x : SignIn} {s : SessionStore} (h : x.At g w q)
    (found : w.store.get w.now x.oldId = (.ok (some x.session), s)) :
    x.newId = (s.ids.drawFree (s.liveIds w.now)).1 := by
  have renewal := h.renewal
  have newId := h.newId
  rw [found] at renewal newId
  have last : x.next = s.sessions.length := by
    cases s.renew_issues w.now x.session with
    | issued issued => exact Except.ok.inj (renewal.symm.trans issued)
    | refused refused => cases renewal.symm.trans refused
  rw [← newId, last]
  exact SessionStore.idOf_of_issued
    (SessionStore.getElem?_drawn (s.issuedIds_renew w.now x.session))

/-- **A callback that finds somebody logged in** hands the session over. -/
theorem Decides.handsOver (sane : v.world.store.Sane)
    (ttls : ∀ a, (v.world.store.pool a).ttl = ttl) (callback : isCallback v.request.uri = true)
    (h : Decides g mandatory v (.ok (.authenticated result sent)) u) :
    ∃ i j n old e, v.request.sessionId = some i ∧ v.world.live? v.request = some n ∧
      v.world.store.session? n = some old ∧ v.world.now.add ttl = .ok e ∧
      HandsOver v.world v.request result i j n old e u := by
  generalize hr : (Except.ok (Outcome.authenticated result sent) : Except Fault Outcome) = r at h
  cases h with
  | deferred => cases hr
  | urlSession _ _ ends => exact absurd hr.symm (result_ne_authenticated ends.result nofun)
  | unfound => cases hr
  | protect _ other => exact absurd (callback.symm.trans other) nofun
  | callback _ _ finds answers =>
    subst hr
    have live := live?_of_finds finds
    obtain ⟨n, code, rfl, given, state, redeems⟩ := answers.redeems
    rw [finds_session finds] at state
    generalize hr : (Except.ok (Outcome.authenticated result sent) : Except Fault Outcome) = r
      at redeems
    cases finds with
    | @found i _ s named _ found =>
      cases redeems with
      | broken => cases hr
      | refused _ ends => exact absurd hr.symm (result_ne_authenticated ends.result nofun)
      | @redeemed result' k y _ _ login ends =>
        have alike := login.alike_of_ok
        obtain ⟨x, signsIn, rfl, rfl, rfl, new, sessions, request, -⟩ :=
          signsIn_of_redeemed callback named found given state login
        cases ends with
        | failed => cases hr
        | taken =>
          obtain ⟨rfl, -⟩ := Outcome.authenticated.inj (Except.ok.inj hr)
          obtain rfl : x.oldId = i := Option.some.inj (signsIn.named.symm.trans named)
          obtain ⟨old, stored, -⟩ := Option.bind_eq_some_iff.1 signsIn.token
          obtain ⟨a, e, time, -⟩ := SessionStore.set_of_get (congrArg Prod.fst found)
          rw [ttls] at time
          have last := SessionStore.modify_last sessions SavedRequest.arrive
          rw [← new, Visit.session_of_session? stored] at last
          have renewal := signsIn.renewal
          rw [found] at renewal
          have drawn := signsIn.drawn found
          -- Neither the login nor the destination that is used up is of the pools.
          have pools := (alike.trans (.modify SavedRequest.arrive _ x.next)).pool
          refine ⟨x.oldId, x.newId, x.session, old, e, named, live, stored, time, request, last,
            fun k still => ?_, fun lasts => ?_, fun lasts => ?_⟩
          · have holder := @SessionStore.holder?_congr _ _ v.world.now x.oldId pools
            have same := congrArg (Option.map fun h => h.2.serial) holder
            exact SessionStore.of_find?_old sane found ttls time renewal (same.symm.trans still)
          · rw [drawn]
            exact ⟨SessionStore.drawn_ne sane found ttls time lasts,
              SessionStore.drawn_not_mem sane found ttls time lasts⟩
          · obtain ⟨l, there, serial⟩ :=
              SessionStore.holder?_new sane found ttls time renewal lasts
            rw [← drawn] at there
            exact ⟨l, serial.trans new, (SessionStore.holder?_congr pools).trans there⟩

/-- **A login renews the session.**  After any run a callback that finds somebody logged in hands
its session over: the login and all that the session held go on under an id that was live nowhere,
in the pool of the logins, and nothing else was written.  If the clock was never set back, the old
id finds nothing after that, and the new lease is live. -/
theorem handsOver_of_authenticated (made : SessionStore.make ttl capacity ids = .ok w.store)
    (distinct : ids.Distinct) (es : List Event) (mandatory : Bool) (q : Request) (channel : Channel)
    (callback : isCallback q.uri = true)
    (login : (g.visit (g.run w es) (.validate mandatory) q channel).1 =
      .ok (some (.authenticated result sent))) :
    let x := g.run w es
    let u := (g.visit x (.validate mandatory) q channel).2
    ∃ i j n old e, q.sessionId = some i ∧ x.live? q = some n ∧ x.store.session? n = some old ∧
      x.now.add ttl = .ok e ∧ HandsOver x q result i j n old e u ∧
      (Steady w.now es → u.world.store.find? x.now i = none ∧
        (Seconds.OneKind (times w.now es) → x.now.isBefore e = true)) := by
  intro x u
  have orderly := orderly_run (g := g) (orderly_of_make made distinct) es
  obtain ⟨i, j, n, old, e, named, live, stored, time, hands⟩ :=
    Decides.handsOver (v := { world := x, request := q, channel })
      (reachable_run made distinct es).sane orderly.ttl callback (decides_of_visit login)
  refine ⟨i, j, n, old, e, named, live, stored, time, hands, fun steady => ⟨?_, fun kind => ?_⟩⟩
  · have start : w.store.Unshared w.now := fun l hl => by
      have none := congrArg Pool.leases (SessionStore.pool_of_make made .pending).1
      exact absurd (none ▸ (List.mem_filter.1 hl).1) List.not_mem_nil
    have unshared := unshared_run (g := g) (orderly_of_make made distinct) steady start
    cases still : u.world.store.find? x.now i with
    | none => rfl
    | some k => exact absurd (hands.gone k still).2 unshared.not_shares
  · obtain ⟨_, -, -, found⟩ := World.live?_eq_some.1 live
    obtain ⟨l, hl, lives, -⟩ := SessionStore.exists_of_find? found
    obtain ⟨b, hl⟩ := SessionStore.exists_pool_of_mem_leases hl
    exact isBefore_of_live made steady kind hl lives time

/-- The callback of the small login finds `alice`, and hands her the session of the challenge. -/
theorem handsOver_of_smallLogin :
    let x := (smallGate true).run (smallWorld none) (smallLogin.take 1)
    let q := smallRequest "/j_security_check" "code=abc&state=token" (some "first")
    let u := ((smallGate true).visit x (.validate true) q .fresh).2
    ((smallGate true).visit x (.validate true) q .fresh).1 =
        .ok (some (.authenticated smallResult true)) ∧
      ∃ j n old e, HandsOver x q smallResult "first" j n old e u ∧
        u.world.store.find? x.now "first" = none ∧ x.now.isBefore e = true := by
  intro x q u
  have login : ((smallGate true).visit x (.validate true) q .fresh).1 =
      .ok (some (.authenticated smallResult true)) := by decide +kernel
  have made : SessionStore.make (.whole 60) 4 { given := ["first", "second"] } =
      .ok (smallWorld none).store := rfl
  obtain ⟨i, j, n, old, e, named, -, -, -, hands, steady⟩ :=
    handsOver_of_authenticated made (Series.name_injective _ (by decide) le_rfl)
      (smallLogin.take 1) true q .fresh (by decide +kernel) login
  obtain rfl : "first" = i := Option.some.inj named
  obtain ⟨gone, lasts⟩ := steady trivial
  refine ⟨login, j, n, old, e, hands, gone, lasts (.inl fun t ht => ?_)⟩
  obtain rfl := List.mem_singleton.1 ht
  exact ⟨0, rfl⟩

/-- Two logins, the later one at an earlier time.  When its lease is over, which is behind the other
one in the pool, its id is drawn again for a challenge; then the clock is set back once more. -/
def drawnTwice : List Event :=
  [.call (.validate true) (smallRequest "/page" "" none) .fresh,
    .call (.validate true) (smallRequest "/j_security_check" "code=abc&state=one" (some "first"))
      .fresh,
    .tick (.whole 0),
    .call (.validate true) (smallRequest "/page" "" none) .fresh,
    .call (.validate true) (smallRequest "/j_security_check" "code=abc&state=two" (some "second"))
      .fresh,
    .tick (.whole 100),
    .call (.validate true) (smallRequest "/page" "" none) .fresh,
    .tick (.whole 30)]

/-- Where the clock is set back, an id may be live in both pools, and find the pending session once
the other one was renewed. -/
theorem found_after_login :
    ¬ ∀ (g : Gate) (w : World) (ttl : Seconds) (capacity : Int) (ids : Supply) (es : List Event)
      (mandatory : Bool) (q : Request) (channel : Channel) (i : String) (result : AuthResult)
      (sent : Bool), SessionStore.make ttl capacity ids = .ok w.store → ids.Distinct →
      isCallback q.uri = true → q.sessionId = some i →
      (g.visit (g.run w es) (.validate mandatory) q channel).1 =
        .ok (some (.authenticated result sent)) →
      (g.visit (g.run w es) (.validate mandatory) q channel).2.world.store.find?
        (g.run w es).now i = none := by
  intro claim
  let ids : Supply := { given := ["first", "ahead", "second", "again", "again", "last"] }
  let pool : Pool := { capacity := 4, ttl := .whole 60 }
  let w : World :=
    { store := { pending := pool, authenticated := pool, ids }, users := none
      tokens := { given := ["one", "two", "three"] }, now := .whole 1000 }
  have gone := claim (smallGate true) w (.whole 60) 4 ids drawnTwice true
    (smallRequest "/j_security_check" "code=abc&state=two" (some "again")) .fresh "again"
    { smallResult with authenticatedAt := 1000 } true rfl
    (Series.name_injective _ (by decide) le_rfl) (by decide +kernel) rfl (by decide +kernel)
  exact absurd gone (by decide +kernel)

end Gate
end LoginGate
