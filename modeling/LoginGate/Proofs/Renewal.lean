/-
# What renewing a session does to its leases

Where the time can be told and the pools have room, a session can be renewed.  The session that was
renewed has no live lease after that, and a lease of its own that is left was set by looking for it
just before.

| operation | after it |
| --- | --- |
| `get` | the session has one lease, of full length from now |
| `renew` | the session has no lease that is live |
-/

import LoginGate.Proofs.Leases

namespace LoginGate
namespace SessionStore

variable {s t : SessionStore} {now expires : Instant} {id : String} {n m : Serial}
  {name : PoolName} {a : Session}

/-! ## Renewing succeeds -/

/-- A pool with room takes a lease where the time can be told. -/
theorem set_of_room (room : (s.pool name).capacity ≠ 0)
    (time : now.add (s.pool name).ttl = .ok expires) :
    ∃ t log, s.set now name id n = .ok (t, log) := by
  unfold set Pool.set
  simp only [time, room, if_false]
  exact ⟨_, _, rfl⟩

/-- A pool with room takes a new session where the time can be told. -/
theorem issue_of_room (room : (s.pool name).capacity ≠ 0)
    (time : now.add (s.pool name).ttl = .ok expires) :
    (s.issue now name a).result = .ok s.sessions.length := by
  let id := (s.ids.drawFree (s.liveIds now)).1
  let started : SessionStore :=
    { s with ids := (s.ids.drawFree (s.liveIds now)).2, sessions := s.sessions ++ [a.withId id] }
  have pool : started.pool name = s.pool name := by cases name <;> rfl
  obtain ⟨t, log, set⟩ : ∃ t log, started.set now name id s.sessions.length = .ok (t, log) :=
    set_of_room (pool ▸ room) (pool ▸ time)
  unfold issue
  dsimp only
  rw [set]

/-- Where the pool of logins has room and the time can be told, a session can be renewed. -/
theorem renew_of_room (room : (s.pool .authenticated).capacity ≠ 0)
    (time : now.add (s.pool .authenticated).ttl = .ok expires) :
    (s.renew now n).result = .ok s.sessions.length := by
  have issued : (s.issue now .authenticated ((s.session? n).getD { id := "" })).result =
      .ok s.sessions.length := issue_of_room room time
  unfold renew
  dsimp only
  rw [issued]

/-- A renewal that succeeds issues a session and invalidates the id of the old one. -/
theorem renew_eq_ok (h : (s.renew now n).result = .ok m) :
    ∃ i, i = s.issue now .authenticated ((s.session? n).getD { id := "" }) ∧ i.result = .ok m ∧
      (s.renew now n).store = (i.store.invalidate now (s.idOf n)).1 := by
  have old : ((s.session? n).getD { id := "" }).id = s.idOf n := by
    unfold idOf
    cases s.session? n <;> rfl
  refine ⟨_, rfl, ?_⟩
  unfold renew at h ⊢
  dsimp only at h ⊢
  split at h
  · rename_i refused
    cases refused.symm.trans h
  · rename_i issued
    dsimp only
    rw [old, ← Except.ok.inj h]
    exact ⟨issued, rfl⟩

/-! ## The old session is gone -/

/-- A session that is found has one lease after that, of full length from now. -/
theorem leases_of_get (named : s.Named) (apart : s.Apart) (h : s.get now id = (.ok (some n), t)) :
    ∃ name expires, now.add (s.pool name).ttl = .ok expires ∧
      (∀ a, ∀ l ∈ (t.pool a).leases, l.serial = n → a = name ∧ l.id = id ∧ l.expires = expires) ∧
      (name = .pending →
        ∀ l ∈ (t.pool .authenticated).leases, l.isLive now = true → l.id ≠ id) := by
  have issued := named.of_find? (find?_of_get (congrArg Prod.fst h))
  unfold get at h
  cases hh : s.holder? now id with
  | none => simp [hh] at h
  | some found =>
    obtain ⟨name, k⟩ := found
    obtain ⟨mem, live, hid⟩ := mem_leases_of_holder? hh
    simp only [hh] at h
    cases set : s.set now name id k.serial with
    | error fault => simp [set] at h
    | ok r =>
      obtain ⟨u, log⟩ := r
      simp only [set, Prod.mk.injEq, Except.ok.injEq, Option.some.injEq] at h
      obtain ⟨rfl, rfl⟩ := h
      obtain ⟨expires, p, time, -, rfl, -, -, leases⟩ := set_eq_ok set
      refine ⟨name, expires, time, fun a l hl serial => ?_, fun pending l hl lives same => ?_⟩
      · by_cases own : a = name
        · subst own
          rw [pool_withPool_self] at hl
          obtain ⟨hid', -, hexpires⟩ | ⟨other, old⟩ := leases l hl
          · exact ⟨rfl, hid', hexpires⟩
          · -- Every lease of the session is under its id, and the one that was is set anew.
            have files := named l (mem_leases_of_mem_pool old)
            rw [Files, serial, issued] at files
            exact absurd (Option.some.inj files).symm other
        · rw [pool_withPool_of_ne own] at hl
          exact absurd serial (apart a name own l hl k mem)
      · subst pending
        rw [pool_withPool_of_ne (by decide)] at hl
        have none : s.authenticated.live? now id = none := by
          unfold holder? at hh
          cases ha : s.authenticated.live? now id with
          | none => rfl
          | some j => simp [ha] at hh
        rw [Pool.live?, List.find?_eq_none] at none
        exact none l (List.mem_filter.2 ⟨hl, lives⟩) (by simpa using same)

/-- A lease after a session was issued is the new one's, of full length from now, or was there
before. -/
theorem leases_of_issue (h : (s.issue now name a).result = .ok n) :
    ∀ b, ∀ l ∈ ((s.issue now name a).store.pool b).leases,
      l.serial = s.sessions.length ∧ l.id = (s.ids.drawFree (s.liveIds now)).1 ∧
          now.add (s.pool name).ttl = .ok l.expires ∨
        l ∈ (s.pool b).leases := by
  unfold issue at h ⊢
  dsimp only at h ⊢
  split at h
  · cases h
  · rename_i u log set
    simp only
    obtain ⟨expires, p, time, -, rfl, -, -, leases⟩ := set_eq_ok set
    rw [show SessionStore.pool _ name = s.pool name by cases name <;> rfl] at time
    intro b l hl
    by_cases own : b = name
    · subst own
      rw [pool_withPool_self] at hl
      obtain ⟨hid, serial, rfl⟩ | ⟨-, old⟩ := leases l hl
      · exact .inl ⟨serial, hid, time⟩
      · refine .inr ?_
        cases b <;> exact old
    · rw [pool_withPool_of_ne own] at hl
      refine .inr ?_
      cases b <;> exact hl

/-- A lease that is left when an id is invalidated was there before, and in the pool that held the
id it is of another one. -/
theorem leases_of_invalidate {b : PoolName} {l : Lease}
    (h : l ∈ ((s.invalidate now id).1.pool b).leases) :
    l ∈ (s.pool b).leases ∧ ∀ k, s.holder? now id = some (b, k) → l.id ≠ id := by
  unfold invalidate at h
  cases hh : s.holder? now id with
  | none =>
    rw [hh] at h
    exact ⟨h, nofun⟩
  | some found =>
    obtain ⟨name, k⟩ := found
    simp only [hh] at h
    by_cases own : b = name
    · subst own
      rw [pool_withPool_self] at h
      obtain ⟨old, other⟩ := List.mem_filter.1 h
      exact ⟨old, fun _ _ => of_decide_eq_true other⟩
    · rw [pool_withPool_of_ne own] at h
      refine ⟨h, fun j same => ?_⟩
      obtain ⟨rfl, -⟩ := Prod.mk.inj (Option.some.inj same)
      exact absurd rfl own

/-- The pool that holds an id: the authenticated one if it has a live lease of the id, and else the
other one if that has. -/
theorem holder?_of_mem {l : Lease} (hl : l ∈ (s.pool name).leases) (live : l.isLive now = true)
    (first : name = .pending → ∀ k ∈ s.authenticated.leases, k.isLive now = true → k.id ≠ l.id) :
    ∃ k, s.holder? now l.id = some (name, k) := by
  have found : ∀ p : Pool, l ∈ p.leases → ∃ k, p.live? now l.id = some k := fun p h =>
    Option.isSome_iff_exists.1
      (List.find?_isSome.2 ⟨l, List.mem_filter.2 ⟨h, live⟩, by simp⟩)
  unfold holder?
  cases name with
  | authenticated =>
    obtain ⟨k, hk⟩ := found s.authenticated hl
    exact ⟨k, by rw [hk]⟩
  | pending =>
    have none : s.authenticated.live? now l.id = none := by
      rw [Pool.live?, List.find?_eq_none]
      intro k hk same
      obtain ⟨mem, lives⟩ := List.mem_filter.1 hk
      exact first rfl k mem lives (by simpa using same)
    obtain ⟨k, hk⟩ := found s.pending hl
    exact ⟨k, by rw [none, hk]; rfl⟩

/-- **After a renewal no lease of the old session is live,** and every one that is left was set at
that time. -/
theorem renew_dormant (named : s.Named) (apart : s.Apart) (distinct : s.ids.Distinct)
    (found : s.get now id = (.ok (some n), t)) (done : (t.renew now n).result = .ok m) :
    ∀ l ∈ (t.renew now n).store.leases, l.serial = n →
      l.isLive now = false ∧ ∃ name, now.add (s.pool name).ttl = .ok l.expires := by
  have evolves : s.Evolves now t := by
    have h := get_evolves s now id
    rwa [found] at h
  have sessions : t.sessions = s.sessions := by
    have h := sessions_get s now id
    rwa [found] at h
  have issuedId := named.of_find? (find?_of_get (congrArg Prod.fst found))
  obtain ⟨name, expires, time, own, first⟩ := leases_of_get named apart found
  have old : n < t.sessions.length := by
    rw [sessions, ← length_issuedIds]
    exact (List.getElem?_eq_some_iff.1 issuedId).1
  have idOf : t.idOf n = id := idOf_of_issued (by rwa [issuedIds, sessions])
  -- The store is the one after issuing the new session, without the old id.
  obtain ⟨i, rfl, issue, store⟩ := renew_eq_ok done
  rw [idOf] at store
  have back := leases_of_issue issue
  rw [store]
  generalize (t.issue now .authenticated ((t.session? n).getD { id := "" })).store = i at back ⊢
  intro l hl serial
  obtain ⟨b, hl⟩ := exists_pool_of_mem_leases hl
  obtain ⟨kept, gone⟩ := leases_of_invalidate hl
  obtain ⟨new, -⟩ | before := back b l kept
  · exact absurd (serial.symm.trans new) old.ne
  · obtain ⟨rfl, rfl, rfl⟩ := own b l before serial
    refine ⟨?_, b, time⟩
    -- A live lease of the old session would have been the one that was invalidated.
    by_contra lives
    rw [Bool.not_eq_false] at lives
    have taken : l.id ∈ t.liveIds now := by
      have mem : l ∈ (t.pool b).live now := List.mem_filter.2 ⟨before, lives⟩
      cases b with
      | authenticated => exact List.mem_append_left _ (List.mem_map_of_mem mem)
      | pending => exact List.mem_append_right _ (List.mem_map_of_mem mem)
    have fresh : (t.ids.drawFree (t.liveIds now)).1 ≠ l.id := by
      have free : t.ids.Distinct := by
        rw [Supply.Distinct, evolves.series]
        exact distinct
      exact fun same => Supply.drawFree_not_mem free (same ▸ taken)
    obtain ⟨j, holder⟩ := holder?_of_mem kept lives fun pending c hc hlives same => by
      obtain ⟨-, hid, -⟩ | hc := back .authenticated c hc
      · exact fresh (hid.symm.trans same)
      · exact first pending c hc hlives same
    exact gone j holder rfl

end SessionStore
end LoginGate
