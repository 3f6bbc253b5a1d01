/-
# Which sessions the pools keep

A lease after an event goes back to a lease of the same pool, or the event issued its session: a
challenge into the one pool, a callback into the other.  From that it is told what the pools keep
after any run.

| of every live lease | clock |
| --- | --- |
| it is kept under the id of its session | any |
| its pool has room for it | any |
| where it is pending, its session holds nothing of a login | any |
| its id was drawn from the supply, and was live in neither pool then | any |
| its id is not live in the other pool | never set back |
-/

import LoginGate.Proofs.Lineage
import LoginGate.Proofs.Turnover

namespace LoginGate

/-- A lease goes back to one of a pool: the same one, or one that was live and was set again. -/
def Pool.Continues (now : Instant) (p : Pool) (l : Lease) : Prop :=
  ∃ k ∈ p.leases, k.id = l.id ∧ k.serial = l.serial ∧
    (k.expires = l.expires ∨ k.isLive now = true)

namespace SessionStore

/-- The store issues a session under an id: the next session, under the next id that the supply
gives and that is live in neither pool. -/
structure Draws (s : SessionStore) (now : Instant) (n : Serial) (id : String) : Prop where
  serial : n = s.sessions.length
  drawn : id = (s.ids.drawFree (s.liveIds now)).1
  free : id ∉ s.liveIds now

/-- No id is live in both pools. -/
def Unshared (s : SessionStore) (now : Instant) : Prop :=
  ∀ l ∈ s.pending.live now, ∀ k ∈ s.authenticated.live now, l.id ≠ k.id

variable {s t : SessionStore} {now : Instant} {id : String} {n : Serial} {name : PoolName}
  {l k : Lease} {p : Pool}

/-- A lease of a pool goes back to itself. -/
theorem continues_self (hl : l ∈ p.leases) : p.Continues now l :=
  ⟨l, hl, rfl, rfl, .inl rfl⟩

/-- A live lease that goes back to a pool goes back to a live one. -/
theorem live_of_continues (h : p.Continues now l) (live : l.isLive now = true) :
    ∃ k ∈ p.live now, k.id = l.id := by
  obtain ⟨k, hk, hid, -, same | lives⟩ := h
  · exact ⟨k, List.mem_filter.2 ⟨hk, by rw [Lease.isLive, same]; exact live⟩, hid⟩
  · exact ⟨k, List.mem_filter.2 ⟨hk, lives⟩, hid⟩

/-- The id of a live lease is live, whichever pool it is in. -/
theorem mem_liveIds (hl : l ∈ (s.pool name).live now) : l.id ∈ s.liveIds now := by
  cases name with
  | authenticated => exact List.mem_append_left _ (List.mem_map_of_mem hl)
  | pending => exact List.mem_append_right _ (List.mem_map_of_mem hl)

/-! ## Leases after an operation -/

/-- Every lease after looking for a session goes back to one of its pool. -/
theorem get_continues (s : SessionStore) (now : Instant) (id : String) (b : PoolName) :
    ∀ l ∈ ((s.get now id).2.pool b).leases, (s.pool b).Continues now l := by
  have gets := s.get_gets now id
  generalize (s.get now id).1 = r at gets
  generalize (s.get now id).2 = t at gets ⊢
  intro l hl
  cases gets with
  | absent => exact continues_self hl
  | @unset name =>
    by_cases own : b = name
    · subst own
      rw [pool_withPool_self] at hl
      obtain ⟨k, hk, rfl⟩ := List.mem_map.1 hl
      refine ⟨k, hk, ?_⟩
      split <;> exact ⟨rfl, rfl, .inl rfl⟩
    · rw [pool_withPool_of_ne own] at hl
      exact continues_self hl
  | @set name k q holder set =>
    obtain ⟨mem, live, hid⟩ := mem_leases_of_holder? holder
    by_cases own : b = name
    · subst own
      obtain ⟨expires, -, -, -, leases⟩ := Pool.set_eq_ok set
      rw [pool_withPool_self, leases] at hl
      obtain kept | new := List.mem_append.1 hl
      · exact continues_self ((Pool.expire_sublist now _).subset (List.mem_filter.1 kept).1)
      · obtain rfl := List.mem_singleton.1 new
        exact ⟨k, mem, hid, rfl, .inr live⟩
    · rw [pool_withPool_of_ne own] at hl
      exact continues_self hl

/-- A lease after a session was issued was there before, or is that of the session. -/
theorem Issuing.leases {i : Issue} (h : Issuing s now name i) (distinct : s.ids.Distinct)
    (b : PoolName) :
    ∀ l ∈ (i.store.pool b).leases, l ∈ (s.pool b).leases ∨
      b = name ∧ i.result = .ok l.serial ∧ s.Draws now l.serial l.id := by
  intro l hl
  obtain ⟨here, result, serial, drawn⟩ | old := h.back hl
  · exact .inr ⟨here, result, serial, drawn, drawn ▸ Supply.drawFree_not_mem distinct⟩
  · exact .inl old

/-- A lease after a session was renewed was there before, or is that of the new session. -/
theorem renew_leases (distinct : s.ids.Distinct) (now : Instant) (n : Serial) (b : PoolName) :
    ∀ l ∈ ((s.renew now n).store.pool b).leases, l ∈ (s.pool b).leases ∨
      b = .authenticated ∧ (s.renew now n).result = .ok l.serial ∧
        s.Draws now l.serial l.id := by
  have renews := s.renew_renews now n
  generalize (s.renew now n).result = r at renews ⊢
  generalize (s.renew now n).store = t at renews ⊢
  intro l hl
  cases renews with
  | @renewed i issuing result =>
    have issued : l ∈ (i.store.pool b).leases := by
      obtain same | removed := pool_invalidate i.store now (s.idOf n) b
      · rwa [same] at hl
      · rw [removed] at hl
        exact (List.mem_filter.1 hl).1
    rw [← result]
    exact issuing.leases distinct b l issued
  | refused same => exact .inl (same b ▸ hl)

/-! ## Ids in both pools -/

/-- Where all live leases go back to live ones, no id comes into both pools. -/
theorem Unshared.of_continues (h : s.Unshared now)
    (back : ∀ b, ∀ l ∈ (t.pool b).leases, (s.pool b).Continues now l) : t.Unshared now := by
  intro l hl k hk
  obtain ⟨memL, liveL⟩ := List.mem_filter.1 hl
  obtain ⟨memK, liveK⟩ := List.mem_filter.1 hk
  obtain ⟨i, hi, sameL⟩ := live_of_continues (back .pending l memL) liveL
  obtain ⟨j, hj, sameK⟩ := live_of_continues (back .authenticated k memK) liveK
  rw [← sameL, ← sameK]
  exact h i hi j hj

/-- A session that is issued shares its id with none in the other pool. -/
theorem Unshared.of_issued (h : s.Unshared now) (name : PoolName)
    (back : ∀ b, ∀ l ∈ (t.pool b).leases,
      l ∈ (s.pool b).leases ∨ b = name ∧ s.Draws now l.serial l.id) : t.Unshared now := by
  intro l hl k hk
  obtain ⟨memL, liveL⟩ := List.mem_filter.1 hl
  obtain ⟨memK, liveK⟩ := List.mem_filter.1 hk
  obtain oldL | ⟨here, new⟩ := back .pending l memL
  · have oldL : l ∈ (s.pool .pending).live now := List.mem_filter.2 ⟨oldL, liveL⟩
    obtain oldK | ⟨-, new⟩ := back .authenticated k memK
    · exact h l oldL k (List.mem_filter.2 ⟨oldK, liveK⟩)
    · exact fun same => new.free (same ▸ mem_liveIds oldL)
  · obtain oldK | ⟨there, -⟩ := back .authenticated k memK
    · have oldK : k ∈ (s.pool .authenticated).live now := List.mem_filter.2 ⟨oldK, liveK⟩
      exact fun same => new.free (same ▸ mem_liveIds oldK)
    · exact absurd (here.trans there.symm) nofun

/-- Looking for a session shares no id: leases are set again in their own pool. -/
theorem Unshared.get (h : s.Unshared now) (id : String) : (s.get now id).2.Unshared now :=
  h.of_continues (get_continues s now id)

/-- A new session shares no id: the one that it draws is live nowhere. -/
theorem Unshared.create (h : s.Unshared now) (distinct : s.ids.Distinct) :
    (s.create now).store.Unshared now := by
  refine h.of_issued .pending fun b l hl => ?_
  obtain old | ⟨here, -, draws⟩ := (s.create_issuing now).leases distinct b l hl
  · exact .inl old
  · exact .inr ⟨here, draws⟩

/-- A renewal shares no id: the one that it draws is live nowhere. -/
theorem Unshared.renew (h : s.Unshared now) (distinct : s.ids.Distinct) (n : Serial) :
    (s.renew now n).store.Unshared now := by
  refine h.of_issued .authenticated fun b l hl => ?_
  obtain old | ⟨here, -, draws⟩ := renew_leases distinct now n b l hl
  · exact .inl old
  · exact .inr ⟨here, draws⟩

/-! ## Ids to come -/

/-- The series of the ids to come is the same after operations, so it still never repeats. -/
theorem Evolves.distinct (e : s.Evolves now t) (h : s.ids.Distinct) : t.ids.Distinct := by
  rw [Supply.Distinct, e.series]
  exact h

/-- Looking for a session draws no id. -/
theorem ids_get (s : SessionStore) (now : Instant) (id : String) :
    (s.get now id).2.ids = s.ids := by
  have gets := s.get_gets now id
  generalize (s.get now id).1 = r at gets
  generalize (s.get now id).2 = t at gets ⊢
  cases gets with
  | absent => rfl
  | unset => exact ids_withPool ..
  | set => exact ids_withPool ..

/-- Issuing a session draws one id, the next one that is free. -/
theorem ids_issue (s : SessionStore) (now : Instant) (name : PoolName) (a : Session) :
    (s.issue now name a).store.ids = (s.ids.drawFree (s.liveIds now)).2 := by
  unfold issue
  dsimp only
  split
  · rfl
  · rename_i set
    obtain ⟨-, p, -, -, rfl, -⟩ := set_eq_ok set
    exact ids_withPool ..

/-- Creating a session draws one id. -/
theorem ids_create (s : SessionStore) (now : Instant) :
    (s.create now).store.ids = (s.ids.drawFree (s.liveIds now)).2 := by
  have issued := s.ids_issue now .pending { id := "" }
  unfold create
  dsimp only
  split <;> exact issued

/-- Renewing a session draws one id; invalidating the old one draws none. -/
theorem ids_renew (s : SessionStore) (now : Instant) (n : Serial) :
    (s.renew now n).store.ids = (s.ids.drawFree (s.liveIds now)).2 := by
  have issued := s.ids_issue now .authenticated ((s.session? n).getD { id := "" })
  unfold renew
  dsimp only
  split
  · exact issued
  · unfold invalidate
    split
    · exact issued
    · exact (ids_withPool ..).trans issued

end SessionStore

/-! ## Sessions that hold nothing of a login -/

/-- A session holds nothing of a login. -/
structure Session.Anonymous (s : Session) : Prop where
  authenticated : s.authenticated = none
  claims : s.claims = none
  response : s.response = none

namespace Session

variable {s after : Session}

/-- An empty session holds nothing of a login. -/
theorem anonymous_empty (id : String) : Anonymous { id } :=
  ⟨rfl, rfl, rfl⟩

/-- A session that lost its login holds nothing of it. -/
theorem anonymous_forget (s : Session) : s.forget.Anonymous :=
  ⟨rfl, rfl, rfl⟩

/-- A request that is saved is nothing of a login. -/
theorem Anonymous.save {always : Bool} {q : Request} (h : s.Anonymous)
    (save : SavedRequest.save always q s = .ok after) : after.Anonymous := by
  obtain ⟨-, method, -, rfl⟩ | ⟨-, rfl⟩ := SavedRequest.save_cases save
  · exact ⟨h.authenticated, h.claims, h.response⟩
  · exact h

/-- A token is nothing of a login. -/
theorem Anonymous.ensure (h : s.Anonymous) (tokens : Supply) :
    (Csrf.ensure tokens s).session.Anonymous := by
  unfold Csrf.ensure
  split
  · exact h
  · exact ⟨h.authenticated, h.claims, h.response⟩

end Session

namespace Gate

variable {g : Gate} {w : World} {c : Event} {es : List Event} {n : Serial} {id : String}
  {name : PoolName} {l : Lease} {s : Session} {ttl : Seconds} {capacity : Int} {ids : Supply}

/-- A session without a login stays so, unless a callback issues it. -/
theorem Leaves.anonymous {e : Errand} {q : Request} {channel : Channel}
    {r : Except Fault (Option Outcome)} (h : Leaves g w e q channel r n s)
    (before : ∀ a, w.store.session? n = some a → a.Anonymous)
    (other : n = w.store.sessions.length → isCallback q.uri = false) : s.Anonymous := by
  cases h with
  | kept old => exact before s old
  | forgotten => exact Session.anonymous_forget _
  | restored old login =>
    rw [(before _ old).authenticated] at login
    cases login
  | @challenged a b after challenging old unheld save =>
    obtain ⟨rfl, -⟩ | rfl := unheld
    · exact ((before _ old).save save).ensure _
    · exact ((Session.anonymous_forget a).save save).ensure _
  | begun _ _ source =>
    -- The address alone was written, which is nothing of a login.
    obtain ⟨a, old, ⟨rfl, -⟩ | rfl⟩ | ⟨-, id, rfl⟩ := source
    · have kept := before _ old
      exact ⟨kept.authenticated, kept.claims, kept.response⟩
    · exact ⟨rfl, rfl, rfl⟩
    · exact ⟨rfl, rfl, rfl⟩
  | blank => exact Session.anonymous_empty _
  | opened _ _ save => exact ((Session.anonymous_empty _).save save).ensure _
  | renewed signsIn _ new => exact absurd (signsIn.callback.symm.trans (other new)) nofun

/-! ## Events -/

/-- An event issues the session `n` under an id into a pool: a challenge starts it, or a callback
renews its own session into it. -/
inductive Issues (g : Gate) (w : World) (c : Event) : PoolName → Serial → String → Prop
  | created {mandatory : Bool} {q : Submission} {channel : Channel} {n : Serial} {id : String}
      (call : c = .call (.validate mandatory) q channel) (other : isCallback q.uri = false)
      (nobody : w.live? q = none) (result : (w.store.create w.now).result = .ok n)
      (draws : w.store.Draws w.now n id) : Issues g w c .pending n id
  | renewed {x : SignIn} {id : String} (signsIn : SignsIn g w c x)
      (draws : (w.store.get w.now x.oldId).2.Draws w.now x.next id) :
      Issues g w c .authenticated x.next id

/-- **A lease after an event** goes back to one of its pool, or the event issued its session. -/
theorem leases_after (distinct : w.store.ids.Distinct) (c : Event) (b : PoolName) :
    ∀ l ∈ ((g.after w c).store.pool b).leases,
      (w.store.pool b).Continues w.now l ∨ Issues g w c b l.serial l.id := by
  obtain ⟨s, handles, same⟩ := handlesTo_after g w c
  rw [same.pool b]
  have sought : ∀ id, (w.store.get w.now id).2.ids.Distinct := fun id =>
    (SessionStore.get_evolves ..).distinct distinct
  intro l hl
  cases handles with
  | kept => exact .inl (SessionStore.continues_self hl)
  | sought => exact .inl (SessionStore.get_continues _ _ _ b l hl)
  | created call other nobody =>
    obtain old | ⟨rfl, result, draws⟩ :=
      (w.store.create_issuing w.now).leases distinct b l hl
    · exact .inl (SessionStore.continues_self old)
    · exact .inr (.created call other nobody result draws)
  | refused _ _ refused =>
    obtain old | ⟨-, result, -⟩ := SessionStore.renew_leases (sought _) _ _ b l hl
    · exact .inl (SessionStore.get_continues _ _ _ b l old)
    · exact absurd (refused.symm.trans result) nofun
  | @renewed x signsIn =>
    obtain old | ⟨rfl, result, draws⟩ := SessionStore.renew_leases (sought _) _ _ b l hl
    · exact .inl (SessionStore.get_continues _ _ _ b l old)
    · obtain ⟨_, _, _, _, here⟩ := signsIn.call
      have next : x.next = l.serial := Except.ok.inj (here.renewal.symm.trans result)
      rw [← next] at draws ⊢
      exact .inr (.renewed signsIn draws)

/-- Where the clock is not set back, no event brings an id into both pools. -/
theorem unshared_after (distinct : w.store.ids.Distinct) (steady : Steady w.now (c :: es))
    (h : w.store.Unshared w.now) : (g.after w c).store.Unshared (g.after w c).now := by
  obtain ⟨s, handles, same⟩ := handlesTo_after g w c
  have sought : ∀ id, (w.store.get w.now id).2.ids.Distinct := fun id =>
    (SessionStore.get_evolves ..).distinct distinct
  have handled : s.Unshared w.now := by
    cases handles with
    | kept => exact h
    | sought => exact h.get _
    | created => exact h.create distinct
    | refused => exact (h.get _).renew (sought _) _
    | renewed => exact (h.get _).renew (sought _) _
  have left : (g.after w c).store.Unshared w.now := by
    have pending : (g.after w c).store.pending = s.pending := same.pool .pending
    have authenticated : (g.after w c).store.authenticated = s.authenticated :=
      same.pool .authenticated
    rw [SessionStore.Unshared, pending, authenticated]
    exact handled
  cases c with
  | call e q channel =>
    rw [now_after_call]
    exact left
  | tick later =>
    -- What is live later is live now.
    have earlier : ∀ p : Pool, ∀ l ∈ p.live later, l ∈ p.live w.now := by
      intro p l hl
      obtain ⟨mem, live⟩ := List.mem_filter.1 hl
      exact List.mem_filter.2 ⟨mem, Seconds.isBefore_of_atMost steady.1 live⟩
    exact fun l hl k hk => left l (earlier _ l hl) k (earlier _ k hk)
  | wall => exact left
  | add => exact left
  | revoke => exact left

/-- Where the pending sessions hold nothing of a login, they do so after any event. -/
theorem anonymous_after (named : w.store.Named) (distinct : w.store.ids.Distinct)
    (h : ∀ l ∈ w.store.pending.leases, ∀ s, w.store.session? l.serial = some s → s.Anonymous) :
    ∀ l ∈ (g.after w c).store.pending.leases,
      ∀ s, (g.after w c).store.session? l.serial = some s → s.Anonymous := by
  intro l hl s hs
  have back := leases_after distinct c .pending l hl
  have before : ∀ a, w.store.session? l.serial = some a → a.Anonymous := by
    intro a ha
    obtain ⟨k, hk, -, serial, -⟩ | issues := back
    · exact h k hk a (serial ▸ ha)
    · cases issues with
      | created _ _ _ _ draws =>
        rw [draws.serial] at ha
        exact absurd (SessionStore.lt_of_session? ha) (Nat.lt_irrefl _)
  cases c with
  | call e q channel =>
    refine (visit_leaves hs).anonymous before fun new => ?_
    obtain ⟨k, hk, -, serial, -⟩ | issues := back
    · have old := SessionStore.lt_of_named named (SessionStore.mem_leases_of_mem_pool hk)
      exact absurd (serial.trans new) old.ne
    · cases issues with
      | created call other =>
        cases call
        exact other
  | tick => exact before s hs
  | wall => exact before s hs
  | add => exact before s hs
  | revoke => exact before s hs

/-- An id that is given after an event was to be given before it. -/
theorem gives_after (h : (g.after w c).store.ids.Gives id) : w.store.ids.Gives id := by
  obtain ⟨s, handles, same⟩ := handlesTo_after g w c
  rw [same.ids] at h
  cases handles with
  | kept => exact h
  | sought =>
    rwa [SessionStore.ids_get] at h
  | created =>
    rw [SessionStore.ids_create] at h
    exact h.of_drawFree
  | refused =>
    rw [SessionStore.ids_renew, SessionStore.ids_get] at h
    exact h.of_drawFree
  | renewed =>
    rw [SessionStore.ids_renew, SessionStore.ids_get] at h
    exact h.of_drawFree

/-- A session is issued under an id that was to be given. -/
theorem Issues.gives (h : Issues g w c name n id) : w.store.ids.Gives id := by
  cases h with
  | created _ _ _ _ draws =>
    rw [draws.drawn]
    exact Supply.gives_drawFree ..
  | renewed _ draws =>
    rw [draws.drawn, ← SessionStore.ids_get w.store w.now]
    exact Supply.gives_drawFree ..

/-! ## Runs -/

/-- **Pools stay tidy in every run.** -/
theorem tidy_run (h : w.store.Tidy) (es : List Event) : (g.run w es).store.Tidy :=
  run_of_after (P := fun u => u.store.Tidy)
    (fun u c h => pools_after (Pool.tidy_stable u.now) h c) h es

/-- An id that is given after a run was to be given before it. -/
theorem gives_run (h : (g.run w es).store.ids.Gives id) : w.store.ids.Gives id := by
  induction es generalizing w with
  | nil => exact h
  | cons c es ih => exact gives_after (ih h)

/-- **No id is live in both pools,** as long as the clock is not set back. -/
theorem unshared_run (orderly : w.Orderly ttl) (steady : Steady w.now es)
    (h : w.store.Unshared w.now) : (g.run w es).store.Unshared (g.run w es).now := by
  induction es generalizing w with
  | nil => exact h
  | cons c es ih =>
    exact ih (orderly_after orderly c) (steady_after steady)
      (unshared_after orderly.distinct steady h)

/-- Where the pending sessions hold nothing of a login, they do so after any run. -/
theorem anonymous_run (orderly : w.Orderly ttl)
    (h : ∀ l ∈ w.store.pending.leases, ∀ s, w.store.session? l.serial = some s → s.Anonymous)
    (es : List Event) :
    ∀ l ∈ (g.run w es).store.pending.leases,
      ∀ s, (g.run w es).store.session? l.serial = some s → s.Anonymous := by
  induction es generalizing w with
  | nil => exact h
  | cons c es ih =>
    exact ih (orderly_after orderly c) (anonymous_after orderly.named orderly.distinct h)

/-- After any run from an empty store no pending session holds anything of a login. -/
theorem anonymous_of_make (made : SessionStore.make ttl capacity ids = .ok w.store)
    (distinct : ids.Distinct) (es : List Event) :
    ∀ l ∈ (g.run w es).store.pending.leases, ∀ s,
      (g.run w es).store.session? l.serial = some s → s.Anonymous := by
  have pending : w.store.pending.leases = [] :=
    congrArg Pool.leases (SessionStore.pool_of_make made .pending).1
  refine anonymous_run (orderly_of_make made distinct) ?_ es
  rw [pending]
  nofun

/-- **Every lease after a run** from a store without leases is of a session that an event of the run
issued. -/
theorem issues_of_mem_leases (orderly : w.Orderly ttl) (empty : w.store.leases = [])
    (es : List Event) (b : PoolName) :
    ∀ l ∈ ((g.run w es).store.pool b).leases, ∃ pre c post, es = pre ++ c :: post ∧
      Issues g (g.run w pre) c b l.serial l.id := by
  induction es using List.reverseRecOn with
  | nil =>
    intro l hl
    have none := SessionStore.mem_leases_of_mem_pool hl
    rw [run_nil, empty] at none
    cases none
  | append_singleton es c ih =>
    intro l hl
    rw [run_concat] at hl
    obtain ⟨k, hk, hid, serial, -⟩ | issues :=
      leases_after (orderly_run orderly es).distinct c b l hl
    · obtain ⟨pre, d, post, rfl, issues⟩ := ih k hk
      rw [hid, serial] at issues
      exact ⟨pre, d, post ++ [c], by simp, issues⟩
    · exact ⟨es, c, [], rfl, issues⟩

/-- What the pools keep after a run: of every live lease, and of every id that is live. -/
structure Custody (g : Gate) (w : World) (capacity : Int) (es : List Event) : Prop where
  /-- A session is kept under its own id. -/
  keyed : ∀ b, ∀ l ∈ ((g.run w es).store.pool b).live (g.run w es).now,
    ∃ s, (g.run w es).store.session? l.serial = some s ∧ s.id = l.id
  /-- No id is live in both pools. -/
  apart : ∀ id, id ∈ (g.run w es).store.pending.liveIds (g.run w es).now →
    id ∉ (g.run w es).store.authenticated.liveIds (g.run w es).now
  room : ∀ b, (((g.run w es).store.pool b).live (g.run w es).now).length ≤ capacity
  anonymous : ∀ l ∈ (g.run w es).store.pending.live (g.run w es).now,
    ∀ s, (g.run w es).store.session? l.serial = some s →
      s.authenticated = none ∧ s.claims = none ∧ s.response = none
  /-- An id that is live was drawn from the supply when its session was issued. -/
  drawn : ∀ b, ∀ l ∈ ((g.run w es).store.pool b).live (g.run w es).now,
    w.store.ids.Gives l.id ∧
      ∃ pre c post, es = pre ++ c :: post ∧ Issues g (g.run w pre) c b l.serial l.id

/-- **What the pools keep,** after any run from an empty store in which the clock is never set
back. -/
theorem custody_of_steady (made : SessionStore.make ttl capacity ids = .ok w.store)
    (distinct : ids.Distinct) (steady : Steady w.now es) : Custody g w capacity es := by
  have fresh : w.Fresh := ⟨ttl, capacity, ids, made⟩
  have orderly : w.Orderly ttl := orderly_of_make made distinct
  have empty : w.store.leases = [] := fresh.store_eq.2
  have pool := SessionStore.pool_of_make made
  have pending : w.store.pending.leases = [] := congrArg Pool.leases (pool .pending).1
  refine ⟨fun b l hl => ?_, ?_, fun b => ?_, fun l hl s hs => ?_, fun b l hl => ?_⟩
  · have named := (orderly_run (g := g) orderly es).named
    exact session?_of_issuedIds
      (named l (SessionStore.mem_leases_of_mem_pool (List.mem_filter.1 hl).1))
  · have unshared : (g.run w es).store.Unshared (g.run w es).now := by
      refine unshared_run orderly steady fun l hl => ?_
      rw [Pool.live, pending] at hl
      cases hl
    intro id here there
    obtain ⟨l, hl, rfl⟩ := List.mem_map.1 here
    obtain ⟨k, hk, same⟩ := List.mem_map.1 there
    exact unshared l hl k hk same.symm
  · have tidy : (g.run w es).store.Tidy := tidy_run (SessionStore.tidy_of_make made) es
    have room : ((g.run w es).store.pool b).capacity = capacity.toNat := by
      rw [(pools_run w es b).1, (pool b).1]
    rw [← Int.toNat_of_nonneg (pool b).2.1, ← room]
    exact Int.ofNat_le.2 ((List.length_filter_le _ _).trans (tidy b).room)
  · have anonymous := anonymous_of_make made distinct es l (List.mem_filter.1 hl).1 s hs
    exact ⟨anonymous.authenticated, anonymous.claims, anonymous.response⟩
  · obtain ⟨pre, c, post, split, issues⟩ :=
      issues_of_mem_leases orderly empty es b l (List.mem_filter.1 hl).1
    exact ⟨gives_run issues.gives, pre, c, post, split, issues⟩

/-- After a login in a small world, and a visitor five seconds later, each pool has a live
session. -/
theorem custody_of_smallVisits :
    let g := smallGate true
    let w := smallWorld none
    let ids : Supply := { given := ["first", "second"] }
    let es := smallLogin ++
      [.tick (.whole 5), .call (.validate true) (smallRequest "/page" "" none) .fresh]
    SessionStore.make (.whole 60) 4 ids = .ok w.store ∧ ids.Distinct ∧ Steady w.now es ∧
      (g.run w es).store.authenticated.liveIds (g.run w es).now = ["second"] ∧
      (g.run w es).store.pending.liveIds (g.run w es).now = ["1"] ∧ Custody g w 4 es := by
  intro g w ids es
  have made : SessionStore.make (.whole 60) 4 ids = .ok w.store := rfl
  have distinct : ids.Distinct := Series.name_injective _ (by decide) le_rfl
  have steady : Steady w.now es := ⟨by decide, trivial⟩
  exact ⟨made, distinct, steady, by decide +kernel, by decide +kernel,
    custody_of_steady made distinct steady⟩

end Gate
end LoginGate
