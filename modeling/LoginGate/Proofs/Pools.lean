/-
# What the operations do to the pools

A pool keeps one lease to an id and never more than it has room for.  Setting a lease lets go of
what expired at the front, of the lease that the id had, and of one lease more at most: the one used
least recently, where the pool is full and has no lease of the id.

| operation | a live lease of another id stays |
| --- | --- |
| `set` | unless it is the one that makes room |
| `use`, `remove` | always |

An operation of the store is one of these on one pool; `Gets`, `Issuing` and `Renews` say which.
-/

import LoginGate.Proofs.Renewal
import Mathlib.Data.List.MinMax
import Mathlib.Data.List.TakeWhile

namespace LoginGate

/-- A pool has one lease to an id at most, and no more leases than it has room for. -/
structure Pool.Tidy (p : Pool) : Prop where
  nodup : (p.leases.map Lease.id).Nodup
  room : p.leases.length ≤ p.capacity

namespace Pool

variable {p q : Pool} {now : Instant} {id : String} {n : Serial} {l k : Lease}

/-- A lease that has not expired is not dropped with the expired ones at the front. -/
theorem mem_expire (hl : l ∈ p.leases) (live : l.isLive now = true) :
    l ∈ (p.expire now).leases := by
  rw [← List.takeWhile_append_dropWhile (p := fun l : Lease => !l.isLive now) (l := p.leases),
    List.mem_append] at hl
  obtain dropped | kept := hl
  · have expired := List.mem_takeWhile_imp dropped
    simp [live] at expired
  · exact kept

/-- A pool without its expired leases has as much room as before. -/
@[simp] theorem capacity_expire (now : Instant) (p : Pool) :
    (p.expire now).capacity = p.capacity :=
  rfl

/-- Nothing but a prefix of the leases is dropped. -/
theorem expire_sublist (now : Instant) (p : Pool) : (p.expire now).leases.Sublist p.leases :=
  List.dropWhile_sublist _

/-- A lease of a pool with leases was used least recently. -/
theorem exists_stalest (filled : p.leases ≠ []) : ∃ l, p.stalest? = some l := by
  cases least : p.leases.argmin Lease.used with
  | none => exact absurd (List.argmin_eq_none.1 least) filled
  | some l =>
    refine Option.isSome_iff_exists.1 (List.find?_isSome.2 ⟨l, List.argmin_mem least, ?_⟩)
    rw [List.all_eq_true]
    exact fun m hm => decide_eq_true (List.le_of_mem_argmin hm least)

/-- No lease makes room for one of an id that is live. -/
theorem evicted_eq_none (hl : l ∈ p.leases) (live : l.isLive now = true) :
    p.evicted now l.id = none := by
  have held : (p.expire now).holds l.id = true :=
    List.any_eq_true.2 ⟨l, mem_expire hl live, beq_self_eq_true _⟩
  unfold evicted
  simp only [held, Bool.true_or, if_true]

/-- **The lease that makes room** was used least recently of those that a full pool holds. -/
theorem evicted_eq_some (h : p.evicted now id = some k) :
    k ∈ (p.expire now).leases ∧ (∀ m ∈ (p.expire now).leases, k.used ≤ m.used) ∧
      p.capacity ≤ (p.expire now).leases.length := by
  unfold evicted at h
  dsimp only at h
  split at h
  · cases h
  · rename_i full
    simp only [Bool.or_eq_true, decide_eq_true_eq, not_or, Nat.not_lt] at full
    unfold stalest? at h
    have least := List.find?_some h
    refine ⟨List.mem_of_find?_eq_some h, fun m hm => ?_, full.2⟩
    exact of_decide_eq_true (List.all_eq_true.1 least m hm)

/-- The pool after a lease was set: what is kept of the leases, and the new one. -/
theorem set_eq_ok (h : p.set now id n = .ok q) :
    ∃ expires, now.add p.ttl = .ok expires ∧ p.capacity ≠ 0 ∧
      (q.capacity = p.capacity ∧ q.ttl = p.ttl) ∧
      q.leases = ((p.expire now).leases.filter fun l =>
        l.id ≠ id ∧ some l.id ≠ (p.evicted now id).map Lease.id) ++ [⟨id, n, expires, p.uses⟩] := by
  unfold set at h
  cases time : now.add p.ttl with
  | error fault => simp [time] at h
  | ok expires =>
    by_cases none : p.capacity = 0
    · simp [time, none] at h
    · simp only [time, none, if_false, Except.ok.injEq] at h
      subst h
      exact ⟨expires, rfl, none, ⟨rfl, rfl⟩, rfl⟩

/-- **A live lease stays when another one is set,** unless it makes room for it. -/
theorem mem_set (h : p.set now id n = .ok q) (hl : l ∈ p.leases) (live : l.isLive now = true)
    (other : l.id ≠ id) : l ∈ q.leases ∨ (p.evicted now id).map Lease.id = some l.id := by
  obtain ⟨expires, -, -, -, leases⟩ := set_eq_ok h
  by_cases gone : (p.evicted now id).map Lease.id = some l.id
  · exact .inr gone
  · refine .inl ?_
    rw [leases]
    refine List.mem_append_left _ (List.mem_filter.2 ⟨mem_expire hl live, ?_⟩)
    exact decide_eq_true ⟨other, Ne.symm gone⟩

/-- A use of one id leaves the leases of all others. -/
theorem mem_use (hl : l ∈ p.leases) (other : l.id ≠ id) : l ∈ (p.use id).leases :=
  List.mem_map.2 ⟨l, hl, if_neg other⟩

/-- Removing one id leaves the leases of all others. -/
theorem mem_remove (hl : l ∈ p.leases) (other : l.id ≠ id) : l ∈ (p.remove id).leases :=
  List.mem_filter.2 ⟨hl, decide_eq_true other⟩

/-! ## Tidy pools -/

/-- There is room for a lease beside those that are kept. -/
theorem length_kept_lt (room : p.leases.length ≤ p.capacity) (space : p.capacity ≠ 0) :
    ((p.expire now).leases.filter fun l =>
      l.id ≠ id ∧ some l.id ≠ (p.evicted now id).map Lease.id).length < p.capacity := by
  have most : (p.expire now).leases.length ≤ p.capacity :=
    (expire_sublist now p).length_le.trans room
  -- One of the leases goes, if all of them leave no room.
  by_cases free : (p.expire now).leases.length < p.capacity
  · exact (List.length_filter_le _ _).trans_lt free
  · refine lt_of_lt_of_le (List.length_filter_lt_length_iff_exists.2 ?_) most
    cases held : (p.expire now).holds id with
    | true =>
      obtain ⟨l, hl, same⟩ := List.any_eq_true.1 held
      exact ⟨l, hl, by simp [eq_of_beq same]⟩
    | false =>
      have filled : (p.expire now).leases ≠ [] := by
        intro none
        rw [none, List.length_nil] at free
        exact free (Nat.pos_of_ne_zero space)
      obtain ⟨k, stalest⟩ := exists_stalest filled
      have evicted : p.evicted now id = some k := by
        unfold evicted
        dsimp only
        rw [held, Bool.false_or, capacity_expire,
          if_neg fun less => free (of_decide_eq_true less), stalest]
      refine ⟨k, (evicted_eq_some evicted).1, ?_⟩
      simp [evicted]

/-- A pool stays tidy when a lease is set: the one that the id had is gone, and there is room. -/
theorem Tidy.set (h : p.Tidy) (set : p.set now id n = .ok q) : q.Tidy := by
  obtain ⟨expires, -, space, ⟨capacity, -⟩, leases⟩ := set_eq_ok set
  refine ⟨?_, ?_⟩
  · rw [leases, List.map_append, List.nodup_append]
    have kept : (((p.expire now).leases.filter fun l =>
        l.id ≠ id ∧ some l.id ≠ (p.evicted now id).map Lease.id).map Lease.id).Nodup :=
      ((List.filter_sublist.trans (expire_sublist now p)).map Lease.id).nodup h.nodup
    refine ⟨kept, by simp, ?_⟩
    intro i hi j hj same
    obtain ⟨l, hl, rfl⟩ := List.mem_map.1 hi
    obtain rfl : j = id := by simpa using hj
    exact (of_decide_eq_true (List.mem_filter.1 hl).2).1 same
  · rw [leases, capacity, List.length_append, List.length_singleton]
    exact length_kept_lt h.room space

/-- A use changes neither the ids nor the number of leases. -/
theorem Tidy.use (h : p.Tidy) (id : String) : (p.use id).Tidy := by
  have ids : (p.use id).leases.map Lease.id = p.leases.map Lease.id := by
    rw [Pool.use, List.map_map]
    refine List.map_congr_left fun l _ => ?_
    dsimp only [Function.comp]
    split <;> rfl
  refine ⟨ids ▸ h.nodup, ?_⟩
  rw [Pool.use, List.length_map]
  exact h.room

/-- A pool stays tidy when a lease goes. -/
theorem Tidy.remove (h : p.Tidy) (id : String) : (p.remove id).Tidy :=
  ⟨(List.filter_sublist.map Lease.id).nodup h.nodup, (List.length_filter_le _ _).trans h.room⟩

/-- A pool stays tidy when expired leases go. -/
theorem Tidy.expire (h : p.Tidy) (now : Instant) : (p.expire now).Tidy :=
  have kept := expire_sublist now p
  ⟨(kept.map Lease.id).nodup h.nodup, kept.length_le.trans h.room⟩

/-- What every operation on a pool at a time keeps. -/
structure Stable (P : Pool → Prop) (now : Instant) : Prop where
  set : ∀ {p q : Pool} {id : String} {n : Serial}, P p → p.set now id n = .ok q → P q
  use : ∀ {p : Pool} (id : String), P p → P (p.use id)
  remove : ∀ {p : Pool} (id : String), P p → P (p.remove id)

/-- Every operation on a tidy pool leaves it tidy. -/
theorem tidy_stable (now : Instant) : Stable Tidy now :=
  ⟨fun h set => h.set set, fun id h => h.use id, fun id h => h.remove id⟩

/-- In a tidy pool the id of a live lease finds it. -/
theorem Tidy.live? (h : p.Tidy) (hl : l ∈ p.leases) (live : l.isLive now = true) :
    p.live? now l.id = some l := by
  have mem : l ∈ p.live now := List.mem_filter.2 ⟨hl, live⟩
  unfold Pool.live?
  cases found : (p.live now).find? fun k => k.id == l.id with
  | none =>
    have missed := List.find?_eq_none.1 found l mem
    simp at missed
  | some k =>
    have same : k.id = l.id := by simpa using List.find?_some found
    have held : k ∈ p.leases := (List.mem_filter.1 (List.mem_of_find?_eq_some found)).1
    rw [List.inj_on_of_nodup_map h.nodup held hl same]

end Pool

namespace SessionStore

variable {s t : SessionStore} {now : Instant} {id : String} {n : Serial} {name : PoolName}
  {a : Session}

/-! ## The operations, pool by pool -/

/-- How looking for a session ends: there is none that is live, or its lease is set again, or it
cannot be set and was only used. -/
inductive Gets (s : SessionStore) (now : Instant) (id : String) :
    Except CapacityFault (Option Serial) → SessionStore → Prop
  | absent (h : s.holder? now id = none) : Gets s now id (.ok none) s
  | unset {name : PoolName} {l : Lease} {fault : CapacityFault}
      (h : s.holder? now id = some (name, l)) :
      Gets s now id (.error fault) (s.withPool name ((s.pool name).use id))
  | set {name : PoolName} {l : Lease} {q : Pool} (h : s.holder? now id = some (name, l))
      (set : (s.pool name).set now id l.serial = .ok q) :
      Gets s now id (.ok (some l.serial)) (s.withPool name q)

/-- Looking for a session, pool by pool. -/
theorem get_gets (s : SessionStore) (now : Instant) (id : String) :
    Gets s now id (s.get now id).1 (s.get now id).2 := by
  unfold get
  cases h : s.holder? now id with
  | none => exact .absent h
  | some found =>
    obtain ⟨name, l⟩ := found
    dsimp only
    unfold SessionStore.set
    dsimp only
    cases set : (s.pool name).set now id l.serial with
    | error fault => exact .unset h
    | ok q => exact .set h set

/-- How issuing a session ends: the pool takes its lease, under the id that is drawn, or all pools
are as they were. -/
inductive Issuing (s : SessionStore) (now : Instant) (name : PoolName) (i : Issue) : Prop
  | issued {q : Pool} (result : i.result = .ok s.sessions.length)
      (set : (s.pool name).set now (s.ids.drawFree (s.liveIds now)).1 s.sessions.length = .ok q)
      (own : i.store.pool name = q) (other : ∀ b, b ≠ name → i.store.pool b = s.pool b)
  | refused {fault : CapacityFault} (result : i.result = .error fault)
      (same : ∀ b, i.store.pool b = s.pool b)

/-- Issuing a session, pool by pool. -/
theorem issue_issuing (s : SessionStore) (now : Instant) (name : PoolName) (a : Session) :
    Issuing s now name (s.issue now name a) := by
  let started (b : Session) : SessionStore :=
    { s with ids := (s.ids.drawFree (s.liveIds now)).2, sessions := s.sessions ++ [b] }
  have pools : ∀ b c, (started b).pool c = s.pool c := fun b c => by cases c <;> rfl
  unfold issue SessionStore.set
  dsimp only
  rw [show SessionStore.pool _ name = s.pool name from pools _ name]
  cases set : (s.pool name).set now (s.ids.drawFree (s.liveIds now)).1 s.sessions.length with
  | error fault => exact .refused rfl (pools _)
  | ok q =>
    refine .issued rfl set (pool_withPool_self ..) fun b other => ?_
    exact (pool_withPool_of_ne other q).trans (pools _ b)

/-- Creating a session, pool by pool. -/
theorem create_issuing (s : SessionStore) (now : Instant) :
    Issuing s now .pending (s.create now) := by
  have h := s.issue_issuing now .pending { id := "" }
  unfold create
  dsimp only
  split
  · exact h
  · cases h with
    | issued result set own other => exact .issued (by simp_all) set own other
    | refused result => simp_all

/-- How renewing a session ends: it is issued, and its old id is gone after that, or all pools are
as they were. -/
inductive Renews (s : SessionStore) (now : Instant) (n : Serial) :
    Except CapacityFault Serial → SessionStore → Prop
  | renewed {i : Issue} (issuing : Issuing s now .authenticated i)
      (result : i.result = .ok s.sessions.length) :
      Renews s now n (.ok s.sessions.length) (i.store.invalidate now (s.idOf n)).1
  | refused {fault : CapacityFault} {t : SessionStore} (same : ∀ b, t.pool b = s.pool b) :
      Renews s now n (.error fault) t

/-- Renewing a session, pool by pool. -/
theorem renew_renews (s : SessionStore) (now : Instant) (n : Serial) :
    Renews s now n (s.renew now n).result (s.renew now n).store := by
  have issuing := s.issue_issuing now .authenticated ((s.session? n).getD { id := "" })
  have idOf : ((s.session? n).getD { id := "" }).id = s.idOf n := by
    unfold idOf
    cases s.session? n <;> rfl
  unfold renew
  dsimp only
  cases issuing with
  | issued result set own other =>
    rw [result, idOf]
    exact .renewed (.issued result set own other) result
  | refused result same =>
    rw [result]
    dsimp only
    rw [result]
    exact .refused same

/-- The pool without the lease of an id, or as it was. -/
theorem pool_invalidate (s : SessionStore) (now : Instant) (id : String) (name : PoolName) :
    (s.invalidate now id).1.pool name = s.pool name ∨
      (s.invalidate now id).1.pool name = (s.pool name).remove id := by
  unfold invalidate
  split
  · exact .inl rfl
  · rename_i b _ _
    by_cases own : name = b
    · subst own
      exact .inr (pool_withPool_self ..)
    · exact .inl (pool_withPool_of_ne own _)

/-! ## What the operations keep -/

variable {P : Pool → Prop}

/-- What holds of all pools and of the new one holds after one is replaced. -/
theorem withPool_of_stable (h : ∀ b, P (s.pool b)) {q : Pool} (new : P q) (b : PoolName) :
    P ((s.withPool name q).pool b) := by
  by_cases own : b = name
  · subst own
    rwa [pool_withPool_self]
  · rw [pool_withPool_of_ne own]
    exact h b

/-- What every operation on a pool keeps is kept by looking for a session. -/
theorem get_of_stable (stable : Pool.Stable P now) (h : ∀ b, P (s.pool b)) (id : String)
    (b : PoolName) : P ((s.get now id).2.pool b) := by
  have gets := s.get_gets now id
  generalize (s.get now id).1 = r at gets
  generalize (s.get now id).2 = t at gets ⊢
  cases gets with
  | absent => exact h b
  | unset => exact withPool_of_stable h (stable.use _ (h _)) b
  | set _ set => exact withPool_of_stable h (stable.set (h _) set) b

/-- What every operation on a pool keeps is kept by issuing a session. -/
theorem Issuing.of_stable {i : Issue} (issuing : Issuing s now name i) (stable : Pool.Stable P now)
    (h : ∀ b, P (s.pool b)) (b : PoolName) : P (i.store.pool b) := by
  cases issuing with
  | issued _ set own other =>
    by_cases here : b = name
    · subst here
      exact own ▸ stable.set (h b) set
    · exact other b here ▸ h b
  | refused _ same => exact same b ▸ h b

/-- What every operation on a pool keeps is kept by renewing a session. -/
theorem renew_of_stable (stable : Pool.Stable P now) (h : ∀ b, P (s.pool b)) (n : Serial)
    (b : PoolName) : P ((s.renew now n).store.pool b) := by
  have renews := s.renew_renews now n
  generalize (s.renew now n).result = r at renews
  generalize (s.renew now n).store = t at renews ⊢
  cases renews with
  | renewed issuing =>
    have issued := issuing.of_stable stable h b
    obtain same | removed := pool_invalidate _ now (s.idOf n) b
    · rwa [same]
    · rw [removed]
      exact stable.remove _ issued
  | refused same => exact same b ▸ h b

/-! ## Finding a lease -/

/-- Both pools are tidy. -/
def Tidy (s : SessionStore) : Prop :=
  ∀ name, (s.pool name).Tidy

/-- The pools of a store that was just set up are tidy, being empty. -/
theorem tidy_of_make {ttl : Seconds} {capacity : Int} {ids : Supply}
    (made : make ttl capacity ids = .ok s) : s.Tidy := by
  intro name
  rw [(pool_of_make made name).1]
  exact ⟨List.nodup_nil, Nat.zero_le _⟩

/-- In the same pools an id finds the same lease. -/
theorem holder?_congr (h : ∀ b, t.pool b = s.pool b) : t.holder? now id = s.holder? now id := by
  have authenticated : t.authenticated = s.authenticated := h .authenticated
  have pending : t.pending = s.pending := h .pending
  unfold holder?
  rw [authenticated, pending]

/-- **The lease that an id finds** is live, and where it is pending the other pool has no live lease
of the id. -/
theorem holder?_eq_some_iff (tidy : s.Tidy) {l : Lease} :
    s.holder? now id = some (name, l) ↔ l ∈ (s.pool name).leases ∧ l.isLive now = true ∧
      l.id = id ∧ (name = .pending → id ∉ s.authenticated.liveIds now) := by
  constructor
  · intro h
    obtain ⟨mem, live, hid⟩ := mem_leases_of_holder? h
    refine ⟨mem, live, hid, fun pending there => ?_⟩
    subst pending
    obtain ⟨k, hk, same⟩ := List.mem_map.1 there
    obtain ⟨held, lives⟩ := List.mem_filter.1 hk
    have found := (tidy .authenticated).live? held lives
    rw [same] at found
    unfold holder? at h
    rw [show s.authenticated.live? now id = some k from found] at h
    cases h
  · rintro ⟨mem, live, rfl, other⟩
    unfold holder?
    cases name with
    | authenticated =>
      rw [show s.authenticated.live? now l.id = some l from (tidy .authenticated).live? mem live]
    | pending =>
      have none : s.authenticated.live? now l.id = none := by
        refine List.find?_eq_none.2 fun k hk same => other rfl ?_
        exact List.mem_map.2 ⟨k, hk, eq_of_beq same⟩
      rw [none, show s.pending.live? now l.id = some l from (tidy .pending).live? mem live]
      rfl

/-! ## Leases that stay -/

/-- Looking for a session lets go of no live lease of another id. -/
theorem mem_get {l : Lease} (hl : l ∈ (s.pool name).leases) (live : l.isLive now = true)
    (other : l.id ≠ id) : l ∈ ((s.get now id).2.pool name).leases := by
  have gets := s.get_gets now id
  generalize (s.get now id).1 = r at gets
  generalize (s.get now id).2 = t at gets ⊢
  cases gets with
  | absent => exact hl
  | @unset b =>
    by_cases own : name = b
    · subst own
      rw [pool_withPool_self]
      exact Pool.mem_use hl other
    · rwa [pool_withPool_of_ne own]
  | @set b k q holder set =>
    by_cases own : name = b
    · subst own
      rw [pool_withPool_self]
      obtain ⟨mem, lives, rfl⟩ := mem_leases_of_holder? holder
      obtain stays | gone := Pool.mem_set set hl live other
      · exact stays
      · rw [Pool.evicted_eq_none mem lives] at gone
        cases gone
    · rwa [pool_withPool_of_ne own]

/-- A lease after a session was issued is that of the session, or was in its pool before. -/
theorem Issuing.back {i : Issue} (h : Issuing s now name i) {b : PoolName} {l : Lease}
    (hl : l ∈ (i.store.pool b).leases) :
    (b = name ∧ i.result = .ok l.serial ∧ l.serial = s.sessions.length ∧
      l.id = (s.ids.drawFree (s.liveIds now)).1) ∨ l ∈ (s.pool b).leases := by
  cases h with
  | issued result set own other =>
    by_cases here : b = name
    · subst here
      obtain ⟨expires, -, -, -, leases⟩ := Pool.set_eq_ok set
      rw [own, leases] at hl
      obtain kept | new := List.mem_append.1 hl
      · exact .inr ((Pool.expire_sublist now _).subset (List.mem_filter.1 kept).1)
      · obtain rfl := List.mem_singleton.1 new
        exact .inl ⟨rfl, result, rfl, rfl⟩
    · exact .inr (other b here ▸ hl)
  | refused _ same => exact .inr (same b ▸ hl)

/-- Issuing a session leaves the other pool. -/
theorem Issuing.pool_of_ne {i : Issue} (h : Issuing s now name i) {b : PoolName}
    (other : b ≠ name) : i.store.pool b = s.pool b := by
  cases h with
  | issued _ _ _ same => exact same b other
  | refused _ same => exact same b

/-- Issuing a session lets go of no live lease of another id, but for the one that makes room. -/
theorem Issuing.mem {i : Issue} (h : Issuing s now name i) {b : PoolName} {l : Lease}
    (hl : l ∈ (s.pool b).leases) (live : l.isLive now = true)
    (other : l.id ≠ (s.ids.drawFree (s.liveIds now)).1) :
    l ∈ (i.store.pool b).leases ∨ b = name ∧
      ((s.pool name).evicted now (s.ids.drawFree (s.liveIds now)).1).map Lease.id = some l.id := by
  by_cases own : b = name
  · subst own
    cases h with
    | issued _ set same =>
      obtain stays | gone := Pool.mem_set set hl live other
      · exact .inl (same ▸ stays)
      · exact .inr ⟨rfl, gone⟩
    | refused _ same => exact .inl (same b ▸ hl)
  · exact .inl (h.pool_of_ne own ▸ hl)

/-- Renewing a session lets go of no live lease of another id, but for the one that makes room. -/
theorem mem_renew {l : Lease} (hl : l ∈ (s.pool name).leases) (live : l.isLive now = true)
    (other : l.id ≠ (s.ids.drawFree (s.liveIds now)).1) (old : l.id ≠ s.idOf n) :
    l ∈ ((s.renew now n).store.pool name).leases ∨ name = .authenticated ∧
      (s.authenticated.evicted now (s.ids.drawFree (s.liveIds now)).1).map Lease.id =
        some l.id := by
  have renews := s.renew_renews now n
  generalize (s.renew now n).result = r at renews
  generalize (s.renew now n).store = t at renews ⊢
  cases renews with
  | @renewed i issuing =>
    obtain stays | gone := issuing.mem hl live other
    · refine .inl ?_
      obtain same | removed := pool_invalidate i.store now (s.idOf n) name
      · rwa [same]
      · rw [removed]
        exact Pool.mem_remove stays old
    · exact .inr gone
  | refused same => exact .inl (same name ▸ hl)

/-- A session that is not renewed leaves the pools. -/
theorem pool_renew_of_error {fault : CapacityFault} (h : (s.renew now n).result = .error fault)
    (b : PoolName) : (s.renew now n).store.pool b = s.pool b := by
  have renews := s.renew_renews now n
  rw [h] at renews
  cases renews with
  | refused same => exact same b

end SessionStore
end LoginGate
