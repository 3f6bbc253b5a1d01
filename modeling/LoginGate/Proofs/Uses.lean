/-
# Uses of a store

An application uses a store beside a clock, one operation after the other.  A session is touched
when it is issued, and at each look that finds it; it is let go of when its id is invalidated, and
when it is renewed.

| a use | does |
| --- | --- |
| touches a session | sets a lease of full length, which was then used last of its pool |
| lets go of a session | leaves no lease of it that is live |
| neither | keeps its lease as it is, while that lasts |

The last of these has one exception: a session that is new to a full pool takes the place of the one
whose lease was used least recently.  That is a session after which all the others that the pool has
room for were used.
-/

import LoginGate.Proofs.Eviction
import LoginGate.Proofs.Reachable
import Mathlib.Data.Finset.Card
import Mathlib.Data.Finset.Dedup

namespace LoginGate

namespace Pool

variable {p q : Pool} {now : Instant} {id : String} {n : Serial} {k l : Lease}

/-- The serials of the leases that were used after a lease. -/
def usedAfter (p : Pool) (l : Lease) : List Serial :=
  (p.leases.filter fun k => l.used < k.used).map Lease.serial

/-- The sessions of the leases that were used after one. -/
theorem mem_usedAfter {p : Pool} :
    n ∈ p.usedAfter l ↔ ∃ k ∈ p.leases, l.used < k.used ∧ k.serial = n := by
  simp [usedAfter, and_assoc]

/-- **A lease makes room** only where all the others that the pool has room for were used after
it. -/
theorem capacity_le_of_evicted (ranked : p.Ranked) (serials : (p.leases.map Lease.serial).Nodup)
    (h : p.evicted now id = some l) : p.capacity ≤ (p.usedAfter l).toFinset.card + 1 := by
  obtain ⟨mem, least, full⟩ := evicted_eq_some h
  have kept := expire_sublist now p
  have inside : ((p.expire now).leases.map Lease.serial).toFinset ⊆
      insert l.serial (p.usedAfter l).toFinset := by
    intro m hm
    obtain ⟨k, hk, rfl⟩ := List.mem_map.1 (List.mem_toFinset.1 hm)
    by_cases same : k.used = l.used
    · rw [List.inj_on_of_nodup_map ranked.apart (kept.subset hk) (kept.subset mem) same]
      exact Finset.mem_insert_self ..
    · have later : l.used < k.used := lt_of_le_of_ne (least k hk) (Ne.symm same)
      exact Finset.mem_insert_of_mem
        (List.mem_toFinset.2 (mem_usedAfter.2 ⟨k, kept.subset hk, later, rfl⟩))
  calc p.capacity ≤ ((p.expire now).leases.map Lease.serial).length := by
        rwa [List.length_map]
    _ = ((p.expire now).leases.map Lease.serial).toFinset.card :=
        (List.toFinset_card_of_nodup ((kept.map Lease.serial).nodup serials)).symm
    _ ≤ (insert l.serial (p.usedAfter l).toFinset).card := Finset.card_le_card inside
    _ ≤ (p.usedAfter l).toFinset.card + 1 := Finset.card_insert_le ..

/-- The lease used last is that of any pool with fewer leases. -/
theorem usedAfter_eq_nil (h : p.usedAfter l = []) (fewer : ∀ k ∈ q.leases, k ∈ p.leases) :
    q.usedAfter l = [] := by
  refine List.eq_nil_iff_forall_not_mem.2 fun m hm => ?_
  obtain ⟨k, hk, later, serial⟩ := mem_usedAfter.1 hm
  exact List.eq_nil_iff_forall_not_mem.1 h m (mem_usedAfter.2 ⟨k, fewer k hk, later, serial⟩)

/-- The lease that is set was used last. -/
theorem usedAfter_of_set (ranked : p.Ranked) (h : p.set now id n = .ok q) :
    ∃ e, now.add p.ttl = .ok e ∧ ∃ l ∈ q.leases, l.id = id ∧ l.serial = n ∧ l.expires = e ∧
      q.usedAfter l = [] := by
  obtain ⟨e, time, -, -, leases⟩ := set_eq_ok h
  refine ⟨e, time, ⟨id, n, e, p.uses⟩, ?_, rfl, rfl, rfl, ?_⟩
  · rw [leases]
    exact List.mem_append_right _ List.mem_cons_self
  · refine List.eq_nil_iff_forall_not_mem.2 fun m hm => ?_
    obtain ⟨k, hk, later, -⟩ := mem_usedAfter.1 hm
    rw [leases] at hk
    obtain kept | new := List.mem_append.1 hk
    · have old := (expire_sublist now p).subset (List.mem_filter.1 kept).1
      exact absurd (ranked.before k old) later.not_gt
    · obtain rfl := List.mem_singleton.1 new
      exact lt_irrefl _ later

end Pool

namespace SessionStore

variable {s t : SessionStore} {now : Instant} {id : String} {m n : Serial} {name : PoolName}
  {l : Lease}

/-- No session but this one was issued under an id. -/
def IssuedOnce (s : SessionStore) (id : String) (n : Serial) : Prop :=
  ∀ m, s.issuedIds[m]? = some id → m = n

/-- Where all ids are different each was issued once. -/
theorem IssuedOnce.of_nodup (nodup : s.issuedIds.Nodup) (h : s.issuedIds[n]? = some id) :
    s.IssuedOnce id n :=
  fun _ hm => (List.getElem?_inj (List.getElem?_eq_some_iff.1 hm).1 nodup).1 (hm.trans h.symm)

/-- An id that was issued once in a longer history was not issued twice before. -/
theorem IssuedOnce.mono (h : t.IssuedOnce id n) (ids : s.issuedIds <+: t.issuedIds) :
    s.IssuedOnce id n :=
  fun m hm => h m (issued_mono ids hm)

/-- In a tidy pool whose leases are kept under the ids of their sessions, no session has two. -/
theorem nodup_serials (named : s.Named) (tidy : (s.pool name).Tidy) :
    ((s.pool name).leases.map Lease.serial).Nodup := by
  refine List.Nodup.map_on (fun l hl k hk same => ?_) (List.Nodup.of_map _ tidy.nodup)
  have filesL := named l (mem_leases_of_mem_pool hl)
  have filesK := named k (mem_leases_of_mem_pool hk)
  rw [Files, same, filesK] at filesL
  exact List.inj_on_of_nodup_map tidy.nodup hl hk (Option.some.inj filesL).symm

/-- The session of a lease under an id that was issued once. -/
theorem IssuedOnce.serial (once : s.IssuedOnce id n) (named : s.Named) (hl : l ∈ s.leases)
    (hid : l.id = id) : l.serial = n := by
  have files := named l hl
  rw [Files, hid] at files
  exact once _ files

/-- **Where its id is invalidated,** no lease of a session is left that is live. -/
theorem dormant_of_invalidate (named : s.Named) (apart : s.Apart) (once : s.IssuedOnce id n) :
    ∀ l ∈ (s.invalidate now id).1.leases, l.id = id → l.isLive now = false := by
  intro l hl hid
  obtain ⟨b, hl⟩ := exists_pool_of_mem_leases hl
  obtain ⟨old, gone⟩ := leases_of_invalidate hl
  by_contra live
  rw [Bool.not_eq_false] at live
  -- The lease that the id finds is of the same session, and so in the same pool.
  obtain ⟨m, found⟩ := exists_find? (mem_leases_of_mem_pool old) live
  rw [hid] at found
  obtain ⟨⟨a, k⟩, holder, -⟩ := Option.map_eq_some_iff.1 found
  obtain ⟨hk, -, kid⟩ := mem_leases_of_holder? holder
  have sameL := once.serial named (mem_leases_of_mem_pool old) hid
  have sameK := once.serial named (mem_leases_of_mem_pool hk) kid
  by_cases here : a = b
  · subst here
    exact gone k holder hid
  · exact apart a b here k hk l old (sameK.trans sameL.symm)

/-- Issuing a session gives its serial the id that is drawn. -/
theorem getElem?_drawn (ids : t.issuedIds = s.issuedIds ++ [id]) :
    t.issuedIds[s.sessions.length]? = some id := by
  rw [ids, ← length_issuedIds, List.getElem?_concat_length]

/-- A session that is renewed has another id than the new one, where that is issued once. -/
theorem drawn_ne_idOf (now : Instant) (old : m < s.sessions.length)
    (once : (s.renew now m).store.IssuedOnce ((s.renew now m).store.idOf s.sessions.length)
      s.sessions.length) : (s.ids.drawFree (s.liveIds now)).1 ≠ s.idOf m := by
  intro same
  have drawn := getElem?_drawn (s.issuedIds_renew now m)
  rw [idOf_of_issued drawn, same] at once
  exact old.ne (once m (issued_mono (renew_evolves s now m).ids (getElem?_issuedIds old)))

/-- A session that is renewed under another id has a lease of full length, used last. -/
theorem lease_of_renew (ranked : (s.pool .authenticated).Ranked)
    (done : (s.renew now n).result = .ok m)
    (fresh : (s.ids.drawFree (s.liveIds now)).1 ≠ s.idOf n) :
    ∃ e, now.add (s.pool .authenticated).ttl = .ok e ∧
      ∃ l ∈ ((s.renew now n).store.pool .authenticated).leases,
        l.id = (s.ids.drawFree (s.liveIds now)).1 ∧ l.serial = m ∧ l.expires = e ∧
          ((s.renew now n).store.pool .authenticated).usedAfter l = [] := by
  have renews := s.renew_renews now n
  rw [done] at renews
  generalize (s.renew now n).store = t at renews ⊢
  cases renews with
  | @renewed i issuing issued =>
    cases issuing with
    | issued _ set own =>
      obtain ⟨e, time, l, hl, hid, serial, ends, last⟩ := Pool.usedAfter_of_set ranked set
      refine ⟨e, time, l, ?_, hid, serial, ends, ?_⟩
      · obtain same | removed := i.store.pool_invalidate now (s.idOf n) .authenticated
        · rwa [same, own]
        · rw [removed, own]
          exact Pool.mem_remove hl (hid ▸ fresh)
      · refine Pool.usedAfter_eq_nil last fun k hk => ?_
        exact own ▸ (leases_of_invalidate hk).1
    | refused refused => cases refused.symm.trans issued

/-- A lease that is left when an id is invalidated was there before. -/
theorem mem_of_invalidate {b : PoolName} (hl : l ∈ ((s.invalidate now id).1.pool b).leases) :
    l ∈ (s.pool b).leases :=
  (leases_of_invalidate hl).1

end SessionStore

/-! ## Uses of a store -/

/-- What is done with a store, and with the clock beside it.  Only a session that was issued can be
renewed. -/
inductive Use where
  | tick (later : Instant)
  | create
  | get (id : String)
  | renew (n : Serial)
  | invalidate (id : String)
  deriving DecidableEq, Repr

/-- A store and the time that its clock shows. -/
structure Desk where
  store : SessionStore
  now : Instant

namespace Desk

/-- What renewing a session leads to. -/
def renewal? (x : Desk) (n : Serial) : Option Issue :=
  (x.store.session? n).map fun _ => x.store.renew x.now n

/-- The store and the time after a use. -/
def after (x : Desk) : Use → Desk
  | .tick later => { x with now := later }
  | .create => { x with store := (x.store.create x.now).store }
  | .get id => { x with store := (x.store.get x.now id).2 }
  | .renew n => { x with store := ((x.renewal? n).map Issue.store).getD x.store }
  | .invalidate id => { x with store := (x.store.invalidate x.now id).1 }

/-- The store and the time after a run. -/
def run (x : Desk) (us : List Use) : Desk :=
  us.foldl after x

/-- The session that a use touches, which it issues or finds, and the pool in which it does. -/
def touch? (x : Desk) : Use → Option (PoolName × Serial)
  | .create => (x.store.create x.now).result.toOption.map (PoolName.pending, ·)
  | .get id =>
    match (x.store.get x.now id).1 with
    | .ok (some n) => (x.store.holder? x.now id).map fun h => (h.1, n)
    | _ => none
  | .renew n => ((x.renewal? n).bind fun i => i.result.toOption).map (PoolName.authenticated, ·)
  | _ => none

/-- The sessions that a run touches in a pool, one use after the other. -/
def touched (name : PoolName) : Desk → List Use → List Serial
  | _, [] => []
  | x, u :: us =>
    ((x.touch? u).filter fun t => t.1 = name).toList.map Prod.snd ++ touched name (x.after u) us

/-- A use lets go of a session: its id is invalidated, or it is renewed. -/
def letsGo (x : Desk) (n : Serial) : Use → Bool
  | .invalidate id => id == x.store.idOf n
  | .renew m => m == n && (x.touch? (.renew m)).isSome
  | _ => false

/-- A use of the run lets go of a session. -/
def drops (n : Serial) : Desk → List Use → Bool
  | _, [] => false
  | x, u :: us => x.letsGo n u || drops n (x.after u) us

/-- The clock, which shows `now`, is never set back. -/
def Forward : Instant → List Use → Prop
  | _, [] => True
  | now, .tick later :: us => now.atMost later = true ∧ Forward later us
  | now, _ :: us => Forward now us

/-- The time a lease of this length further on can be told, whenever the clock is set. -/
def Told (ttl : Seconds) (us : List Use) : Prop :=
  ∀ t, .tick t ∈ us → ∃ e, t.add ttl = .ok e

variable {x : Desk} {us : List Use} {u : Use} {name a : PoolName} {n m : Serial} {id : String}
  {e ttl : Seconds} {l : Lease}

/-- What every use keeps of a store. -/
structure Sound (x : Desk) : Prop where
  named : x.store.Named
  apart : x.store.Apart
  ranked : ∀ b, (x.store.pool b).Ranked

/-- Only a session that was issued is renewed. -/
theorem after_renew (x : Desk) (n : Serial) :
    x.after (.renew n) = x ∧ x.touch? (.renew n) = none ∨
      n < x.store.sessions.length ∧
        x.after (.renew n) = { x with store := (x.store.renew x.now n).store } ∧
        x.touch? (.renew n) =
          (x.store.renew x.now n).result.toOption.map (PoolName.authenticated, ·) := by
  cases old : x.store.session? n with
  | none => exact .inl (by simp [after, touch?, renewal?, old])
  | some =>
    refine .inr ⟨(List.getElem?_eq_some_iff.1 old).1, ?_⟩
    simp [after, touch?, renewal?, old]

/-- A use of a store is an operation, and setting the clock is none. -/
theorem evolves_after (x : Desk) (u : Use) : x.store.Evolves x.now (x.after u).store := by
  cases u with
  | tick => exact .refl ..
  | create => exact SessionStore.create_evolves ..
  | get => exact SessionStore.get_evolves ..
  | renew n =>
    obtain ⟨same, -⟩ | ⟨-, after, -⟩ := x.after_renew n
    · rw [same]
      exact .refl ..
    · rw [after]
      exact SessionStore.renew_evolves ..
  | invalidate => exact SessionStore.invalidate_evolves ..

/-- A use keeps a store sound. -/
theorem Sound.after (h : x.Sound) (u : Use) : (x.after u).Sound := by
  refine ⟨h.named.evolves (evolves_after x u), (evolves_after x u).apart h.named h.apart, ?_⟩
  have stable := Pool.ranked_stable x.now
  cases u with
  | tick => exact h.ranked
  | create => exact (x.store.create_issuing x.now).of_stable stable h.ranked
  | get id => exact SessionStore.get_of_stable stable h.ranked id
  | renew n =>
    obtain ⟨same, -⟩ | ⟨-, after, -⟩ := x.after_renew n
    · rw [same]
      exact h.ranked
    · rw [after]
      exact SessionStore.renew_of_stable stable h.ranked n
  | invalidate id =>
    intro b
    obtain same | removed := x.store.pool_invalidate x.now id b
    · exact same ▸ h.ranked b
    · exact removed ▸ stable.remove id (h.ranked b)

/-- A run keeps a store sound. -/
theorem Sound.run (h : x.Sound) (us : List Use) : (x.run us).Sound := by
  induction us generalizing x with
  | nil => exact h
  | cons u us ih => exact ih (h.after u)

/-- A store that was just set up is sound, its pools being empty. -/
theorem sound_of_make {capacity : Int} {ids : Supply} {s : SessionStore} {now : Instant}
    (made : SessionStore.make ttl capacity ids = .ok s) : Sound ⟨s, now⟩ := by
  have pool := SessionStore.pool_of_make made
  have none : ∀ b, (s.pool b).leases = [] := fun b => by rw [(pool b).1]
  refine ⟨fun l hl => ?_, fun a b _ l hl => ?_, fun b => ?_⟩
  · obtain ⟨b, hl⟩ := SessionStore.exists_pool_of_mem_leases hl
    exact absurd (none b ▸ hl) List.not_mem_nil
  · exact absurd (none a ▸ hl) List.not_mem_nil
  · exact
      { nodup := by simp [none b], room := by simp [none b]
        apart := by simp [none b], before := by simp [none b] }

/-- A run adds ids and takes none back. -/
theorem issuedIds_run (x : Desk) (us : List Use) :
    x.store.issuedIds <+: (x.run us).store.issuedIds := by
  induction us generalizing x with
  | nil => exact List.prefix_rfl
  | cons u us ih => exact (evolves_after x u).ids.trans (ih _)

/-- A run adds sessions and takes none back. -/
theorem length_run (x : Desk) (us : List Use) :
    x.store.sessions.length ≤ (x.run us).store.sessions.length := by
  simpa only [SessionStore.length_issuedIds] using (issuedIds_run x us).length_le

/-- A run leaves the size of the pools and the length of a lease. -/
theorem pool_run (x : Desk) (us : List Use) (a : PoolName) :
    ((x.run us).store.pool a).capacity = (x.store.pool a).capacity ∧
      ((x.run us).store.pool a).ttl = (x.store.pool a).ttl := by
  induction us generalizing x with
  | nil => exact ⟨rfl, rfl⟩
  | cons u us ih =>
    have pools := (evolves_after x u).pools a
    exact ⟨(ih _).1.trans pools.1, (ih _).2.trans pools.2⟩

/-! ## Sessions that are touched -/

/-- A session that a use touches is issued by it, or found. -/
theorem touch?_eq_some (h : x.touch? u = some (name, n)) :
    (u = .create ∧ name = .pending ∧ (x.store.create x.now).result = .ok n) ∨
      (∃ m, u = .renew m ∧ name = .authenticated ∧ m < x.store.sessions.length ∧
        (x.store.renew x.now m).result = .ok n) ∨
      ∃ id l, u = .get id ∧ x.store.holder? x.now id = some (name, l) ∧ l.serial = n ∧
        (x.store.get x.now id).1 = .ok (some n) := by
  cases u with
  | tick => cases h
  | invalidate => cases h
  | create =>
    refine .inl ⟨rfl, ?_⟩
    unfold touch? at h
    cases issued : (x.store.create x.now).result with
    | error fault => simp [issued, Except.toOption] at h
    | ok m =>
      simp only [issued, Except.toOption, Option.map_some, Option.some.injEq, Prod.mk.injEq] at h
      obtain ⟨rfl, rfl⟩ := h
      exact ⟨rfl, rfl⟩
  | renew m =>
    refine .inr (.inl ⟨m, rfl, ?_⟩)
    obtain ⟨-, none⟩ | ⟨old, -, touch⟩ := x.after_renew m
    · cases none.symm.trans h
    · rw [touch] at h
      cases issued : (x.store.renew x.now m).result with
      | error fault => simp [issued, Except.toOption] at h
      | ok k =>
        simp only [issued, Except.toOption, Option.map_some, Option.some.injEq, Prod.mk.injEq] at h
        obtain ⟨rfl, rfl⟩ := h
        exact ⟨rfl, old, rfl⟩
  | get id =>
    refine .inr (.inr ⟨id, ?_⟩)
    unfold touch? at h
    dsimp only at h
    split at h
    · rename_i m found
      obtain ⟨⟨b, l⟩, holder, same⟩ := Option.map_eq_some_iff.1 h
      obtain ⟨rfl, rfl⟩ := Prod.mk.inj same
      refine ⟨l, rfl, holder, ?_, found⟩
      have sought := SessionStore.find?_of_get found
      rw [SessionStore.find?, holder] at sought
      exact Option.some.inj sought
    · cases h

/-- **A session that is touched** has a lease of full length after that, and none of its pool was
used after it. -/
theorem exists_lease_of_touch (sound : x.Sound) (touch : x.touch? u = some (name, n))
    (once : (x.after u).store.IssuedOnce ((x.after u).store.idOf n) n) :
    ∃ e, x.now.add (x.store.pool name).ttl = .ok e ∧
      ∃ l ∈ ((x.after u).store.pool name).leases, l.serial = n ∧ l.expires = e ∧
        ((x.after u).store.pool name).usedAfter l = [] := by
  obtain ⟨rfl, rfl, done⟩ | ⟨m, rfl, rfl, old, done⟩ | ⟨id, k, rfl, holder, rfl, found⟩ :=
    touch?_eq_some touch
  · have issuing := x.store.create_issuing x.now
    cases issuing with
    | issued result set own =>
      obtain rfl := Except.ok.inj (result.symm.trans done)
      obtain ⟨e, time, l, hl, -, serial, ends, last⟩ :=
        Pool.usedAfter_of_set (sound.ranked .pending) set
      rw [show ((x.after .create).store.pool .pending) = _ from own]
      exact ⟨e, time, l, hl, serial, ends, last⟩
    | refused refused => cases refused.symm.trans done
  · obtain ⟨-, none⟩ | ⟨-, after, -⟩ := x.after_renew m
    · cases none.symm.trans touch
    rw [after] at once ⊢
    have serial : n = x.store.sessions.length := by
      obtain ⟨result, -⟩ | ⟨result, -⟩ := x.store.renew_issues x.now m
      · exact Except.ok.inj (done.symm.trans result)
      · cases done.symm.trans result
    have fresh := SessionStore.drawn_ne_idOf x.now old (serial ▸ once)
    obtain ⟨e, time, l, hl, -, rest⟩ :=
      SessionStore.lease_of_renew (sound.ranked .authenticated) done fresh
    exact ⟨e, time, l, hl, rest⟩
  · have gets := x.store.get_gets x.now id
    have after : (x.after (.get id)).store = (x.store.get x.now id).2 := rfl
    rw [after]
    rw [found] at gets
    generalize (x.store.get x.now id).2 = t at gets ⊢
    generalize hr : Except.ok (some k.serial) = r at gets
    cases gets with
    | absent => cases hr
    | unset => cases hr
    | @set b l q there set =>
      obtain ⟨rfl, rfl⟩ := Prod.mk.inj (Option.some.inj (there.symm.trans holder))
      obtain ⟨e, time, l, hl, -, serial, ends, last⟩ :=
        Pool.usedAfter_of_set (sound.ranked b) set
      rw [SessionStore.pool_withPool_self]
      exact ⟨e, time, l, hl, serial, ends, last⟩

/-! ## Sessions that are not touched -/

/-- Both pools have room, and the time a lease further on can be told. -/
structure Ready (x : Desk) : Prop where
  room : ∀ a, (x.store.pool a).capacity ≠ 0
  told : ∀ a, ∃ e, x.now.add (x.store.pool a).ttl = .ok e

/-- Where a lease can be set, a look at a live id finds its session. -/
theorem Ready.get (h : x.Ready) (holder : x.store.holder? x.now id = some (a, l)) :
    (x.store.get x.now id).1 = .ok (some l.serial) := by
  obtain ⟨e, time⟩ := h.told a
  obtain ⟨t, log, set⟩ : ∃ t log, x.store.set x.now a id l.serial = .ok (t, log) :=
    SessionStore.set_of_room (h.room a) time
  unfold SessionStore.get
  rw [holder]
  dsimp only
  rw [set]

/-- A look at a live id touches its session, in the pool that has it. -/
theorem Ready.touch_get (h : x.Ready) (holder : x.store.holder? x.now id = some (a, l)) :
    x.touch? (.get id) = some (a, l.serial) := by
  simp [touch?, h.get holder, holder]

/-- **A lease after a use** is of full length, of a session that the use touches, or it was there
before; where leases can be set, it is then as it was. -/
theorem back (x : Desk) (u : Use) (hl : l ∈ ((x.after u).store.pool a).leases) :
    x.touch? u = some (a, l.serial) ∨ ∃ k ∈ (x.store.pool a).leases,
      k.id = l.id ∧ k.serial = l.serial ∧ k.expires = l.expires ∧ (x.Ready → k = l) := by
  have kept : l ∈ (x.store.pool a).leases → ∃ k ∈ (x.store.pool a).leases,
      k.id = l.id ∧ k.serial = l.serial ∧ k.expires = l.expires ∧ (x.Ready → k = l) :=
    fun old => ⟨l, old, rfl, rfl, rfl, fun _ => rfl⟩
  cases u with
  | tick => exact .inr (kept hl)
  | create =>
    obtain ⟨rfl, issued, -⟩ | old := (x.store.create_issuing x.now).back hl
    · exact .inl (by simp [touch?, issued, Except.toOption])
    · exact .inr (kept old)
  | get id =>
    have gets := x.store.get_gets x.now id
    have touch : x.touch? (.get id) = match (x.store.get x.now id).1 with
      | .ok (some n) => (x.store.holder? x.now id).map fun h => (h.1, n)
      | _ => none := rfl
    rw [show (x.after (.get id)).store = (x.store.get x.now id).2 from rfl] at hl
    generalize (x.store.get x.now id).1 = r at gets touch
    generalize (x.store.get x.now id).2 = t at gets hl
    cases gets with
    | absent => exact .inr (kept hl)
    | @unset b k _ holder =>
      -- A lease that was only used is not where a lease can be set.
      have unready : ¬ x.Ready := fun ready => nomatch touch.symm.trans (ready.touch_get holder)
      by_cases own : a = b
      · subst own
        rw [SessionStore.pool_withPool_self] at hl
        obtain ⟨j, hj, rfl⟩ := List.mem_map.1 hl
        refine .inr ⟨j, hj, ?_⟩
        split <;> exact ⟨rfl, rfl, rfl, fun ready => absurd ready unready⟩
      · rw [SessionStore.pool_withPool_of_ne own] at hl
        exact .inr (kept hl)
    | @set b k q holder set =>
      by_cases own : a = b
      · subst own
        obtain ⟨e, -, -, -, leases⟩ := Pool.set_eq_ok set
        rw [SessionStore.pool_withPool_self, leases] at hl
        obtain old | new := List.mem_append.1 hl
        · exact .inr (kept ((Pool.expire_sublist x.now _).subset (List.mem_filter.1 old).1))
        · obtain rfl := List.mem_singleton.1 new
          rw [touch]
          exact .inl (by simp [holder])
      · rw [SessionStore.pool_withPool_of_ne own] at hl
        exact .inr (kept hl)
  | renew m =>
    obtain ⟨same, -⟩ | ⟨-, after, touch⟩ := x.after_renew m
    · rw [same] at hl
      exact .inr (kept hl)
    · rw [after] at hl
      have renews := x.store.renew_renews x.now m
      rw [touch]
      generalize (x.store.renew x.now m).result = r at renews
      dsimp only at hl
      generalize (x.store.renew x.now m).store = t at renews hl
      cases renews with
      | renewed issuing issued =>
        obtain ⟨rfl, result, -⟩ | old := issuing.back (SessionStore.mem_of_invalidate hl)
        · rw [← issued, result]
          exact .inl rfl
        · exact .inr (kept old)
      | refused same => exact .inr (kept (same a ▸ hl))
  | invalidate id => exact .inr (kept (SessionStore.mem_of_invalidate hl))

/-- **A live lease stays,** unless its session is touched or let go of, or a new session of its pool
is touched and all the others that the pool has room for were used after it. -/
theorem forth (sound : x.Sound) (ready : x.Ready) (hl : l ∈ (x.store.pool a).leases)
    (live : l.isLive x.now = true) (once : (x.after u).store.IssuedOnce l.id l.serial)
    (untouched : x.touch? u ≠ some (a, l.serial)) (held : x.letsGo l.serial u = false) :
    l ∈ ((x.after u).store.pool a).leases ∨
      x.touch? u = some (a, x.store.sessions.length) ∧
        (x.store.pool a).capacity ≤ ((x.store.pool a).usedAfter l).toFinset.card + 1 := by
  have inside := SessionStore.mem_leases_of_mem_pool hl
  have old := SessionStore.lt_of_named sound.named inside
  have before := once.mono (evolves_after x u).ids
  have idOf : x.store.idOf l.serial = l.id := SessionStore.idOf_of_issued (sound.named l inside)
  -- The lease that makes room is this one if it has its id.
  have makesRoom : ∀ id, ((x.store.pool a).evicted x.now id).map Lease.id = some l.id →
      (x.store.pool a).capacity ≤ ((x.store.pool a).usedAfter l).toFinset.card + 1 := by
    intro id evicted
    obtain ⟨k, hk, same⟩ := Option.map_eq_some_iff.1 evicted
    have kept := (Pool.expire_sublist x.now _).subset (Pool.evicted_eq_some hk).1
    obtain rfl := List.inj_on_of_nodup_map (sound.ranked a).nodup kept hl same
    exact Pool.capacity_le_of_evicted (sound.ranked a)
      (SessionStore.nodup_serials sound.named (sound.ranked a).toTidy) hk
  have drawn : (x.after u).store.issuedIds = x.store.issuedIds ++
      [(x.store.ids.drawFree (x.store.liveIds x.now)).1] →
      l.id ≠ (x.store.ids.drawFree (x.store.liveIds x.now)).1 := fun ids same =>
    old.ne' (once _ (same ▸ SessionStore.getElem?_drawn ids))
  cases u with
  | tick => exact .inl hl
  | create =>
    have issuing := x.store.create_issuing x.now
    obtain stays | ⟨rfl, evicted⟩ := issuing.mem hl live (drawn (x.store.issuedIds_create x.now))
    · exact .inl stays
    · cases issuing with
      | issued result => exact .inr ⟨by simp [touch?, result, Except.toOption], makesRoom _ evicted⟩
      | refused _ same => exact .inl (same _ ▸ hl)
  | get id =>
    refine .inl (SessionStore.mem_get hl live fun same => untouched ?_)
    obtain ⟨m, found⟩ := SessionStore.exists_find? inside live
    rw [same] at found
    obtain ⟨⟨b, k⟩, holder, rfl⟩ := Option.map_eq_some_iff.1 found
    obtain ⟨hk, -, kid⟩ := SessionStore.mem_leases_of_holder? holder
    have serial := before.serial sound.named (SessionStore.mem_leases_of_mem_pool hk)
      (kid.trans same.symm)
    have here : b = a := by
      by_contra other
      exact sound.apart b a other k hk l hl serial
    rw [ready.touch_get holder, here, serial]
  | renew m =>
    obtain ⟨same, -⟩ | ⟨issued, after, touch⟩ := x.after_renew m
    · exact .inl (same.symm ▸ hl)
    · rw [after] at drawn ⊢
      rw [touch]
      cases done : (x.store.renew x.now m).result with
      | error fault => exact .inl (SessionStore.pool_renew_of_error done a ▸ hl)
      | ok k =>
        have other : l.id ≠ x.store.idOf m := by
          intro same
          obtain rfl : m = l.serial := before m (same ▸ SessionStore.getElem?_issuedIds issued)
          simp [letsGo, touch, done, Except.toOption] at held
        obtain stays | ⟨rfl, evicted⟩ :=
          SessionStore.mem_renew hl live (drawn (x.store.issuedIds_renew x.now m)) other
        · exact .inl stays
        · obtain ⟨result, -⟩ | ⟨result, -⟩ := x.store.renew_issues x.now m
          · obtain rfl := Except.ok.inj (done.symm.trans result)
            exact .inr ⟨rfl, makesRoom _ evicted⟩
          · cases done.symm.trans result
  | invalidate id =>
    have other : l.id ≠ id := by
      intro same
      simp [letsGo, idOf, same] at held
    obtain same | removed := x.store.pool_invalidate x.now id a
    · exact .inl (same ▸ hl)
    · exact .inl (removed ▸ Pool.mem_remove hl other)

end Desk
end LoginGate
