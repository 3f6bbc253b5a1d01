/-
# The idle timeout of a store

The lease of a session ends a full length after it was last touched.  Up to then a look at its id
finds it, if not too many others were touched meanwhile; from then on it is gone for good.

| a session, whose id was issued once | a look at its id |
| --- | --- |
| its lease lasts, and fewer others of its pool were touched than have room there | finds it |
| its lease is over | finds nothing, and never again |
| it was let go of | finds nothing, and never again |

The first of these needs a clock whose times can be told a lease further on.  Whole seconds and
doubles do not always add up: where the lease is a whole number too large for a double, a look by a
double breaks off, though the lease was set by whole seconds and lasts.
-/

import LoginGate.Proofs.Uses

namespace LoginGate
namespace Desk

variable {x : Desk} {us : List Use} {u : Use} {name a : PoolName} {n m : Serial} {id : String}
  {e ttl : Seconds} {l : Lease}

/-! ## Runs -/

/-- A session is touched in a run by its first use or later. -/
theorem mem_touched_cons :
    n ∈ x.touched a (u :: us) ↔ x.touch? u = some (a, n) ∨ n ∈ (x.after u).touched a us := by
  rw [touched, List.mem_append]
  refine or_congr_left ?_
  constructor
  · intro h
    obtain ⟨t, ht, rfl⟩ := List.mem_map.1 h
    obtain ⟨touch, here⟩ := Option.filter_eq_some_iff.1 (Option.mem_toList.1 ht)
    rw [touch, ← of_decide_eq_true here]
  · intro h
    exact List.mem_map.2 ⟨(a, n), by simp [h, Option.filter], rfl⟩

/-- A clock that is not set back in a run is not set back in either part of it. -/
theorem forward_append (x : Desk) (us : List Use) {ts : List Use}
    (h : Forward x.now (us ++ ts)) : Forward x.now us ∧ Forward (x.run us).now ts := by
  induction us generalizing x with
  | nil => exact ⟨trivial, h⟩
  | cons u us ih =>
    cases u with
    | tick later =>
      obtain ⟨first, rest⟩ := ih (x.after (.tick later)) h.2
      exact ⟨⟨h.1, first⟩, rest⟩
    | create => exact ih (x.after .create) h
    | get id => exact ih (x.after (.get id)) h
    | renew n => exact ih (x.after (.renew n)) h
    | invalidate id => exact ih (x.after (.invalidate id)) h

/-- What is to come after a use was to come before it. -/
theorem isBefore_of_after (forward : Forward x.now [u]) (h : (x.after u).now.isBefore e = true) :
    x.now.isBefore e = true := by
  cases u with
  | tick later => exact Seconds.isBefore_of_atMost forward.1 h
  | create => exact h
  | get => exact h
  | renew => exact h
  | invalidate => exact h

/-- A clock that is not set back in a run is not set back by its first use. -/
theorem forward_cons (h : Forward x.now (u :: us)) :
    Forward x.now [u] ∧ Forward (x.after u).now us :=
  forward_append x [u] h

/-- What lasts at the end of a run lasted at its beginning. -/
theorem isBefore_of_run (forward : Forward x.now us) (h : (x.run us).now.isBefore e = true) :
    x.now.isBefore e = true := by
  induction us generalizing x with
  | nil => exact h
  | cons u us ih =>
    obtain ⟨first, rest⟩ := forward_cons forward
    exact isBefore_of_after first (ih rest h)

/-- A store is ready after a use, if the time of the next lease can be told. -/
theorem Ready.after (h : x.Ready) (ttls : ∀ b, (x.store.pool b).ttl = ttl) (told : Told ttl [u]) :
    (x.after u).Ready := by
  have pools := (evolves_after x u).pools
  refine ⟨fun b => (pools b).1 ▸ h.room b, fun b => ?_⟩
  rw [(pools b).2]
  cases u with
  | tick later => exact ttls b ▸ told later List.mem_cons_self
  | create => exact h.told b
  | get => exact h.told b
  | renew => exact h.told b
  | invalidate => exact h.told b

/-- **A lease stays in its pool** while it lasts and its session is neither touched nor let go of,
as long as fewer others than the pool has room for were used or touched since. -/
theorem mem_run (sound : x.Sound) (ready : x.Ready) (ttls : ∀ b, (x.store.pool b).ttl = ttl)
    (told : Told ttl us) (forward : Forward x.now us) (hl : l ∈ (x.store.pool a).leases)
    (lasts : (x.run us).now.isBefore l.expires = true)
    (once : (x.run us).store.IssuedOnce l.id l.serial)
    (untouched : ∀ b, l.serial ∉ x.touched b us) (held : x.drops l.serial us = false)
    (few : ((x.store.pool a).usedAfter l ++ x.touched a us).toFinset.card <
      (x.store.pool a).capacity) :
    (x.run us).Ready ∧ l ∈ ((x.run us).store.pool a).leases := by
  induction us generalizing x with
  | nil => exact ⟨ready, hl⟩
  | cons u us ih =>
    obtain ⟨first, rest⟩ := forward_cons forward
    have pools := (evolves_after x u).pools
    have lives : l.isLive x.now = true := isBefore_of_run forward lasts
    rw [drops, Bool.or_eq_false_iff] at held
    have spared : ∀ b, x.touch? u ≠ some (b, l.serial) := fun b touch =>
      untouched b (mem_touched_cons.2 (.inl touch))
    refine ih (sound.after u)
      (ready.after ttls fun t ht => told t (List.mem_cons.2 (.inl (List.mem_singleton.1 ht))))
      (fun b => (pools b).2.trans (ttls b)) (fun t ht => told t (List.mem_cons_of_mem _ ht)) rest
      ?stays lasts once (fun b touch => untouched b (mem_touched_cons.2 (.inr touch))) held.2 ?few
    case stays =>
      obtain stays | ⟨touch, full⟩ := forth sound ready hl lives
        (once.mono (issuedIds_run (x.after u) us)) (spared a) held.1
      · exact stays
      · -- The new session is one more beside those that were used since.
        have new : x.store.sessions.length ∉ ((x.store.pool a).usedAfter l).toFinset := by
          intro mem
          obtain ⟨k, hk, -, serial⟩ := Pool.mem_usedAfter.1 (List.mem_toFinset.1 mem)
          exact (SessionStore.lt_of_named sound.named
            (SessionStore.mem_leases_of_mem_pool hk)).ne serial
        have subset : insert x.store.sessions.length ((x.store.pool a).usedAfter l).toFinset ⊆
            ((x.store.pool a).usedAfter l ++ x.touched a (u :: us)).toFinset := by
          intro m hm
          rw [List.toFinset_append, Finset.mem_union]
          obtain rfl | old := Finset.mem_insert.1 hm
          · exact .inr (List.mem_toFinset.2 (mem_touched_cons.2 (.inl touch)))
          · exact .inl old
        have more := Finset.card_le_card subset
        rw [Finset.card_insert_of_notMem new] at more
        exact absurd (full.trans more) few.not_ge
    case few =>
      rw [(pools a).1]
      refine (Finset.card_le_card fun m hm => ?_).trans_lt few
      rw [List.toFinset_append, Finset.mem_union, List.mem_toFinset, List.mem_toFinset] at hm ⊢
      rw [mem_touched_cons]
      obtain used | later := hm
      · obtain ⟨k, hk, since, rfl⟩ := Pool.mem_usedAfter.1 used
        obtain touch | ⟨j, hj, -, -, -, same⟩ := back x u hk
        · exact .inr (.inl touch)
        · exact .inl (Pool.mem_usedAfter.2 ⟨k, same ready ▸ hj, since, rfl⟩)
      · exact .inr (.inr later)

/-! ## Sessions that are gone -/

/-- No lease under an id is live. -/
def Gone (x : Desk) (id : String) : Prop :=
  ∀ l ∈ x.store.leases, l.id = id → l.isLive x.now = false

/-- A look at an id without a live lease finds nothing. -/
theorem Gone.get (h : x.Gone id) : (x.store.get x.now id).1 = .ok none := by
  unfold SessionStore.get
  cases holder : x.store.holder? x.now id with
  | none => rfl
  | some found =>
    obtain ⟨b, l⟩ := found
    obtain ⟨hl, live, hid⟩ := SessionStore.mem_leases_of_holder? holder
    exact absurd live (Bool.eq_false_iff.1 (h l (SessionStore.mem_leases_of_mem_pool hl) hid))

/-- **What is gone stays gone:** no use gives the id a live lease again. -/
theorem Gone.after (h : x.Gone id) (forward : Forward x.now [u]) (old : n < x.store.sessions.length)
    (once : (x.after u).store.IssuedOnce id n) : (x.after u).Gone id := by
  intro l hl hid
  refine Bool.eq_false_iff.2 fun live => ?_
  have lives : l.isLive x.now = true := isBefore_of_after forward live
  obtain ⟨k, hk, kid, -, same⟩ | ⟨new, files⟩ := (evolves_after x u).leases l hl
  · have dead := h k hk (kid.trans hid)
    obtain same | live := same
    · rw [Lease.isLive, same] at dead
      exact absurd lives (Bool.eq_false_iff.1 dead)
    · exact absurd live (Bool.eq_false_iff.1 dead)
  · rw [SessionStore.Files, hid] at files
    exact absurd new (once _ files ▸ old).not_ge

/-- **What is gone stays gone,** where no other session is issued under the id. -/
theorem Gone.run (h : x.Gone id) (forward : Forward x.now us) (old : n < x.store.sessions.length)
    (once : (x.run us).store.IssuedOnce id n) : (x.run us).Gone id := by
  induction us generalizing x with
  | nil => exact h
  | cons u us ih =>
    obtain ⟨first, rest⟩ := forward_cons forward
    have evolves := evolves_after x u
    exact ih (h.after first old (once.mono (issuedIds_run (x.after u) us))) rest
      (old.trans_le evolves.length_le) once

/-- **A session that is let go of** is gone. -/
theorem gone_of_letsGo (sound : x.Sound) (old : n < x.store.sessions.length)
    (once : (x.after u).store.IssuedOnce (x.store.idOf n) n) (h : x.letsGo n u = true) :
    (x.after u).Gone (x.store.idOf n) := by
  cases u with
  | tick => cases h
  | create => cases h
  | get => cases h
  | invalidate id =>
    obtain rfl : id = x.store.idOf n := eq_of_beq h
    exact SessionStore.dormant_of_invalidate sound.named sound.apart
      (once.mono (evolves_after x _).ids)
  | renew m =>
    rw [letsGo, Bool.and_eq_true, beq_iff_eq] at h
    obtain ⟨rfl, touches⟩ := h
    obtain ⟨⟨b, k⟩, touch⟩ := Option.isSome_iff_exists.1 touches
    obtain ⟨⟨⟩, -⟩ | ⟨j, here, -, -, done⟩ | ⟨_, _, ⟨⟩, -⟩ := touch?_eq_some touch
    obtain rfl := Use.renew.inj here
    obtain ⟨-, none⟩ | ⟨-, after, -⟩ := x.after_renew m
    · cases none.symm.trans touch
    obtain ⟨i, rfl, -, store⟩ := SessionStore.renew_eq_ok done
    have evolves := x.store.issue_evolves x.now .authenticated
      ((x.store.session? m).getD { id := "" })
    rw [after] at once ⊢
    rw [store] at once ⊢
    refine SessionStore.dormant_of_invalidate (sound.named.evolves evolves)
      (evolves.apart sound.named sound.apart) (once.mono ?_)
    rw [SessionStore.issuedIds, SessionStore.issuedIds, SessionStore.sessions_invalidate]

/-- A session that was let go of in a run is gone after it. -/
theorem gone_of_drops (sound : x.Sound) (forward : Forward x.now us)
    (old : n < x.store.sessions.length) (once : (x.run us).store.IssuedOnce (x.store.idOf n) n)
    (h : x.drops n us = true) : (x.run us).Gone (x.store.idOf n) := by
  induction us generalizing x with
  | nil => cases h
  | cons u us ih =>
    obtain ⟨first, rest⟩ := forward_cons forward
    have evolves := evolves_after x u
    have later := old.trans_le evolves.length_le
    have same : (x.after u).store.idOf n = x.store.idOf n :=
      SessionStore.idOf_of_issued
        (SessionStore.issued_mono evolves.ids (SessionStore.getElem?_issuedIds old))
    obtain now | next := Bool.or_eq_true_iff.1 h
    · exact (gone_of_letsGo sound old (once.mono (issuedIds_run (x.after u) us)) now).run rest later
        once
    · exact same ▸ ih (sound.after u) rest later (same.symm ▸ once) next

/-- **The leases of a session that is not touched** end when they did. -/
theorem expires_run (sound : x.Sound) (ends : ∀ l ∈ x.store.leases, l.id = id → l.expires = e)
    (once : (x.run us).store.IssuedOnce id n) (untouched : ∀ b, n ∉ x.touched b us) :
    ∀ l ∈ (x.run us).store.leases, l.id = id → l.expires = e := by
  induction us generalizing x with
  | nil => exact ends
  | cons u us ih =>
    refine ih (sound.after u) (fun l hl hid => ?_) once
      fun b touch => untouched b (mem_touched_cons.2 (.inr touch))
    have serial := (once.mono (issuedIds_run (x.after u) us)).serial (sound.after u).named hl hid
    obtain ⟨b, hl⟩ := SessionStore.exists_pool_of_mem_leases hl
    obtain touch | ⟨k, hk, kid, -, same, -⟩ := back x u hl
    · exact absurd (mem_touched_cons.2 (.inl (serial ▸ touch))) (untouched b)
    · exact same ▸ ends k (SessionStore.mem_leases_of_mem_pool hk) (kid.trans hid)

/-- After a touch all leases of the session end a full length later. -/
theorem expires_of_touch (sound : x.Sound) (touch : x.touch? u = some (name, n))
    (once : (x.after u).store.IssuedOnce ((x.after u).store.idOf n) n) :
    ∃ e, x.now.add (x.store.pool name).ttl = .ok e ∧
      (∃ l ∈ ((x.after u).store.pool name).leases, l.serial = n ∧ l.expires = e ∧
        ((x.after u).store.pool name).usedAfter l = []) ∧
      ∀ k ∈ (x.after u).store.leases, k.id = (x.after u).store.idOf n → k.expires = e := by
  obtain ⟨e, time, l, hl, serial, ends, last⟩ := exists_lease_of_touch sound touch once
  have after := sound.after u
  refine ⟨e, time, ⟨l, hl, serial, ends, last⟩, fun k hk kid => ?_⟩
  have files := after.named l (SessionStore.mem_leases_of_mem_pool hl)
  have lid : l.id = (x.after u).store.idOf n :=
    (SessionStore.idOf_of_issued (serial ▸ files)).symm
  have same := once.serial after.named hk kid
  obtain ⟨b, hk⟩ := SessionStore.exists_pool_of_mem_leases hk
  by_cases here : b = name
  · subst here
    rw [List.inj_on_of_nodup_map (after.ranked b).nodup hk hl (kid.trans lid.symm), ends]
  · exact absurd (same.trans serial.symm) (after.apart b name here k hk l hl)

/-- **The idle timeout.**  In a run from an empty store, on a clock that is never set back, let a
use touch a session whose id is issued once, and let the lease of that touch end at `e`.  As long as
no later use touches the session or lets go of it, a look at its id before `e` finds it, where fewer
other sessions of its pool than the pool has room for were touched since and the clock can be told a
lease further on.  Once it is let go of, or was not touched until `e`, a look at its id finds
nothing from then on, whatever is done. -/
theorem idle_timeout {capacity : Int} {ids : Supply} {s : SessionStore} {now : Instant}
    (pre post more : List Use) (c : Use) (made : SessionStore.make ttl capacity ids = .ok s)
    (forward : Forward now (pre ++ c :: (post ++ more)))
    (touch : (run ⟨s, now⟩ pre).touch? c = some (name, n)) :
    let y := run ⟨s, now⟩ pre
    let z := y.after c
    let w := z.run post
    let id := z.store.idOf n
    (w.run more).store.IssuedOnce id n →
    ∃ e, y.now.add ttl = .ok e ∧
      ((∀ b, n ∉ z.touched b post) → z.drops n post = false → w.now.isBefore e = true →
        (z.touched name post).toFinset.card < capacity → Told ttl post →
        (w.store.get w.now id).1 = .ok (some n)) ∧
      (z.drops n post = true ∨ (∀ b, n ∉ z.touched b post) ∧ w.now.isBefore e = false →
        ((w.run more).store.get (w.run more).now id).1 = .ok none) := by
  intro y z w id once
  have sound : y.Sound := (sound_of_make made).run pre
  have later : z.Sound := sound.after c
  have set := SessionStore.pool_of_make made
  have pools : ∀ b, (y.store.pool b).capacity = capacity.toNat ∧ (y.store.pool b).ttl = ttl := by
    intro b
    have kept := pool_run ⟨s, now⟩ pre b
    rw [show s.pool b = _ from (set b).1] at kept
    exact kept
  have pools' : ∀ b, (z.store.pool b).capacity = capacity.toNat ∧ (z.store.pool b).ttl = ttl := by
    intro b
    have kept := (evolves_after y c).pools b
    exact ⟨kept.1.trans (pools b).1, kept.2.trans (pools b).2⟩
  obtain ⟨first, rest⟩ := forward_cons (forward_append ⟨s, now⟩ pre forward).2
  obtain ⟨forward, onward⟩ := forward_append z post rest
  have onceW : w.store.IssuedOnce id n := once.mono (issuedIds_run w more)
  have onceZ : z.store.IssuedOnce id n := onceW.mono (issuedIds_run z post)
  obtain ⟨e, time, ⟨l, hl, rfl, ends, last⟩, all⟩ := expires_of_touch sound touch onceZ
  rw [(pools name).2] at time
  have inside := SessionStore.mem_leases_of_mem_pool hl
  have lid : l.id = id := (SessionStore.idOf_of_issued (later.named l inside)).symm
  have old : l.serial < z.store.sessions.length := SessionStore.lt_of_named later.named inside
  refine ⟨e, time, fun untouched held lasts few told => ?found, fun outcome => ?gone⟩
  case found =>
    have room : capacity.toNat ≠ 0 := by omega
    have ready : y.Ready :=
      ⟨fun b => (pools b).1 ▸ room, fun b => ⟨e, (pools b).2.symm ▸ time⟩⟩
    have ready : z.Ready := ready.after (fun b => (pools b).2) fun t ht => by
      obtain rfl := List.mem_singleton.1 ht
      cases touch
    rw [← lid] at onceW ⊢
    obtain ⟨ready, stays⟩ := mem_run later ready (fun b => (pools' b).2) told forward hl
      (ends ▸ lasts) onceW untouched held (by rw [last, List.nil_append, (pools' name).1]; omega)
    have live : l.isLive w.now = true := by rwa [Lease.isLive, ends]
    obtain ⟨m, found⟩ := SessionStore.exists_find? (SessionStore.mem_leases_of_mem_pool stays) live
    obtain ⟨⟨b, k⟩, holder, -⟩ := Option.map_eq_some_iff.1 found
    obtain ⟨hk, -, kid⟩ := SessionStore.mem_leases_of_holder? holder
    have serial := onceW.serial (later.run post).named (SessionStore.mem_leases_of_mem_pool hk) kid
    rw [ready.get holder, serial]
  case gone =>
    have gone : w.Gone id := by
      obtain let_go | ⟨untouched, past⟩ := outcome
      · exact gone_of_drops later forward old onceW let_go
      · intro k hk kid
        rw [Lease.isLive, expires_run later all onceW untouched k hk kid]
        exact past
    exact (gone.run onward (old.trans_le (length_run z post)) once).get

/-- A store with room for two sessions of a minute in each pool. -/
def smallStore : SessionStore where
  pending := { capacity := 2, ttl := .whole 60 }
  authenticated := { capacity := 2, ttl := .whole 60 }
  ids := { given := ["first", "second", "third", "fourth"] }

/-- Of two sessions the first is touched at 20, and only the other one after that.  It is found
until 80 and not from then on, nor after it was renewed. -/
theorem idle_timeout_small :
    let y := run ⟨smallStore, .whole 0⟩ [.create, .create, .tick (.whole 20)]
    let z := y.after (.get "first")
    y.touch? (.get "first") = some (.pending, 0) ∧
      ((z.run [.get "second", .tick (.whole 79)]).store.get (.whole 79) "first").1 =
        .ok (some 0) ∧
      ((z.run [.tick (.whole 80), .create, .tick (.whole 90)]).store.get (.whole 90) "first").1 =
        .ok none ∧
      ((z.run [.renew 0, .create]).store.get (.whole 20) "first").1 = .ok none := by
  intro y z
  have made : SessionStore.make (.whole 60) 2
      { given := ["first", "second", "third", "fourth"] } = .ok smallStore := rfl
  have touch : y.touch? (.get "first") = some (.pending, 0) := by decide +kernel
  have once : ∀ post more, ((z.run post).run more).store.issuedIds.Nodup →
      ((z.run post).run more).store.issuedIds[0]? = some (z.store.idOf 0) →
      ((z.run post).run more).store.IssuedOnce (z.store.idOf 0) 0 :=
    fun _ _ nodup first => .of_nodup nodup first
  refine ⟨touch, ?looked, ?idle, ?renewed⟩
  case looked =>
    obtain ⟨e, time, found, -⟩ := idle_timeout [.create, .create, .tick (.whole 20)]
      [.get "second", .tick (.whole 79)] [] (.get "first") made ⟨rfl, rfl, trivial⟩ touch
      (once [.get "second", .tick (.whole 79)] [] (by decide +kernel) (by decide +kernel))
    obtain rfl : .whole 80 = e := Except.ok.inj time
    refine found (fun b => by cases b <;> decide +kernel) (by decide +kernel) (by decide +kernel)
      (by decide +kernel) fun t ht => ?_
    obtain rfl : t = .whole 79 := by simpa using ht
    exact ⟨_, rfl⟩
  case idle =>
    obtain ⟨e, time, -, gone⟩ := idle_timeout [.create, .create, .tick (.whole 20)]
      [.tick (.whole 80)] [.create, .tick (.whole 90)] (.get "first") made
      ⟨rfl, rfl, rfl, trivial⟩ touch
      (once [.tick (.whole 80)] [.create, .tick (.whole 90)] (by decide +kernel)
        (by decide +kernel))
    obtain rfl : .whole 80 = e := Except.ok.inj time
    exact gone (.inr ⟨fun b => by cases b <;> decide +kernel, by decide +kernel⟩)
  case renewed =>
    obtain ⟨e, -, -, gone⟩ := idle_timeout [.create, .create, .tick (.whole 20)] [.renew 0]
      [.create] (.get "first") made ⟨rfl, trivial⟩ touch
      (once [.renew 0] [.create] (by decide +kernel) (by decide +kernel))
    have gone := gone (.inl (by decide +kernel))
    rwa [show ((z.run [.renew 0]).run [.create]).now = .whole 20 by decide +kernel,
      show z.store.idOf 0 = "first" by decide +kernel] at gone

/-- Where a lease is too long for a double, and set by whole seconds, a look by a double breaks off
though the lease lasts. -/
theorem idle_timeout_untold :
    ¬ ∀ (ttl : Seconds) (capacity : Int) (ids : Supply) (s : SessionStore) (now e : Instant)
      (pre post : List Use) (c : Use) (name : PoolName) (n : Serial),
      SessionStore.make ttl capacity ids = .ok s → 0 < capacity →
      (Seconds.whole 0).isBefore ttl = true → Forward now (pre ++ c :: post) →
      (run ⟨s, now⟩ pre).touch? c = some (name, n) →
      (run ⟨s, now⟩ (pre ++ c :: post)).store.issuedIds.Nodup →
      (run ⟨s, now⟩ pre).now.add ttl = .ok e →
      (∀ b, n ∉ ((run ⟨s, now⟩ pre).after c).touched b post) →
      ((run ⟨s, now⟩ pre).after c).drops n post = false →
      (run ⟨s, now⟩ (pre ++ c :: post)).now.isBefore e = true →
      (((run ⟨s, now⟩ pre).after c).touched name post).toFinset.card < capacity →
      ((run ⟨s, now⟩ (pre ++ c :: post)).store.get (run ⟨s, now⟩ (pre ++ c :: post)).now
        (((run ⟨s, now⟩ pre).after c).store.idOf n)).1 = .ok (some n) := by
  intro claim
  have found := claim (.whole (10 ^ 400)) 2 { given := ["first"] } _ (.whole 5)
    (.whole (10 ^ 400 + 5)) [] [.tick (.real (.nearest false 13 2))] .create .pending 0 rfl
    (by decide) (by decide +kernel) ⟨by decide +kernel, trivial⟩ (by decide +kernel)
    (by decide +kernel) (by decide +kernel) (fun b => by cases b <;> decide +kernel)
    (by decide +kernel) (by decide +kernel) (by decide +kernel)
  exact absurd found (by decide +kernel)

end Desk
end LoginGate
