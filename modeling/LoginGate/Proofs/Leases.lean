/-
# What the store does to its leases

Every operation of the store keeps the ids of the sessions issued before it, and every lease after
it is one of a new session or goes back to a lease of the same session: the same lease, or one that
was live and was set again.  So a session that is live after an operation was live before it.

| operation | sessions | leases |
| --- | --- | --- |
| `modify` | one changed | kept |
| `get` | kept | a live one set again |
| `create` | a new one | one for it |
| `renew` | a new one | one for it, the live one of the old id gone |
-/

import LoginGate.Proofs.Names
import LoginGate.Session.Store
import Mathlib.Data.List.Nodup
import Mathlib.Algebra.Order.Ring.Int
import Mathlib.Tactic.Ring

namespace LoginGate
namespace Seconds

/-- The denominator of an exact number of seconds is positive. -/
theorem ratio?_pos {s : Seconds} {n : Int} {k : Nat} (h : s.ratio? = some (n, k)) : 0 < k := by
  cases s with
  | whole m =>
    obtain ⟨-, rfl⟩ := Prod.mk.inj (Option.some.inj h)
    exact Nat.one_pos
  | real d =>
    cases d with
    | nan => cases h
    | infinite negative => cases h
    | finite negative m e =>
      simp only [ratio?, Double.ratio?, Option.some.injEq] at h
      split at h <;> obtain ⟨-, rfl⟩ := Prod.mk.inj h
      · exact Nat.one_pos
      · exact Nat.pow_pos Nat.two_pos

/-- The first number of seconds is the second or smaller; never of what is no number. -/
def atMost (s t : Seconds) : Bool :=
  match s.ratio?, t.ratio? with
  | some (m, j), some (n, k) => m * k ≤ n * j
  | none, none => s.isBefore t || (s == t && s != .real .nan)
  | _, _ => s.isBefore t

/-- What is before a later time is before every time that is no later than that. -/
theorem isBefore_of_atMost {s t u : Seconds} (h : s.atMost t = true)
    (before : t.isBefore u = true) : s.isBefore u = true := by
  simp only [atMost, isBefore] at h before ⊢
  cases hs : s.ratio? with
  | none => cases ht : t.ratio? <;> cases hu : u.ratio? <;> grind
  | some p =>
    obtain ⟨m, j⟩ := p
    cases ht : t.ratio? with
    | none => cases hu : u.ratio? <;> grind
    | some p =>
      obtain ⟨n, k⟩ := p
      cases hu : u.ratio? with
      | none => grind
      | some p =>
        obtain ⟨l, i⟩ := p
        simp only [hs, ht, hu, decide_eq_true_eq] at h before ⊢
        have hj : (0 : Int) < j := Int.natCast_pos.2 (ratio?_pos hs)
        have hk : (0 : Int) < k := Int.natCast_pos.2 (ratio?_pos ht)
        have key : m * i * k < l * j * k :=
          calc m * i * k = m * k * i := by ring
            _ ≤ n * j * i := Int.mul_le_mul_of_nonneg_right h (Int.natCast_nonneg i)
            _ = n * i * j := by ring
            _ < l * k * j := Int.mul_lt_mul_of_pos_right before hj
            _ = l * j * k := by ring
        exact lt_of_mul_lt_mul_right key hk.le

end Seconds

namespace SessionStore

/-- The ids of all sessions ever issued. -/
def issuedIds (s : SessionStore) : List String :=
  s.sessions.map Session.id

/-- The leases of both pools. -/
def leases (s : SessionStore) : List Lease :=
  s.authenticated.leases ++ s.pending.leases

/-- A lease is kept under the id of its session. -/
def Files (s : SessionStore) (l : Lease) : Prop :=
  s.issuedIds[l.serial]? = some l.id

/-- Every lease is kept under the id of its session. -/
def Named (s : SessionStore) : Prop :=
  ∀ l ∈ s.leases, s.Files l

/-- No session has leases in both pools. -/
def Apart (s : SessionStore) : Prop :=
  ∀ a b, a ≠ b → ∀ l ∈ (s.pool a).leases, ∀ k ∈ (s.pool b).leases, l.serial ≠ k.serial

/-- A lease goes back to one of the store: the same one, or one that was live and was set again. -/
def Continues (s : SessionStore) (now : Instant) (l : Lease) : Prop :=
  ∃ k ∈ s.leases, k.id = l.id ∧ k.serial = l.serial ∧
    (k.expires = l.expires ∨ k.isLive now = true)

/-- The store after operations at a time: the sessions issued before keep their ids, and every lease
is one of a new session or goes back to a lease of the store before.  The pools are as they were set
up. -/
structure Evolves (now : Instant) (s t : SessionStore) : Prop where
  ids : s.issuedIds <+: t.issuedIds
  leases : ∀ l ∈ t.leases, s.Continues now l ∨ s.sessions.length ≤ l.serial ∧ t.Files l
  pools : ∀ name, (t.pool name).capacity = (s.pool name).capacity ∧
    (t.pool name).ttl = (s.pool name).ttl
  series : t.ids.series = s.ids.series
  apart : s.Named → s.Apart → t.Apart

variable {s t u : SessionStore} {now : Instant} {id : String} {n : Serial} {name : PoolName}

/-- The pools of a store that was just set up are empty. -/
theorem pool_of_make {ttl : Seconds} {capacity : Int} {ids : Supply}
    (made : make ttl capacity ids = .ok s) (name : PoolName) :
    s.pool name = { capacity := capacity.toNat, ttl } ∧ 0 ≤ capacity ∧ s.ids = ids := by
  unfold make at made
  split at made
  · cases made
  · rename_i natural
    rw [← Except.ok.inj made]
    cases name <;> exact ⟨rfl, Int.not_lt.1 natural, rfl⟩

/-- There is one id to each session ever issued. -/
theorem length_issuedIds (s : SessionStore) : s.issuedIds.length = s.sessions.length :=
  List.length_map _

/-- The id that stands at a serial among the issued ones is the id of its session. -/
theorem idOf_of_issued (h : s.issuedIds[n]? = some id) : s.idOf n = id := by
  rw [issuedIds, List.getElem?_map] at h
  rw [idOf, session?, h, Option.getD_some]

/-- The id of a session that was issued stands at its serial. -/
theorem getElem?_issuedIds (old : n < s.sessions.length) : s.issuedIds[n]? = some (s.idOf n) := by
  rw [issuedIds, List.getElem?_map, idOf, session?, List.getElem?_eq_getElem old]
  rfl

/-- The id of a session that was issued before stays. -/
theorem issued_mono (ids : s.issuedIds <+: t.issuedIds) (h : s.issuedIds[n]? = some id) :
    t.issuedIds[n]? = some id := by
  obtain ⟨more, hm⟩ := ids
  rw [← hm, List.getElem?_append_left (List.getElem?_eq_some_iff.1 h).1]
  exact h

/-- A lease stays under the id of its session while ids are only added. -/
theorem Files.mono {l : Lease} (h : s.Files l) (ids : s.issuedIds <+: t.issuedIds) : t.Files l :=
  issued_mono ids h

/-- A lease of the store goes back to itself. -/
theorem continues_of_mem {l : Lease} (h : l ∈ s.leases) : s.Continues now l :=
  ⟨l, h, rfl, rfl, .inl rfl⟩

/-- Every lease stays in its pool, or goes. -/
theorem Apart.of_serials (apart : s.Apart)
    (h : ∀ a, ∀ l ∈ (t.pool a).leases, ∃ k ∈ (s.pool a).leases, k.serial = l.serial) : t.Apart := by
  intro a b ne l hl k hk
  obtain ⟨i, hi, same⟩ := h a l hl
  obtain ⟨j, hj, same'⟩ := h b k hk
  rw [← same, ← same']
  exact apart a b ne i hi j hj

/-- Where leases are kept under the ids of their sessions, each of them has a session. -/
theorem lt_of_named {l : Lease} (named : s.Named) (h : l ∈ s.leases) :
    l.serial < s.sessions.length := by
  rw [← length_issuedIds]
  exact (List.getElem?_eq_some_iff.1 (named l h)).1

/-- Operations keep every lease under the id of its session. -/
theorem Named.evolves (h : s.Named) (e : s.Evolves now t) : t.Named := by
  intro l hl
  obtain ⟨k, hk, hid, hserial, -⟩ | ⟨-, files⟩ := e.leases l hl
  · have files : t.Files k := (h k hk).mono e.ids
    rwa [Files, hid, hserial] at files
  · exact files

namespace Evolves

/-- Nothing happened. -/
theorem refl (now : Instant) (s : SessionStore) : s.Evolves now s :=
  ⟨List.prefix_rfl, fun _ h => .inl (continues_of_mem h), fun _ => ⟨rfl, rfl⟩, rfl, fun _ h => h⟩

/-- Sessions are only added. -/
theorem length_le (h : s.Evolves now t) : s.sessions.length ≤ t.sessions.length := by
  simpa only [length_issuedIds] using h.ids.length_le

/-- Operations at one time, one after the other, are operations at that time. -/
theorem trans (h : s.Evolves now t) (h' : t.Evolves now u) : s.Evolves now u := by
  refine ⟨h.ids.trans h'.ids, fun l hl => ?_, fun name => ?_, h'.series.trans h.series,
    fun named apart => h'.apart (named.evolves h) (h.apart named apart)⟩
  · obtain ⟨k, hk, hid, hserial, live⟩ | ⟨new, files⟩ := h'.leases l hl
    · obtain ⟨j, hj, hid', hserial', live'⟩ | ⟨new, files⟩ := h.leases k hk
      · -- Set again in either operation, the lease was live at that time.
        refine .inl ⟨j, hj, hid'.trans hid, hserial'.trans hserial, ?_⟩
        cases live' with
        | inr live' => exact .inr live'
        | inl same =>
          cases live with
          | inl same' => exact .inl (same.trans same')
          | inr live => exact .inr (by rw [Lease.isLive, same]; exact live)
      · have files : u.Files k := files.mono h'.ids
        rw [Files, hid, hserial] at files
        exact .inr ⟨hserial ▸ new, files⟩
    · exact .inr ⟨h.length_le.trans new, files⟩
  · exact ⟨(h'.pools name).1.trans (h.pools name).1, (h'.pools name).2.trans (h.pools name).2⟩

end Evolves

/-! ## Finding a session -/

/-- The lease that an id finds is live, is the one of that id and stands in the pool that is
named. -/
theorem mem_leases_of_holder? {l : Lease} (h : s.holder? now id = some (name, l)) :
    l ∈ (s.pool name).leases ∧ l.isLive now = true ∧ l.id = id := by
  unfold holder? at h
  cases ha : s.authenticated.live? now id with
  | some k =>
    simp only [ha, Option.some.injEq, Prod.mk.injEq] at h
    obtain ⟨rfl, rfl⟩ := h
    have := List.mem_of_find?_eq_some ha
    have := List.find?_some ha
    simp_all [Pool.live, pool]
  | none =>
    simp only [ha, Option.map_eq_some_iff, Prod.mk.injEq] at h
    obtain ⟨k, hp, rfl, rfl⟩ := h
    have := List.mem_of_find?_eq_some hp
    have := List.find?_some hp
    simp_all [Pool.live, pool]

/-- The leases of each pool are leases of the store. -/
theorem mem_leases_of_mem_pool {l : Lease} (h : l ∈ (s.pool name).leases) : l ∈ s.leases := by
  cases name with
  | authenticated => exact List.mem_append_left _ h
  | pending => exact List.mem_append_right _ h

/-- Every lease of the store is in one of the pools. -/
theorem exists_pool_of_mem_leases {l : Lease} (h : l ∈ s.leases) :
    ∃ name, l ∈ (s.pool name).leases := by
  obtain h | h := List.mem_append.1 h
  · exact ⟨.authenticated, h⟩
  · exact ⟨.pending, h⟩

/-- A pool that was replaced is the new one. -/
theorem pool_withPool_self (s : SessionStore) (name : PoolName) (p : Pool) :
    (s.withPool name p).pool name = p := by
  cases name <;> rfl

/-- The pool that was not replaced is the old one. -/
theorem pool_withPool_of_ne {a : PoolName} (h : a ≠ name) (p : Pool) :
    (s.withPool name p).pool a = s.pool a := by
  cases a <;> cases name <;> first | rfl | exact absurd rfl h

/-- Replacing a pool issues no id. -/
theorem issuedIds_withPool (s : SessionStore) (name : PoolName) (p : Pool) :
    (s.withPool name p).issuedIds = s.issuedIds := by
  cases name <;> rfl

/-- Replacing a pool draws no id. -/
theorem ids_withPool (s : SessionStore) (name : PoolName) (p : Pool) :
    (s.withPool name p).ids = s.ids := by
  cases name <;> rfl

/-- Replacing a pool leaves the sessions as they are. -/
theorem sessions_withPool (s : SessionStore) (name : PoolName) (p : Pool) :
    (s.withPool name p).sessions = s.sessions := by
  cases name <;> rfl

/-- An id finds the session of a live lease under it. -/
theorem exists_of_find? (h : s.find? now id = some n) :
    ∃ l ∈ s.leases, l.isLive now = true ∧ l.id = id ∧ l.serial = n := by
  obtain ⟨⟨name, l⟩, hl, rfl⟩ := Option.map_eq_some_iff.1 h
  obtain ⟨mem, live, rfl⟩ := mem_leases_of_holder? hl
  exact ⟨l, mem_leases_of_mem_pool mem, live, rfl, rfl⟩

/-- A live session stands under its own id. -/
theorem Named.of_find? (named : s.Named) (h : s.find? now id = some n) :
    s.issuedIds[n]? = some id := by
  obtain ⟨l, hl, -, rfl, rfl⟩ := exists_of_find? h
  exact named l hl

/-- The id of a live lease finds a session: this one, or the one of the same id in the other
pool. -/
theorem exists_find? {l : Lease} (hl : l ∈ s.leases) (live : l.isLive now = true) :
    ∃ n, s.find? now l.id = some n := by
  have live? : ∀ p : Pool, l ∈ p.leases → (p.live? now l.id).isSome := fun p h =>
    List.find?_isSome.2 ⟨l, List.mem_filter.2 ⟨h, live⟩, by simp⟩
  unfold find? holder?
  cases ha : s.authenticated.live? now l.id with
  | some k => exact ⟨_, rfl⟩
  | none =>
    obtain h | h := List.mem_append.1 hl
    · simpa [ha] using live? _ h
    · obtain ⟨k, hk⟩ := Option.isSome_iff_exists.1 (live? _ h)
      exact ⟨k.serial, by simp [hk]⟩

/-- **Where no id was issued twice,** the session of a live lease is the one that its id finds. -/
theorem find?_of_live {l : Lease} (named : s.Named) (nodup : s.issuedIds.Nodup) (hl : l ∈ s.leases)
    (live : l.isLive now = true) : s.find? now l.id = some l.serial := by
  obtain ⟨n, hn⟩ := exists_find? hl live
  have hlt : n < s.issuedIds.length := (List.getElem?_eq_some_iff.1 (named.of_find? hn)).1
  have : n = l.serial :=
    (List.getElem?_inj hlt nodup).1 ((named.of_find? hn).trans (named l hl).symm)
  rw [hn, this]

/-- **A session that is live after operations was live before them,** unless it is new. -/
theorem Evolves.find?_before (e : s.Evolves now t) (named : s.Named) (nodup : s.issuedIds.Nodup)
    (old : n < s.sessions.length) (h : t.find? now id = some n) : s.find? now id = some n := by
  obtain ⟨l, hl, live, rfl, rfl⟩ := exists_of_find? h
  obtain ⟨k, hk, hid, hserial, same | live'⟩ | ⟨new, -⟩ := e.leases l hl
  · rw [← hid, ← hserial]
    exact find?_of_live named nodup hk (by rw [Lease.isLive, same]; exact live)
  · rw [← hid, ← hserial]
    exact find?_of_live named nodup hk live'
  · exact absurd new (Nat.not_le.2 old)

/-- A session that is live was live at any time before that. -/
theorem find?_earlier {later : Instant} (named : s.Named) (nodup : s.issuedIds.Nodup)
    (time : now.atMost later = true) (h : s.find? later id = some n) :
    s.find? now id = some n := by
  obtain ⟨l, hl, live, rfl, rfl⟩ := exists_of_find? h
  exact find?_of_live named nodup hl (Seconds.isBefore_of_atMost time live)

/-! ## The operations -/

/-- Changing a session, but not its id, is an operation. -/
theorem modify_evolves {f : Session → Session}
    (h : ∀ a, s.session? n = some a → (f a).id = a.id) : s.Evolves now (s.modify n f) := by
  have same : (s.modify n f).issuedIds = s.issuedIds := by
    refine List.ext_getElem? fun i => ?_
    simp only [issuedIds, modify, List.getElem?_map, List.getElem?_modify]
    cases ha : s.sessions[i]? with
    | none => rfl
    | some a =>
      by_cases hi : n = i
      · subst hi
        simp [h a ha]
      · simp [hi]
  have pools : ∀ name, (s.modify n f).pool name = s.pool name := by
    intro name
    cases name <;> rfl
  exact ⟨same ▸ List.prefix_rfl, fun _ hl => .inl (continues_of_mem hl),
    fun name => by rw [pools name]; exact ⟨rfl, rfl⟩, rfl,
    fun _ apart => apart.of_serials fun a l hl => ⟨l, pools a ▸ hl, rfl⟩⟩

/-- An operation on one pool whose leases all go back to one of the pool. -/
theorem withPool_evolves {p : Pool} (capacity : p.capacity = (s.pool name).capacity)
    (ttl : p.ttl = (s.pool name).ttl)
    (h : ∀ l ∈ p.leases, ∃ k ∈ (s.pool name).leases, k.id = l.id ∧ k.serial = l.serial ∧
      (k.expires = l.expires ∨ k.isLive now = true)) : s.Evolves now (s.withPool name p) := by
  have back : ∀ a, ∀ l ∈ ((s.withPool name p).pool a).leases, ∃ k ∈ (s.pool a).leases,
      k.id = l.id ∧ k.serial = l.serial ∧ (k.expires = l.expires ∨ k.isLive now = true) := by
    intro a l hl
    by_cases same : a = name
    · subst same
      rw [pool_withPool_self] at hl
      exact h l hl
    · rw [pool_withPool_of_ne same] at hl
      exact ⟨l, hl, rfl, rfl, .inl rfl⟩
  refine ⟨(issuedIds_withPool ..) ▸ List.prefix_rfl, fun l hl => .inl ?_, fun a => ?_,
    congrArg Supply.series (ids_withPool ..), fun _ apart => apart.of_serials fun a l hl => ?_⟩
  · obtain ⟨a, hl⟩ := exists_pool_of_mem_leases hl
    obtain ⟨k, hk, rest⟩ := back a l hl
    exact ⟨k, mem_leases_of_mem_pool hk, rest⟩
  · by_cases same : a = name
    · subst same
      rw [pool_withPool_self]
      exact ⟨capacity, ttl⟩
    · rw [pool_withPool_of_ne same]
      exact ⟨rfl, rfl⟩
  · obtain ⟨k, hk, -, serial, -⟩ := back a l hl
    exact ⟨k, hk, serial⟩

/-- **A lease that is set** is of full length; every other lease of its pool was there before, under
another id. -/
theorem set_eq_ok {log : List LogRecord} (h : s.set now name id n = .ok (t, log)) :
    ∃ expires p, now.add (s.pool name).ttl = .ok expires ∧ (s.pool name).capacity ≠ 0 ∧
      t = s.withPool name p ∧ p.capacity = (s.pool name).capacity ∧ p.ttl = (s.pool name).ttl ∧
      ∀ l ∈ p.leases, l.id = id ∧ l.serial = n ∧ l.expires = expires ∨
        l.id ≠ id ∧ l ∈ (s.pool name).leases := by
  unfold set Pool.set at h
  cases time : now.add (s.pool name).ttl with
  | error fault => simp [time] at h
  | ok expires =>
    by_cases room : (s.pool name).capacity = 0
    · simp [time, room] at h
    · simp only [time, room, if_false, Except.ok.injEq, Prod.mk.injEq] at h
      obtain ⟨rfl, -⟩ := h
      refine ⟨expires, _, rfl, room, rfl, rfl, rfl, fun l hl => ?_⟩
      obtain hl | hl := List.mem_append.1 hl
      · obtain ⟨old, kept⟩ := List.mem_filter.1 hl
        exact .inr ⟨(of_decide_eq_true kept).1, List.dropWhile_subset _ old⟩
      · obtain rfl := List.mem_singleton.1 hl
        exact .inl ⟨rfl, rfl, rfl⟩

/-- Setting a lease leaves the sessions as they are. -/
theorem sessions_of_set {log : List LogRecord} (h : s.set now name id n = .ok (t, log)) :
    t.sessions = s.sessions := by
  obtain ⟨-, p, -, -, rfl, -⟩ := set_eq_ok h
  exact sessions_withPool ..

/-- Looking for a session leaves the sessions as they are. -/
theorem sessions_get (s : SessionStore) (now : Instant) (id : String) :
    (s.get now id).2.sessions = s.sessions := by
  unfold get
  cases s.holder? now id with
  | none => rfl
  | some found =>
    obtain ⟨name, l⟩ := found
    dsimp only
    cases h : s.set now name id l.serial with
    | error fault => exact sessions_withPool ..
    | ok r => exact sessions_of_set h

/-- Looking for a session is an operation, found or not. -/
theorem get_evolves (s : SessionStore) (now : Instant) (id : String) :
    s.Evolves now (s.get now id).2 := by
  unfold get
  cases hh : s.holder? now id with
  | none => exact .refl now s
  | some found =>
    obtain ⟨name, l⟩ := found
    obtain ⟨mem, live, hid⟩ := mem_leases_of_holder? hh
    dsimp only
    cases h : s.set now name id l.serial with
    | error fault =>
      refine withPool_evolves rfl rfl fun k hk => ?_
      obtain ⟨j, hj, rfl⟩ := List.mem_map.1 hk
      refine ⟨j, hj, ?_⟩
      split <;> exact ⟨rfl, rfl, .inl rfl⟩
    | ok r =>
      obtain ⟨t, log⟩ := r
      obtain ⟨expires, p, -, -, rfl, capacity, ttl, leases⟩ := set_eq_ok h
      refine withPool_evolves capacity ttl fun k hk => ?_
      obtain ⟨hid', hserial, -⟩ | ⟨-, hk⟩ := leases k hk
      · exact ⟨l, mem, hid.trans hid'.symm, hserial.symm, .inr live⟩
      · exact ⟨k, hk, rfl, rfl, .inl rfl⟩

/-- A session that was looked for and found is the one that the id finds. -/
theorem find?_of_get (h : (s.get now id).1 = .ok (some n)) : s.find? now id = some n := by
  unfold get at h
  unfold find?
  cases hh : s.holder? now id with
  | none => simp [hh] at h
  | some found =>
    obtain ⟨name, l⟩ := found
    simp only [hh] at h
    split at h
    · simp at h
    · simpa using h

/-- A live session is found, unless its lease cannot be set again. -/
theorem get_of_find? (h : s.find? now id = some n) :
    (s.get now id).1 = .ok (some n) ∨ ∃ fault, (s.get now id).1 = .error fault := by
  unfold get
  obtain ⟨⟨name, l⟩, hh, rfl⟩ := Option.map_eq_some_iff.1 h
  simp only [hh]
  split
  · exact .inr ⟨_, rfl⟩
  · exact .inl rfl

/-- A session that is found has its lease set again. -/
theorem set_of_get (h : (s.get now id).1 = .ok (some n)) :
    ∃ name expires, now.add (s.pool name).ttl = .ok expires ∧ (s.pool name).capacity ≠ 0 := by
  unfold get at h
  cases hh : s.holder? now id with
  | none => simp [hh] at h
  | some found =>
    obtain ⟨name, l⟩ := found
    simp only [hh] at h
    split at h
    · simp at h
    · rename_i set
      obtain ⟨expires, -, time, room, -⟩ := set_eq_ok set
      exact ⟨name, expires, time, room⟩

/-- What issuing a session with the attributes `a` does to the sessions: it is the last one, or an
empty one is, where the pool takes nothing. -/
inductive Issues (s : SessionStore) (a : Session) (i : Issue) : Prop
  | issued {id : String} (result : i.result = .ok s.sessions.length)
      (sessions : i.store.sessions = s.sessions ++ [a.withId id])
  | refused {id : String} {fault : CapacityFault} (result : i.result = .error fault)
      (sessions : i.store.sessions = s.sessions ++ [({ id } : Session)])

/-- Issuing a session adds one, in a pool or none. -/
theorem issue_issues (s : SessionStore) (now : Instant) (name : PoolName) (a : Session) :
    s.Issues a (s.issue now name a) := by
  unfold issue
  dsimp only
  split
  · exact .refused rfl rfl
  · rename_i h
    exact .issued rfl (sessions_of_set h)

/-- Issuing a session uses up the id that is drawn, also where the pool takes nothing. -/
theorem issuedIds_issue (s : SessionStore) (now : Instant) (name : PoolName) (a : Session) :
    (s.issue now name a).store.issuedIds =
      s.issuedIds ++ [(s.ids.drawFree (s.liveIds now)).1] := by
  unfold issue
  dsimp only
  split
  · simp [issuedIds, Session.withId]
  · rename_i set
    rw [issuedIds, sessions_of_set set, List.map_append]
    rfl

section Append

variable {b : Session} (sessions : u.sessions = s.sessions ++ [b])
  (series : u.ids.series = s.ids.series) (pools : ∀ a, u.pool a = s.pool a)
include sessions series pools

/-- A store with a session more that is in no pool. -/
theorem append_evolves : s.Evolves now u := by
  refine ⟨by simp [issuedIds, sessions], fun l hl => .inl ?_, fun a => ?_, series,
    fun _ apart => apart.of_serials fun a l hl => ⟨l, pools a ▸ hl, rfl⟩⟩
  · obtain ⟨a, hl⟩ := exists_pool_of_mem_leases hl
    exact continues_of_mem (mem_leases_of_mem_pool (pools a ▸ hl))
  · rw [pools a]
    exact ⟨rfl, rfl⟩

/-- A store with a session more that is in one of the pools. -/
theorem append_withPool_evolves {p : Pool} (capacity : p.capacity = (u.pool name).capacity)
    (ttl : p.ttl = (u.pool name).ttl)
    (leases : ∀ l ∈ p.leases, l.id = b.id ∧ l.serial = s.sessions.length ∨
      l ∈ (u.pool name).leases) : s.Evolves now (u.withPool name p) := by
  have back : ∀ a, ∀ l ∈ ((u.withPool name p).pool a).leases,
      a = name ∧ l.id = b.id ∧ l.serial = s.sessions.length ∨ l ∈ (s.pool a).leases := by
    intro a l hl
    by_cases same : a = name
    · subst same
      rw [pool_withPool_self] at hl
      obtain ⟨hid, hserial⟩ | old := leases l hl
      · exact .inl ⟨rfl, hid, hserial⟩
      · exact .inr (pools a ▸ old)
    · rw [pool_withPool_of_ne same] at hl
      exact .inr (pools a ▸ hl)
  have appended : (u.withPool name p).sessions = s.sessions ++ [b] :=
    (sessions_withPool ..).trans sessions
  refine ⟨by simp [issuedIds, appended], fun l hl => ?_, fun a => ?_,
    (congrArg Supply.series (ids_withPool ..)).trans series, fun named apart a c ne l hl k hk => ?_⟩
  · obtain ⟨a, hl⟩ := exists_pool_of_mem_leases hl
    obtain ⟨-, hid, hserial⟩ | old := back a l hl
    · refine .inr ⟨hserial ▸ le_rfl, ?_⟩
      simp [Files, issuedIds, appended, hid, hserial]
    · exact .inl (continues_of_mem (mem_leases_of_mem_pool old))
  · by_cases same : a = name
    · subst same
      rw [pool_withPool_self, capacity, ttl, pools a]
      exact ⟨rfl, rfl⟩
    · rw [pool_withPool_of_ne same, pools a]
      exact ⟨rfl, rfl⟩
  · -- The serial of the new session is that of no lease before.
    obtain ⟨ha, -, hserial⟩ | hl := back a l hl
    · obtain ⟨hc, -⟩ | hk := back c k hk
      · exact absurd (ha.trans hc.symm) ne
      · exact (hserial ▸ lt_of_named named (mem_leases_of_mem_pool hk)).ne'
    · obtain ⟨-, -, hserial⟩ | hk := back c k hk
      · exact (hserial ▸ lt_of_named named (mem_leases_of_mem_pool hl)).ne
      · exact apart a c ne l hl k hk

end Append

/-- Issuing a session is an operation. -/
theorem issue_evolves (s : SessionStore) (now : Instant) (name : PoolName) (a : Session) :
    s.Evolves now (s.issue now name a).store := by
  unfold issue
  dsimp only
  have series := Supply.drawFree_series s.ids (s.liveIds now)
  split
  · exact append_evolves rfl series fun a => by cases a <;> rfl
  · rename_i h
    obtain ⟨expires, p, -, -, rfl, capacity, ttl, leases⟩ := set_eq_ok h
    refine append_withPool_evolves rfl series (fun a => by cases a <;> rfl) capacity ttl
      fun l hl => ?_
    obtain ⟨hid, hserial, -⟩ | ⟨-, old⟩ := leases l hl
    · exact .inl ⟨hid, hserial⟩
    · exact .inr old

/-- Invalidating an id is an operation. -/
theorem invalidate_evolves (s : SessionStore) (now : Instant) (id : String) :
    s.Evolves now (s.invalidate now id).1 := by
  unfold invalidate
  split
  · exact .refl now s
  · exact withPool_evolves rfl rfl fun l hl => ⟨l, (List.mem_filter.1 hl).1, rfl, rfl, .inl rfl⟩

/-- Invalidating an id leaves the sessions as they are, without a lease or with one. -/
theorem sessions_invalidate (s : SessionStore) (now : Instant) (id : String) :
    (s.invalidate now id).1.sessions = s.sessions := by
  unfold invalidate
  split
  · rfl
  · exact sessions_withPool ..

/-- A new session is issued empty. -/
theorem create_issues (s : SessionStore) (now : Instant) :
    s.Issues { id := "" } (s.create now) := by
  have h := s.issue_issues now .pending { id := "" }
  unfold create
  dsimp only
  split
  · exact h
  · obtain ⟨result, sessions⟩ | ⟨result, sessions⟩ := h
    · exact .issued (by simp_all) sessions
    · simp_all

/-- A new session is the last one, under the id that was drawn for it. -/
theorem issuedIds_create (s : SessionStore) (now : Instant) :
    (s.create now).store.issuedIds = s.issuedIds ++ [(s.ids.drawFree (s.liveIds now)).1] := by
  rw [← s.issuedIds_issue now .pending { id := "" }]
  unfold create
  dsimp only
  split <;> rfl

/-- Creating a session is an operation. -/
theorem create_evolves (s : SessionStore) (now : Instant) :
    s.Evolves now (s.create now).store := by
  have h := s.issue_evolves now .pending { id := "" }
  unfold create
  dsimp only
  split <;> exact h

/-- A renewal issues a session that holds what the old one held. -/
theorem renew_issues (s : SessionStore) (now : Instant) (n : Serial) :
    s.Issues ((s.session? n).getD { id := "" }) (s.renew now n) := by
  have h := s.issue_issues now .authenticated ((s.session? n).getD { id := "" })
  unfold renew
  dsimp only
  split
  · exact h
  · obtain ⟨result, sessions⟩ | ⟨result, sessions⟩ := h
    · exact .issued (by simp_all) ((sessions_invalidate ..).trans sessions)
    · simp_all

/-- The session of a renewal is the last one, under the id that was drawn for it. -/
theorem issuedIds_renew (s : SessionStore) (now : Instant) (n : Serial) :
    (s.renew now n).store.issuedIds = s.issuedIds ++ [(s.ids.drawFree (s.liveIds now)).1] := by
  rw [← s.issuedIds_issue now .authenticated ((s.session? n).getD { id := "" })]
  unfold renew
  dsimp only
  split
  · rfl
  · rw [issuedIds, sessions_invalidate, issuedIds]

/-- Renewing a session is an operation. -/
theorem renew_evolves (s : SessionStore) (now : Instant) (n : Serial) :
    s.Evolves now (s.renew now n).store := by
  have h := s.issue_evolves now .authenticated ((s.session? n).getD { id := "" })
  unfold renew
  dsimp only
  split
  · exact h
  · exact h.trans (invalidate_evolves ..)

end SessionStore
end LoginGate
