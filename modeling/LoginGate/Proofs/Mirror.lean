/-
# A store with some of the sessions of another

`Mirrors` relates two stores: the second has the sessions of the first that stand at certain
serials, in that order, and nothing else.  Which leases they have is left open.  Whatever is done to
a session in the first store and to the one at its place in the second keeps the relation, and so
does issuing the same session in both.

| operation | ends in both |
| --- | --- |
| `get` | with the session at the place, or without one, or refused |
| `create`, `renew` | with the next session, or refused |

Whether a pool takes a lease depends on its size and on the time alone, so it takes one in both
stores or in none.
-/

import LoginGate.Proofs.Eviction

namespace LoginGate

/-! ## Pools that take no lease -/

namespace Pool

variable {p q : Pool} {now : Instant}

/-- Why a pool takes no lease at a time. -/
def refusal? (now : Instant) (p : Pool) : Option LeaseFault :=
  match now.add p.ttl with
  | .error fault => some (.clock fault)
  | .ok _ => if p.capacity = 0 then some .noRoom else none

/-- Pools of one size refuse alike. -/
theorem refusal?_congr (size : q.capacity = p.capacity ∧ q.ttl = p.ttl) (now : Instant) :
    q.refusal? now = p.refusal? now := by
  rw [refusal?, refusal?, size.1, size.2]

/-- A pool takes a lease, unless there is a reason to refuse it. -/
theorem set_cases (p : Pool) (now : Instant) (id : String) (n : Serial) :
    (p.refusal? now = none ∧ ∃ q, p.set now id n = .ok q) ∨
      ∃ fault, p.refusal? now = some fault ∧ p.set now id n = .error fault := by
  unfold set refusal?
  cases now.add p.ttl with
  | error fault => exact .inr ⟨_, rfl, rfl⟩
  | ok expires =>
    by_cases room : p.capacity = 0
    · exact .inr ⟨_, if_pos room, if_pos room⟩
    · exact .inl ⟨if_neg room, _, if_neg room⟩

end Pool

namespace SessionStore

variable {s t : SessionStore} {now : Instant} {n k : Serial} {name : PoolName} {id : String}
  {a : Session}

/-! ## What operations end with -/

/-- What issuing a session in a pool ends with. -/
def issuing (s : SessionStore) (now : Instant) (name : PoolName) : Except CapacityFault Serial :=
  match (s.pool name).refusal? now with
  | none => .ok s.sessions.length
  | some fault => .error (.lease fault)

/-- What issuing a session ends with depends on its pool alone. -/
theorem issue_result (s : SessionStore) (now : Instant) (name : PoolName) (a : Session) :
    (s.issue now name a).result = s.issuing now name := by
  unfold issue issuing SessionStore.set
  dsimp only
  rw [show SessionStore.pool _ name = s.pool name by cases name <;> rfl]
  obtain ⟨free, q, set⟩ | ⟨fault, refused, set⟩ := (s.pool name).set_cases now
    (s.ids.drawFree (s.liveIds now)).1 s.sessions.length
  · rw [set, free]
  · rw [set, refused]

/-- A new session is issued in the pending pool. -/
theorem create_result (s : SessionStore) (now : Instant) :
    (s.create now).result = s.issuing now .pending := by
  rw [← s.issue_result now .pending { id := "" }]
  unfold create
  dsimp only
  split <;> rfl

/-- A renewal issues its session in the pool of the logins. -/
theorem renew_result (s : SessionStore) (now : Instant) (n : Serial) :
    (s.renew now n).result = s.issuing now .authenticated := by
  rw [← s.issue_result now .authenticated ((s.session? n).getD { id := "" })]
  unfold renew
  dsimp only
  split
  · rfl
  · rename_i done
    exact done.symm

/-- What looking for a session ends with depends on the lease that its id finds. -/
theorem get_result (s : SessionStore) (now : Instant) (id : String) :
    (s.get now id).1 =
      match s.holder? now id with
      | none => .ok none
      | some (name, l) =>
        match (s.pool name).refusal? now with
        | none => .ok (some l.serial)
        | some fault => .error (.lease fault) := by
  unfold get
  cases s.holder? now id with
  | none => rfl
  | some found =>
    obtain ⟨name, l⟩ := found
    dsimp only
    unfold SessionStore.set
    dsimp only
    obtain ⟨free, q, set⟩ | ⟨fault, refused, set⟩ := (s.pool name).set_cases now id l.serial
    · rw [set, free]
    · rw [set, refused]

/-- A change that keeps the id of its session keeps all ids. -/
theorem issuedIds_modify {f : Session → Session} (h : ∀ a, (f a).id = a.id) :
    (s.modify n f).issuedIds = s.issuedIds := by
  have evolves : s.Evolves (.whole 0) (s.modify n f) := modify_evolves fun a _ => h a
  refine (evolves.ids.eq_of_length ?_).symm
  rw [length_issuedIds, length_issuedIds, modify, List.length_modify]

/-! ## Sessions with a lease -/

/-- The session of a serial has a lease. -/
def Leased (s : SessionStore) (n : Serial) : Prop :=
  ∃ l ∈ s.leases, l.serial = n

instance (s : SessionStore) (n : Serial) : Decidable (s.Leased n) :=
  inferInstanceAs (Decidable (∃ l ∈ s.leases, l.serial = n))

/-- Stores with the same leases lease the same sessions. -/
theorem leased_congr (h : s.Alike t) (n : Serial) : t.Leased n ↔ s.Leased n := by
  have pending : t.pending = s.pending := h.pool .pending
  have authenticated : t.authenticated = s.authenticated := h.pool .authenticated
  rw [Leased, Leased, leases, leases, pending, authenticated]

/-- A session that is found has a lease of full length. -/
theorem exists_lease_of_get (found : s.get now id = (.ok (some n), t)) :
    ∃ name, ∃ l ∈ (t.pool name).leases, l.id = id ∧ l.serial = n ∧
      now.add (s.pool name).ttl = .ok l.expires := by
  have gets := s.get_gets now id
  rw [found] at gets
  generalize done : (Except.ok (some n) : Except CapacityFault (Option Serial)) = r at gets
  cases gets with
  | absent => cases done
  | unset => cases done
  | @set name l q holder set =>
    obtain ⟨expires, time, -, -, leases⟩ := Pool.set_eq_ok set
    refine ⟨name, ⟨id, l.serial, expires, (s.pool name).uses⟩, ?_, rfl,
      (Option.some.inj (Except.ok.inj done)).symm, time⟩
    change _ ∈ ((s.withPool name q).pool name).leases
    rw [pool_withPool_self, leases]
    exact List.mem_append_right _ List.mem_cons_self

/-- A session that is issued has the one lease of its id in the pool, of full length. -/
theorem Issuing.exists_lease {i : Issue} (h : Issuing s now name i) (done : i.result = .ok n) :
    ∃ l ∈ (i.store.pool name).leases, l.serial = s.sessions.length ∧
      l.id = (s.ids.drawFree (s.liveIds now)).1 ∧ now.add (s.pool name).ttl = .ok l.expires ∧
      ∀ k ∈ (i.store.pool name).leases, k.id = l.id → k = l := by
  cases h with
  | issued result set own other =>
    obtain ⟨expires, time, -, -, leases⟩ := Pool.set_eq_ok set
    rw [own, leases]
    refine ⟨_, List.mem_append_right _ List.mem_cons_self, rfl, rfl, time, fun k hk same => ?_⟩
    obtain old | new := List.mem_append.1 hk
    · exact absurd same (of_decide_eq_true (List.mem_filter.1 old).2).1
    · exact List.mem_singleton.1 new
  | refused refused => exact absurd (refused.symm.trans done) nofun

/-- In the same pools no session has a lease that is still to be issued. -/
theorem not_leased_of_pools (named : s.Named) (same : ∀ b, t.pool b = s.pool b) :
    ¬ t.Leased s.sessions.length := by
  rintro ⟨l, hl, serial⟩
  obtain ⟨b, hl⟩ := exists_pool_of_mem_leases hl
  rw [same b] at hl
  exact absurd serial (lt_of_named named (mem_leases_of_mem_pool hl)).ne

/-- The session that is issued has a lease, unless it is refused. -/
theorem Issuing.leased_iff {i : Issue} (h : Issuing s now name i) (named : s.Named) :
    i.store.Leased s.sessions.length ↔ i.result = .ok s.sessions.length := by
  constructor
  · intro leased
    cases h with
    | issued result => exact result
    | refused _ same => exact absurd leased (not_leased_of_pools named same)
  · intro done
    obtain ⟨l, hl, serial, -⟩ := h.exists_lease done
    exact ⟨l, mem_leases_of_mem_pool hl, serial⟩

/-- In a store that calls go on in, leases are kept under the ids of their sessions and last as long
in either pool, and the series of ids never repeats. -/
structure Ready (s : SessionStore) : Prop where
  named : s.Named
  distinct : s.ids.Distinct
  ttl : ∀ a b, (s.pool a).ttl = (s.pool b).ttl

/-- A session can be renewed: were a lease set now to live, the id of the session would be live. -/
structure Renewable (s : SessionStore) (now : Instant) (n : Serial) : Prop where
  named : s.Named
  distinct : s.ids.Distinct
  held : ∀ expires, now.add s.authenticated.ttl = .ok expires → now.isBefore expires = true →
    s.idOf n ∈ s.liveIds now

/-- A session that was found can be renewed. -/
theorem Ready.renewable (h : s.Ready) (found : s.get now id = (.ok (some n), t)) :
    t.Renewable now n := by
  have evolves := s.get_evolves now id
  obtain ⟨name, l, hl, hid, serial, later⟩ := exists_lease_of_get found
  rw [found] at evolves
  refine ⟨h.named.evolves evolves, evolves.distinct h.distinct, fun expires time live => ?_⟩
  have own : t.idOf n = id := idOf_of_issued (issued_mono evolves.ids
    (h.named.of_find? (find?_of_get (congrArg Prod.fst found))))
  have ttl := (evolves.pools .authenticated).2.trans (h.ttl .authenticated name)
  obtain rfl := Except.ok.inj (later.symm.trans ((congrArg now.add ttl.symm).trans time))
  rw [own, ← hid]
  exact mem_liveIds (List.mem_filter.2 ⟨hl, live⟩)

/-- A renewed session has a lease, unless it is refused: the id that goes is not its own. -/
theorem Renewable.leased_iff (h : s.Renewable now n) :
    (s.renew now n).store.Leased s.sessions.length ↔
      (s.renew now n).result = .ok s.sessions.length := by
  have renews := s.renew_renews now n
  generalize (s.renew now n).result = r at renews ⊢
  generalize (s.renew now n).store = t at renews ⊢
  cases renews with
  | @renewed i issuing result =>
    refine iff_of_true ?_ rfl
    obtain ⟨l, new, serial, drawn, time, only⟩ := issuing.exists_lease result
    have stays : ∀ k, i.store.holder? now (s.idOf n) = some (.authenticated, k) →
        l.id ≠ s.idOf n := by
      intro k holder same
      -- The lease that goes would be the new one, and so the old id would be live.
      obtain ⟨mem, live, hid⟩ := mem_leases_of_holder? holder
      obtain rfl := only k mem (hid.trans same.symm)
      exact Supply.drawFree_not_mem h.distinct (drawn ▸ same ▸ h.held k.expires time live)
    refine ⟨l, mem_leases_of_mem_pool (?_ : l ∈ (SessionStore.pool _ .authenticated).leases),
      serial⟩
    unfold invalidate
    cases holder : i.store.holder? now (s.idOf n) with
    | none => exact new
    | some found =>
      obtain ⟨b, k⟩ := found
      cases b with
      | pending => exact new
      | authenticated => exact Pool.mem_remove new (stays k holder)
  | refused same => exact iff_of_false (not_leased_of_pools h.named same) nofun

/-- All that an operation does that issues a session, with the attributes `a`, into a pool. -/
structure Opens (s : SessionStore) (now : Instant) (name : PoolName) (a : Session) (i : Issue) :
    Prop where
  issues : s.Issues a i
  evolves : s.Evolves now i.store
  result : i.result = s.issuing now name
  leased : i.store.Leased s.sessions.length ↔ i.result = .ok s.sessions.length

/-- All that creating a session does. -/
theorem Named.opens (named : s.Named) (now : Instant) :
    s.Opens now .pending { id := "" } (s.create now) :=
  ⟨s.create_issues now, s.create_evolves now, s.create_result now,
    (s.create_issuing now).leased_iff named⟩

/-- All that renewing a session does. -/
theorem Renewable.opens (h : s.Renewable now n) :
    s.Opens now .authenticated ((s.session? n).getD { id := "" }) (s.renew now n) :=
  ⟨s.renew_issues now n, s.renew_evolves now n, s.renew_result now n, h.leased_iff⟩

end SessionStore

/-! ## Stores side by side -/

/-- Two sessions that may be missing: both are, or the second stands at the place of the first. -/
inductive Places (σ : List Serial) : Option Serial → Option Serial → Prop
  | nobody : Places σ none none
  | somebody {n k : Serial} (place : σ[k]? = some n) : Places σ (some n) (some k)

/-- How issuing a session ends in two stores: it is refused in both, or it is the next one in
either. -/
inductive SessionStore.Opened (σ : List Serial) (total : Nat) (i j : Issue) : Prop
  | refused {fault : CapacityFault} (left : i.result = .error fault)
      (right : j.result = .error fault)
      (unleased : ¬ i.store.Leased total ∧ ¬ j.store.Leased σ.length)
  | issued (left : i.result = .ok total) (right : j.result = .ok σ.length)
      (leased : i.store.Leased total ∧ j.store.Leased σ.length)

/-- The second store has the sessions of the first that stand at the serials `σ`, in that order; the
first has `total` sessions.  The pools of both are all of one size. -/
structure SessionStore.Mirrors (σ : List Serial) (total : Nat) (s t : SessionStore) : Prop where
  length : s.sessions.length = total
  nodup : σ.Nodup
  sessions : t.sessions.map some = σ.map s.session?
  size : ∀ a b, (t.pool a).capacity = (s.pool b).capacity ∧ (t.pool a).ttl = (s.pool b).ttl

namespace SessionStore.Mirrors

variable {σ : List Serial} {total : Nat} {s t s' t' : SessionStore} {n k : Serial} {a : Session}
  {now : Instant} {name : PoolName}

/-- The second store has as many sessions as there are serials that it mirrors. -/
theorem length_eq (h : Mirrors σ total s t) : t.sessions.length = σ.length := by
  simpa using congrArg List.length h.sessions

/-- The sessions at a serial and at its place are the same. -/
theorem session?_eq (h : Mirrors σ total s t) (place : σ[k]? = some n) :
    t.session? k = s.session? n := by
  have same := congrArg (·[k]?) h.sessions
  simp only [List.getElem?_map, place, Option.map_some] at same
  obtain ⟨b, hb, hs⟩ := Option.map_eq_some_iff.1 same
  rw [session?, hb, hs]

/-- A serial that is mirrored has a session. -/
theorem exists_session? (h : Mirrors σ total s t) (place : σ[k]? = some n) :
    ∃ a, s.session? n = some a := by
  have hk : k < t.sessions.length := h.length_eq ▸ (List.getElem?_eq_some_iff.1 place).1
  exact ⟨_, (h.session?_eq place).symm.trans (List.getElem?_eq_getElem hk)⟩

/-- A serial that is mirrored is one of the first store. -/
theorem lt_total (h : Mirrors σ total s t) (place : σ[k]? = some n) : n < total := by
  obtain ⟨b, hb⟩ := h.exists_session? place
  exact h.length ▸ lt_of_session? hb

/-- A session and the one at its place have the same id. -/
theorem idOf_eq (h : Mirrors σ total s t) (place : σ[k]? = some n) : t.idOf k = s.idOf n := by
  rw [idOf, idOf, h.session?_eq place]

/-- A session and the one at its place were issued under the same id. -/
theorem issuedIds_eq (h : Mirrors σ total s t) (place : σ[k]? = some n) :
    t.issuedIds[k]? = s.issuedIds[n]? := by
  have same : t.sessions[k]? = s.sessions[n]? := h.session?_eq place
  rw [issuedIds, issuedIds, List.getElem?_map, List.getElem?_map, same]

/-- Other leases in the pools make no difference. -/
theorem of_sessions (h : Mirrors σ total s t) (left : s'.sessions = s.sessions)
    (right : t'.sessions = t.sessions)
    (sizeL : ∀ b, (s'.pool b).capacity = (s.pool b).capacity ∧ (s'.pool b).ttl = (s.pool b).ttl)
    (sizeR : ∀ b, (t'.pool b).capacity = (t.pool b).capacity ∧ (t'.pool b).ttl = (t.pool b).ttl) :
    Mirrors σ total s' t' := by
  refine ⟨?_, h.nodup, ?_, fun a b => ?_⟩
  · rw [left]
    exact h.length
  · have same : s'.session? = s.session? := funext fun m => session?_of_sessions left m
    rw [right, same]
    exact h.sessions
  · rw [(sizeR a).1, (sizeR a).2, (sizeL b).1, (sizeL b).2]
    exact h.size a b

/-- The same change at a serial and at its place. -/
theorem modify (h : Mirrors σ total s t) (place : σ[k]? = some n) (f : Session → Session) :
    Mirrors σ total (s.modify n f) (t.modify k f) := by
  refine ⟨?_, h.nodup, List.ext_getElem? fun i => ?_, fun a b => ?_⟩
  · rw [SessionStore.modify, List.length_modify]
    exact h.length
  · have same := congrArg (·[i]?) h.sessions
    simp only [SessionStore.modify, List.getElem?_map, List.getElem?_modify] at same ⊢
    cases there : σ[i]? with
    | none =>
      rw [there] at same
      simpa using same
    | some m =>
      rw [there] at same
      obtain ⟨b, hb, hm⟩ := Option.map_eq_some_iff.1 same
      have own : k = i ↔ n = m := by
        constructor
        · rintro rfl
          exact Option.some.inj (place.symm.trans there)
        · rintro rfl
          have hk := (List.getElem?_eq_some_iff.1 place).1
          exact (List.getElem?_inj hk h.nodup).1 (place.trans there.symm)
      have mine : s.sessions[m]? = some b := hm.symm
      rw [hb, Option.map_some (f := SessionStore.session? _), session?, List.getElem?_modify, mine]
      simp only [own]
      rfl
  · rw [(Alike.modify f t k).pool a, (Alike.modify f s n).pool b]
    exact h.size a b

/-- The same session issued in both stores. -/
theorem append (h : Mirrors σ total s t) (left : s'.sessions = s.sessions ++ [a])
    (right : t'.sessions = t.sessions ++ [a])
    (sizeL : ∀ b, (s'.pool b).capacity = (s.pool b).capacity ∧ (s'.pool b).ttl = (s.pool b).ttl)
    (sizeR : ∀ b, (t'.pool b).capacity = (t.pool b).capacity ∧ (t'.pool b).ttl = (t.pool b).ttl) :
    Mirrors (σ ++ [total]) (total + 1) s' t' := by
  have old : ∀ n ∈ σ, n < total := by
    intro n hn
    obtain ⟨k, place⟩ := List.getElem?_of_mem hn
    exact h.lt_total place
  have length := h.length
  refine ⟨?_, ?_, ?_, fun a b => ?_⟩
  · rw [left, List.length_append, List.length_singleton, length]
  · rw [List.nodup_append]
    refine ⟨h.nodup, List.nodup_singleton _, fun n hn m hm same => ?_⟩
    obtain rfl := List.mem_singleton.1 hm
    exact absurd same (old n hn).ne
  · have kept : σ.map s'.session? = σ.map s.session? := by
      refine List.map_congr_left fun n hn => ?_
      rw [session?, session?, left, List.getElem?_append_left (length ▸ old n hn)]
    have last : s'.session? total = some a := by
      rw [session?, left, ← length, List.getElem?_concat_length]
    rw [right, List.map_append, List.map_append, kept, h.sessions]
    simp [last]
  · rw [(sizeR a).1, (sizeR a).2, (sizeL b).1, (sizeL b).2]
    exact h.size a b

/-- Issuing a session in the same pool ends alike. -/
theorem opened (h : Mirrors σ total s t) {i j : Issue} {b : Session} (left : s.Opens now name a i)
    (right : t.Opens now name b j) : Opened σ total i j := by
  obtain ⟨-, -, resultL, leasedL⟩ := left
  obtain ⟨-, -, resultR, leasedR⟩ := right
  unfold issuing at resultL resultR
  rw [h.length] at resultL leasedL
  rw [Pool.refusal?_congr (h.size name name) now, h.length_eq] at resultR
  rw [h.length_eq] at leasedR
  cases refusal : (s.pool name).refusal? now with
  | none =>
    rw [refusal] at resultL resultR
    exact .issued resultL resultR ⟨leasedL.2 resultL, leasedR.2 resultR⟩
  | some fault =>
    rw [refusal] at resultL resultR
    refine .refused resultL resultR ⟨fun leased => ?_, fun leased => ?_⟩
    · exact nomatch resultL.symm.trans (leasedL.1 leased)
    · exact nomatch resultR.symm.trans (leasedR.1 leased)

/-- Sessions with the same attributes that are issued in both stores, under one id. -/
theorem issue (h : Mirrors σ total s t) {i j : Issue} (left : s.Opens now name a i)
    (right : t.Opens now name a j)
    (ids : ∀ id id', i.store.issuedIds[s.sessions.length]? = some id →
      j.store.issuedIds[t.sessions.length]? = some id' → id' = id) :
    Mirrors (σ ++ [total]) (total + 1) i.store j.store := by
  have last : ∀ {s : SessionStore} {i : Issue} {b : Session},
      i.store.sessions = s.sessions ++ [b] →
      i.store.issuedIds[s.sessions.length]? = some b.id := by
    intro s i b sessions
    rw [issuedIds, sessions, List.map_append, ← List.length_map (f := Session.id)]
    exact List.getElem?_concat_length
  obtain ⟨b, sessions, sessions'⟩ : ∃ b, i.store.sessions = s.sessions ++ [b] ∧
      j.store.sessions = t.sessions ++ [b] := by
    have opened := h.opened left right
    cases left.issues with
    | issued resultL sessionsL =>
      cases right.issues with
      | issued resultR sessionsR =>
        obtain rfl := ids _ _ (last sessionsL) (last sessionsR)
        exact ⟨_, sessionsL, sessionsR⟩
      | refused resultR =>
        cases opened with
        | refused error => cases error.symm.trans resultL
        | issued _ ok => cases ok.symm.trans resultR
    | refused resultL sessionsL =>
      cases right.issues with
      | issued resultR =>
        cases opened with
        | refused _ error => cases error.symm.trans resultR
        | issued ok => cases ok.symm.trans resultL
      | refused resultR sessionsR =>
        obtain rfl := ids _ _ (last sessionsL) (last sessionsR)
        exact ⟨_, sessionsL, sessionsR⟩
  exact h.append sessions sessions' left.evolves.pools right.evolves.pools

/-- **Looking for a session ends alike,** if its id finds a session in the first store and the one
at its place in the second, or none in both. -/
theorem get_cases {id : String} (h : Mirrors σ total s t)
    (found : Places σ (s.find? now id) (t.find? now id)) :
    (∃ fault, (s.get now id).1 = .error fault ∧ (t.get now id).1 = .error fault) ∨
      ∃ a b, Places σ a b ∧ (s.get now id).1 = .ok a ∧ (t.get now id).1 = .ok b := by
  rw [get_result, get_result]
  unfold find? at found
  cases left : s.holder? now id with
  | none =>
    cases right : t.holder? now id with
    | none => exact .inr ⟨none, none, .nobody, rfl, rfl⟩
    | some l =>
      rw [left, right] at found
      cases found
  | some l =>
    cases right : t.holder? now id with
    | none =>
      rw [left, right] at found
      cases found
    | some m =>
      rw [left, right] at found
      dsimp only
      rw [Pool.refusal?_congr (h.size m.1 l.1)]
      cases (s.pool l.1).refusal? now with
      | none => exact .inr ⟨_, _, found, rfl, rfl⟩
      | some fault => exact .inl ⟨_, rfl, rfl⟩

end SessionStore.Mirrors
end LoginGate
