/-
# Stores that operations lead to

A store is reachable if it comes from an empty one by operations at any times.  What the gate does
in a call is made of four of them; so a property that these keep holds after every run, and every
run from an empty store leads to a reachable one.

| operation | of the gate |
| --- | --- |
| `get`, `create`, `renew` | yes |
| `modify`, which keeps the id | yes |
| `invalidate`, `expire` | only within others, or for counting |

In a reachable store every lease stands under the id of its session, no session has leases in both
pools, and the leases of a pool were last used one after the other.
-/

import LoginGate.Proofs.Custody

namespace LoginGate

/-! ## Uses of a pool -/

/-- The leases of a tidy pool were last used one after the other. -/
structure Pool.Ranked (p : Pool) : Prop extends p.Tidy where
  apart : (p.leases.map Lease.used).Nodup
  before : ∀ l ∈ p.leases, l.used < p.uses

namespace Pool

variable {p q : Pool} {now : Instant} {id : String} {n : Serial} {k l : Lease}

/-- Fewer leases are ranked too. -/
theorem Ranked.sublist (h : p.Ranked) {ls : List Lease} (fewer : ls.Sublist p.leases) :
    Ranked { p with leases := ls } :=
  { nodup := (fewer.map Lease.id).nodup h.nodup
    room := fewer.length_le.trans h.room
    apart := (fewer.map Lease.used).nodup h.apart
    before := fun l hl => h.before l (fewer.subset hl) }

/-- A lease that is set is used last. -/
theorem Ranked.set (h : p.Ranked) (set : p.set now id n = .ok q) : q.Ranked := by
  have tidy := h.toTidy.set set
  unfold Pool.set at set
  split at set
  · cases set
  · rename_i expires time
    split at set
    · cases set
    · obtain rfl := Except.ok.inj set
      let ls := (p.expire now).leases.filter fun l =>
        l.id ≠ id ∧ some l.id ≠ (p.evicted now id).map Lease.id
      have kept : Ranked { p with leases := ls } :=
        h.sublist (List.filter_sublist.trans (expire_sublist now p))
      refine { toTidy := tidy, apart := ?_, before := fun l hl => ?_ }
      · rw [List.map_append, List.nodup_append]
        refine ⟨kept.apart, List.nodup_singleton _, fun i hi j hj => ?_⟩
        obtain ⟨l, hl, rfl⟩ := List.mem_map.1 hi
        obtain rfl := List.mem_singleton.1 hj
        exact (kept.before l hl).ne
      · obtain old | new := List.mem_append.1 hl
        · exact Nat.lt_succ_of_lt (kept.before l old)
        · obtain rfl := List.mem_singleton.1 new
          exact Nat.lt_succ_self _

/-- A lease that is used is the last one to be used; the others stay as they are. -/
theorem Ranked.use (h : p.Ranked) (id : String) : (p.use id).Ranked := by
  have used : ∀ l ∈ (p.use id).leases, l ∈ p.leases ∧ l.id ≠ id ∨ l.id = id ∧ l.used = p.uses := by
    intro l hl
    obtain ⟨k, hk, rfl⟩ := List.mem_map.1 hl
    by_cases own : k.id = id
    · rw [if_pos own]
      exact .inr ⟨own, rfl⟩
    · rw [if_neg own]
      exact .inl ⟨hk, own⟩
  have tidy := h.toTidy.use id
  refine { toTidy := tidy, apart := ?_, before := fun l hl => ?_ }
  · refine List.Nodup.map_on (fun l hl k hk same => ?_) (List.Nodup.of_map _ tidy.nodup)
    obtain ⟨hl', -⟩ | ⟨ownL, lastL⟩ := used l hl
    · obtain ⟨hk', -⟩ | ⟨-, lastK⟩ := used k hk
      · exact List.inj_on_of_nodup_map h.apart hl' hk' same
      · exact absurd (same.trans lastK) (h.before l hl').ne
    · obtain ⟨hk', -⟩ | ⟨ownK, -⟩ := used k hk
      · exact absurd (same.symm.trans lastL) (h.before k hk').ne
      · exact List.inj_on_of_nodup_map tidy.nodup hl hk (ownL.trans ownK.symm)
  · obtain ⟨old, -⟩ | ⟨-, last⟩ := used l hl
    · exact Nat.lt_succ_of_lt (h.before l old)
    · exact last ▸ Nat.lt_succ_self _

/-- Every operation on a pool at a time leaves its leases used one after the other. -/
theorem ranked_stable (now : Instant) : Stable Ranked now :=
  ⟨fun h set => h.set set, fun id h => h.use id, fun _ h => h.sublist List.filter_sublist⟩

end Pool

namespace SessionStore

/-! ## Operations -/

/-- What the operations of the gate keep at a time. -/
structure Kept (P : SessionStore → Prop) (now : Instant) : Prop where
  get : ∀ {s : SessionStore} (id : String), P s → P (s.get now id).2
  create : ∀ {s : SessionStore}, P s → P (s.create now).store
  renew : ∀ {s : SessionStore} (n : Serial), P s → P (s.renew now n).store
  modify : ∀ {s : SessionStore} {n : Serial} {f : Session → Session},
    (∀ a, s.session? n = some a → (f a).id = a.id) → P s → P (s.modify n f)

/-- The stores that operations lead to, at any times, from an empty one. -/
inductive Reachable : SessionStore → Prop
  | make {ttl : Seconds} {capacity : Int} {ids : Supply} {s : SessionStore}
      (made : make ttl capacity ids = .ok s) (distinct : ids.Distinct) : Reachable s
  | get {s : SessionStore} (h : Reachable s) (now : Instant) (id : String) :
      Reachable (s.get now id).2
  | create {s : SessionStore} (h : Reachable s) (now : Instant) : Reachable (s.create now).store
  | renew {s : SessionStore} (h : Reachable s) (now : Instant) (n : Serial) :
      Reachable (s.renew now n).store
  | invalidate {s : SessionStore} (h : Reachable s) (now : Instant) (id : String) :
      Reachable (s.invalidate now id).1
  | expire {s : SessionStore} (h : Reachable s) (now : Instant) : Reachable (s.expire now)
  | modify {s : SessionStore} {n : Serial} {f : Session → Session} (h : Reachable s)
      (same : ∀ a, s.session? n = some a → (f a).id = a.id) : Reachable (s.modify n f)

/-- The operations of the gate lead from reachable stores to reachable ones. -/
theorem reachable_kept (now : Instant) : Kept Reachable now :=
  ⟨fun id h => h.get now id, fun h => h.create now, fun n h => h.renew now n,
    fun same h => h.modify same⟩

/-- What holds of every reachable store. -/
structure Sane (s : SessionStore) : Prop where
  named : s.Named
  apart : s.Apart
  distinct : s.ids.Distinct
  ranked : ∀ b, (s.pool b).Ranked

/-- A sane store stays so under operations that keep its leases used one after the other. -/
theorem Sane.evolves {s t : SessionStore} {now : Instant} (h : s.Sane) (e : s.Evolves now t)
    (ranked : ∀ b, (t.pool b).Ranked) : t.Sane :=
  ⟨h.named.evolves e, e.apart h.named h.apart, e.distinct h.distinct, ranked⟩

/-- Letting go of what expired keeps the leases that are left. -/
theorem expire_evolves (s : SessionStore) (now : Instant) : s.Evolves now (s.expire now) := by
  have sublist : ∀ b, ((s.expire now).pool b).leases.Sublist (s.pool b).leases := fun b => by
    cases b <;> exact Pool.expire_sublist now _
  refine ⟨List.prefix_rfl, fun l hl => .inl ?_, fun b => by cases b <;> exact ⟨rfl, rfl⟩, rfl,
    fun _ apart => apart.of_serials fun b l hl => ⟨l, (sublist b).subset hl, rfl⟩⟩
  obtain ⟨b, hl⟩ := exists_pool_of_mem_leases hl
  exact continues_of_mem (mem_leases_of_mem_pool ((sublist b).subset hl))

/-- **A reachable store is sane.** -/
theorem Reachable.sane {s : SessionStore} (h : s.Reachable) : s.Sane := by
  induction h with
  | make made distinct =>
    have pool := pool_of_make made
    refine ⟨fun l hl => ?_, fun a b _ l hl => ?_, (pool .pending).2.2 ▸ distinct, fun b => ?_⟩
    · obtain ⟨b, hl⟩ := exists_pool_of_mem_leases hl
      rw [(pool b).1] at hl
      cases hl
    · rw [(pool a).1] at hl
      cases hl
    · rw [(pool b).1]
      exact
        { nodup := List.nodup_nil, room := Nat.zero_le _, apart := List.nodup_nil, before := nofun }
  | get _ now id ih =>
    exact ih.evolves (get_evolves ..) (get_of_stable (Pool.ranked_stable now) ih.ranked id)
  | create _ now ih =>
    exact ih.evolves (create_evolves ..)
      ((create_issuing _ now).of_stable (Pool.ranked_stable now) ih.ranked)
  | renew _ now n ih =>
    exact ih.evolves (renew_evolves ..) (renew_of_stable (Pool.ranked_stable now) ih.ranked n)
  | @invalidate s _ now id ih =>
    refine ih.evolves (invalidate_evolves ..) fun b => ?_
    obtain same | removed := s.pool_invalidate now id b
    · rw [same]
      exact ih.ranked b
    · rw [removed]
      exact (Pool.ranked_stable now).remove id (ih.ranked b)
  | expire _ now ih =>
    refine ih.evolves (expire_evolves ..) fun b => ?_
    have kept := (ih.ranked b).sublist (Pool.expire_sublist now _)
    cases b <;> exact kept
  | modify _ same ih =>
    have evolves : Evolves (.whole 0) _ _ := modify_evolves same
    refine ih.evolves evolves fun b => ?_
    rw [(Alike.modify ..).pool b]
    exact ih.ranked b

end SessionStore

/-! ## What a call does to the store -/

namespace Gate

open Step (Finds)
open SessionStore (Kept)

variable {g : Gate} {v u w : Visit} {n : Serial} {session : Option Serial}
  {r : Except Fault Outcome} {P : SessionStore → Prop}

/-- Looking for the session of a request keeps what the operations keep. -/
theorem finds_keeps {x : Except Fault (Option Serial)} (h : Finds v x u)
    (kept : Kept P v.world.now) (start : P v.world.store) : P u.world.store := by
  have sought : ∀ {id : String} {y : Except CapacityFault (Option Serial)} {s : SessionStore},
      v.world.store.get v.world.now id = (y, s) → P s := by
    intro id y s found
    have after := kept.get id start
    rwa [found] at after
  cases h with
  | nobody => exact start
  | found _ _ found => exact sought found
  | broken _ found => exact sought found

/-- Going on without a login keeps what the operations keep. -/
theorem Unheld.keeps (h : Unheld g v session u) (kept : Kept P v.world.now)
    (start : P v.world.store) : P u.world.store := by
  cases h with
  | nobody => exact start
  | empty => exact start
  | revoked => exact kept.modify (fun _ _ => rfl) start

/-- A challenge keeps what the operations keep. -/
theorem Challenges.keeps (h : Challenges g n v r w) (kept : Kept P v.world.now)
    (start : P v.world.store) : P w.world.store := by
  cases h with
  | unsaved save =>
    obtain ⟨-, rfl⟩ := SavedRequest.save_eq_error save
    refine kept.modify (fun a ha => ?_) start
    rw [Visit.session_of_session? ha]
  | saved save left issue sends =>
    subst left issue
    rw [sends.world_eq]
    refine kept.modify (fun a ha => ?_) (kept.modify (fun a ha => ?_) start)
    · rw [(Csrf.ensure_keeps ..).1, Visit.session_of_session? ha]
    · rw [(SavedRequest.save_keeps save).1, Visit.session_of_session? ha]

/-- A request for a page keeps what the operations keep. -/
theorem Protects.keeps (h : Protects g v session r w) (kept : Kept P v.world.now)
    (start : P v.world.store) : P w.world.store := by
  cases h with
  | @held n =>
    change P (replayed n v).world.store
    unfold replayed
    split
    · exact start
    · exact kept.modify (fun _ _ => rfl) start
  | unreadable => exact start
  | passed unheld => exact unheld.keeps kept start
  | challenged unheld _ challenges =>
    exact challenges.keeps (unheld.evolves.now ▸ kept) (unheld.keeps kept start)
  | unissued => exact kept.create start
  | started _ _ _ left challenges =>
    subst left
    exact challenges.keeps kept (kept.create start)

/-- A login keeps what the operations keep. -/
theorem LogsIn.keeps {c : Credentials} {x : Except Fault (Option (AuthResult × Serial))}
    (h : LogsIn g c n v x w) (kept : Kept P v.world.now) (start : P v.world.store) :
    P w.world.store := by
  cases h with
  | broken => exact start
  | refused => exact start
  | untimed => exact start
  | unissued => exact kept.renew n start
  | renewed => exact kept.modify (fun _ _ => rfl) (kept.renew n start)

/-- A callback keeps what the operations keep. -/
theorem Answers.keeps (h : Answers g v session r w) (kept : Kept P v.world.now)
    (start : P v.world.store) : P w.world.store := by
  cases h with
  | noCode _ ends => rwa [ends.world_eq]
  | noSession _ ends => rwa [ends.world_eq]
  | unreadable => exact start
  | wrongState _ _ ends => rwa [ends.world_eq]
  | redeemed _ _ redeems =>
    cases redeems with
    | broken login => exact login.keeps kept start
    | refused login ends =>
      rw [ends.world_eq]
      exact login.keeps kept start
    | redeemed login ends =>
      rw [ends.world_eq]
      exact (login.evolves.now ▸ kept).modify (fun _ _ => rfl) (login.keeps kept start)

/-- A decision keeps what the operations keep. -/
theorem Decides.keeps {mandatory : Bool} (h : Decides g mandatory v r w)
    (kept : Kept P v.world.now) (start : P v.world.store) : P w.world.store := by
  cases h with
  | deferred => exact start
  | urlSession _ _ ends => rwa [ends.world_eq]
  | unfound _ _ finds => exact finds_keeps finds kept start
  | callback _ _ finds answers =>
    exact answers.keeps ((finds_evolves finds).now ▸ kept) (finds_keeps finds kept start)
  | protect _ _ _ finds protects =>
    exact protects.keeps ((finds_evolves finds).now ▸ kept) (finds_keeps finds kept start)

/-- **A call keeps what the operations of the store keep.** -/
theorem Visits.keeps {e : Errand} {o : Except Fault (Option Outcome)} (h : Visits g v e o w)
    (kept : Kept P v.world.now) (start : P v.world.store) : P w.world.store := by
  cases h with
  | prepare h =>
    cases h with
    | unfound finds => exact finds_keeps finds kept start
    | found finds =>
      have found := finds_keeps finds kept start
      exact found
  | validate h => exact h.keeps kept start
  | resolve h =>
    cases h with
    | callback => exact start
    | decided _ decides =>
      have decided := Decides.keeps decides kept start
      exact decided
  | logout h =>
    cases h with
    | unfound finds => exact finds_keeps finds kept start
    | nobody finds => exact finds_keeps finds kept start
    | forgotten finds =>
      exact ((finds_evolves finds).now ▸ kept).modify (fun _ _ => rfl)
        (finds_keeps finds kept start)

/-- **What the operations keep, an event keeps.** -/
theorem keeps_after {x : World} (kept : Kept P x.now) (start : P x.store) (c : Event) :
    P (g.after x c).store := by
  cases c with
  | call e q channel => exact (visit_visits g x e q channel).keeps kept start
  | tick => exact start
  | wall => exact start
  | add => exact start
  | revoke => exact start

/-- **Every run from an empty store** leads to a reachable one. -/
theorem reachable_run {x : World} {ttl : Seconds} {capacity : Int} {ids : Supply}
    (made : SessionStore.make ttl capacity ids = .ok x.store) (distinct : ids.Distinct)
    (es : List Event) : (g.run x es).store.Reachable :=
  run_of_after (P := fun y => y.store.Reachable)
    (fun y c h => keeps_after (SessionStore.reachable_kept y.now) h c) (.make made distinct) es

end Gate
end LoginGate
