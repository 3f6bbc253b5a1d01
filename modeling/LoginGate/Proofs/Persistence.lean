/-
# What stays along a run

The ids of sessions and the directory stay, and every lease keeps the id of its session.  What a
session holds and whether it is live are told backwards: a login that a session holds at the end, or
a session that is live at the end, was so ever since the session was issued.

| fact | backwards, if |
| --- | --- |
| the session holds a login | always |
| the session is live | no id is issued twice and the clock is never set back |
-/

import LoginGate.Proofs.Grants

namespace LoginGate
namespace Gate

variable {g : Gate} {w : World} {n : Serial} {result : AuthResult} {es : List Event}

/-- A store that was just set up has no lease that could stand under another id. -/
theorem named_of_fresh (fresh : w.Fresh) : w.store.Named := by
  intro l hl
  rw [fresh.store_eq.2] at hl
  cases hl

/-- The id of a session stands at its serial. -/
theorem issuedIds_of_session? {s : Session} (h : w.store.session? n = some s) :
    w.store.issuedIds[n]? = some s.id := by
  rw [SessionStore.issuedIds, List.getElem?_map]
  exact congrArg (Option.map Session.id) h

/-- A serial with an id has a session, and it is called so. -/
theorem session?_of_issuedIds {id : String} (h : w.store.issuedIds[n]? = some id) :
    ∃ s, w.store.session? n = some s ∧ s.id = id := by
  rw [SessionStore.issuedIds, List.getElem?_map] at h
  exact Option.map_eq_some_iff.1 h

/-- An event does to the store what operations at the time do. -/
theorem store_after (w : World) (c : Event) : w.store.Evolves w.now (g.after w c).store := by
  cases c with
  | call e q channel => exact (visit_evolves g w e q channel).store
  | tick => exact .refl ..
  | wall => exact .refl ..
  | add => exact .refl ..
  | revoke => exact .refl ..

/-- An event adds ids and takes none back. -/
theorem after_ids (w : World) (c : Event) :
    w.store.issuedIds <+: (g.after w c).store.issuedIds :=
  (store_after w c).ids

/-- An event adds sessions and takes none back. -/
theorem after_length (w : World) (c : Event) :
    w.store.sessions.length ≤ (g.after w c).store.sessions.length := by
  simpa only [SessionStore.length_issuedIds] using (after_ids w c).length_le

/-- The ids of sessions are never changed. -/
theorem run_ids (w : World) (es : List Event) :
    w.store.issuedIds <+: (g.run w es).store.issuedIds :=
  run_of_after (P := fun u => w.store.issuedIds <+: u.store.issuedIds)
    (fun u c h => h.trans (after_ids u c)) List.prefix_rfl es

/-- A run adds sessions and takes none back. -/
theorem run_length (w : World) (es : List Event) :
    w.store.sessions.length ≤ (g.run w es).store.sessions.length := by
  simpa only [SessionStore.length_issuedIds] using (run_ids w es).length_le

/-- An event keeps every lease under the id of its session. -/
theorem named_after (named : w.store.Named) (c : Event) : (g.after w c).store.Named :=
  named.evolves (store_after w c)

/-- A run keeps every lease under the id of its session. -/
theorem named_run (named : w.store.Named) (es : List Event) : (g.run w es).store.Named :=
  run_of_after (P := fun u => u.store.Named) (fun _ c h => named_after h c) named es

/-- The pools stay as they were set up. -/
theorem pools_run (w : World) (es : List Event) (name : PoolName) :
    ((g.run w es).store.pool name).capacity = (w.store.pool name).capacity ∧
      ((g.run w es).store.pool name).ttl = (w.store.pool name).ttl :=
  run_of_after (P := fun u => (u.store.pool name).capacity = (w.store.pool name).capacity ∧
      (u.store.pool name).ttl = (w.store.pool name).ttl)
    (fun u c h => ⟨((store_after u c).pools name).1.trans h.1,
      ((store_after u c).pools name).2.trans h.2⟩) ⟨rfl, rfl⟩ es

/-- After any run from an empty store the pools are as the settings of the store said. -/
theorem pools_run_of_make {ttl : Seconds} {capacity : Int} {ids : Supply}
    (made : SessionStore.make ttl capacity ids = .ok w.store) (es : List Event) (name : PoolName) :
    ((g.run w es).store.pool name).capacity = capacity.toNat ∧
      ((g.run w es).store.pool name).ttl = ttl := by
  have start := (SessionStore.pool_of_make made name).1
  obtain ⟨size, time⟩ := pools_run (g := g) w es name
  exact ⟨size.trans (congrArg Pool.capacity start), time.trans (congrArg Pool.ttl start)⟩

/-- A directory that is there stays there. -/
theorem users_after (h : w.users.isSome) (c : Event) : (g.after w c).users.isSome := by
  cases c with
  | call e q channel => exact (visit_evolves g w e q channel).users ▸ h
  | tick => exact h
  | wall => exact h
  | add => exact Option.isSome_map.trans h
  | revoke => exact Option.isSome_map.trans h

/-- A directory is never taken away. -/
theorem users_run (h : w.users.isSome) (es : List Event) : (g.run w es).users.isSome :=
  run_of_after (P := fun u => u.users.isSome) (fun _ c h => users_after h c) h es

/-! ## Looking back -/

/-- A login that a session holds after a run was in it ever since the session was issued. -/
theorem holds_before_run (old : n < w.store.sessions.length)
    (h : (g.run w es).Holds n result) : w.Holds n result := by
  induction es generalizing w with
  | nil => exact h
  | cons c es ih =>
    have h := ih (old.trans_le (after_length w c)) h
    cases c with
    | call e q channel => exact holds_before old h
    | tick => exact h
    | wall => exact h
    | add => exact h
    | revoke => exact h

/-- A clock that is steady in a run is steady after its first event. -/
theorem steady_after {c : Event} (steady : Steady w.now (c :: es)) :
    Steady (g.after w c).now es := by
  cases c with
  | call e q channel => exact (visit_evolves g w e q channel).now ▸ steady
  | tick => exact steady.2
  | wall => exact steady
  | add => exact steady
  | revoke => exact steady

/-- A clock that is steady in a run is steady after any part of it. -/
theorem steady_run {fs : List Event} (steady : Steady w.now (es ++ fs)) :
    Steady (g.run w es).now fs := by
  induction es generalizing w with
  | nil => exact steady
  | cons c es ih => exact ih (steady_after steady)

/-- A session that is live after an event was live before it, unless the event issued it. -/
theorem find?_before_after {c : Event} {id : String} (named : w.store.Named)
    (nodup : w.store.issuedIds.Nodup) (steady : Steady w.now (c :: es))
    (old : n < w.store.sessions.length)
    (h : (g.after w c).store.find? (g.after w c).now id = some n) :
    w.store.find? w.now id = some n := by
  cases c with
  | call e q channel =>
    have evolves := visit_evolves g w e q channel
    refine evolves.store.find?_before named nodup old ?_
    rw [← evolves.now]
    exact h
  | tick => exact SessionStore.find?_earlier named nodup steady.1 h
  | wall => exact h
  | add => exact h
  | revoke => exact h

/-- **Where no id is issued twice and the clock is never set back,** a session that is live after a
run was live ever since it was issued. -/
theorem find?_before_run {id : String} (named : w.store.Named) (steady : Steady w.now es)
    (nodup : (g.run w es).store.issuedIds.Nodup) (old : n < w.store.sessions.length)
    (h : (g.run w es).store.find? (g.run w es).now id = some n) :
    w.store.find? w.now id = some n := by
  induction es generalizing w with
  | nil => exact h
  | cons c es ih =>
    have earlier : w.store.issuedIds.Nodup := (run_ids w (c :: es)).sublist.nodup nodup
    have h := ih (named_after named c) (steady_after steady) nodup
      (old.trans_le (after_length w c)) h
    exact find?_before_after named earlier steady old h

end Gate
end LoginGate
