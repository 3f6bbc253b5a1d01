/-
# What a renewal costs the others

A logged-in session that logs in again is renewed within its pool.  The fresh lease is set before
the old one goes; so in a full pool the lease used least recently makes room for it, be it that of
somebody else, though one lease comes and one goes.

| other session | after the renewal |
| --- | --- |
| pending | live, as it was |
| logged in | live, as it was, unless it gives way |
-/

import LoginGate.Proofs.Eviction
import LoginGate.Proofs.Reachable

namespace LoginGate

namespace Pool

variable {p : Pool} {now : Instant} {id : String} {k : Lease}

/-- In a full pool without a lease of an id, the lease used least recently makes room for one. -/
theorem evicted_of_stalest (ranked : p.Ranked) (mem : k ∈ (p.expire now).leases)
    (stalest : ∀ m ∈ (p.expire now).leases, k.used ≤ m.used)
    (full : p.capacity ≤ (p.expire now).leases.length)
    (unheld : ∀ m ∈ (p.expire now).leases, m.id ≠ id) : p.evicted now id = some k := by
  have held : (p.expire now).holds id = false := by
    refine Bool.eq_false_iff.2 fun held => ?_
    obtain ⟨m, hm, same⟩ := List.any_eq_true.1 held
    exact unheld m hm (eq_of_beq same)
  obtain ⟨l, found⟩ := exists_stalest (List.ne_nil_of_mem mem)
  have evicted : p.evicted now id = some l := by
    unfold Pool.evicted
    dsimp only
    rw [held, Bool.false_or, capacity_expire, if_neg (by simpa using full), found]
  -- No two leases were last used at once, so that one alone was used least recently.
  obtain ⟨hl, least, -⟩ := evicted_eq_some evicted
  have same : l.used = k.used := Nat.le_antisymm (least k mem) (stalest l hl)
  have kept := ranked.sublist (expire_sublist now p)
  rw [evicted, List.inj_on_of_nodup_map kept.apart hl mem same]

end Pool

namespace SessionStore

variable {s : SessionStore} {now : Instant} {id j : String} {b : PoolName} {k l : Lease}
  {n : Serial}

/-- A lease gives way to the fresh one of a renewal: the pool of logins is full, what expired at the
front aside, and of its leases, none of which has the fresh id, this one was used least recently. -/
structure GivesWay (s : SessionStore) (now : Instant) (n : Serial) (k : Lease) : Prop where
  renewed : ∃ m, (s.renew now n).result = .ok m
  mem : k ∈ (s.authenticated.expire now).leases
  stalest : ∀ m ∈ (s.authenticated.expire now).leases, k.used ≤ m.used
  full : s.authenticated.capacity ≤ (s.authenticated.expire now).leases.length
  unheld : ∀ m ∈ (s.authenticated.expire now).leases,
    m.id ≠ (s.ids.drawFree (s.liveIds now)).1

/-- A lease that gives way is the one that makes room. -/
theorem GivesWay.evicted (h : s.GivesWay now n k) (sane : s.Sane) :
    s.authenticated.evicted now (s.ids.drawFree (s.liveIds now)).1 = some k :=
  Pool.evicted_of_stalest (sane.ranked .authenticated) h.mem h.stalest h.full h.unheld

end SessionStore
end LoginGate
