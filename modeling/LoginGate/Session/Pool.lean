/-
# Pools of sessions

A pool keeps at most `capacity` sessions, each until its lease expires.  Leases stand in the order
in which they were last set, and every lease knows when it was last used.

| operation | rule |
| --- | --- |
| `live?` | the lease of an id, unless it expired |
| `use` | the lease of an id is the one used last |
| `set` | a lease of full length, last in order and used last |
| `evicted` | where there is no room, the lease used least recently goes |
| `remove` | a lease goes |
-/

import LoginGate.Instant

namespace LoginGate

/-- The place of a session among all that were ever issued. -/
abbrev Serial := Nat

/-- A session in a pool, under its id until it expires. -/
structure Lease where
  id : String
  serial : Serial
  expires : Instant
  /-- How many uses the pool had seen when the lease was last used. -/
  used : Nat
  deriving DecidableEq, Repr

/-- Why a lease cannot be set. -/
inductive LeaseFault where
  /-- The pool has no room at all. -/
  | noRoom
  /-- The time of its end cannot be told. -/
  | clock (fault : ClockFault)
  deriving DecidableEq, Repr

/-- A pool of leases, the one set least recently first. -/
structure Pool where
  capacity : Nat
  /-- How long a lease lasts. -/
  ttl : Seconds
  leases : List Lease := []
  /-- How often leases were used. -/
  uses : Nat := 0
  deriving DecidableEq, Repr

namespace Lease

/-- The lease has not expired. -/
def isLive (now : Instant) (l : Lease) : Bool :=
  now.isBefore l.expires

end Lease

namespace Pool

/-- The leases that have not expired. -/
def live (now : Instant) (p : Pool) : List Lease :=
  p.leases.filter (Lease.isLive now)

/-- The ids of the leases that have not expired. -/
def liveIds (now : Instant) (p : Pool) : List String :=
  (p.live now).map Lease.id

/-- The lease of an id, unless it expired. -/
def live? (now : Instant) (id : String) (p : Pool) : Option Lease :=
  (p.live now).find? fun l => l.id == id

/-- The pool without the expired leases at the front. -/
def expire (now : Instant) (p : Pool) : Pool :=
  { p with leases := p.leases.dropWhile fun l => !l.isLive now }

/-- The pool without the lease of an id. -/
def remove (id : String) (p : Pool) : Pool :=
  { p with leases := p.leases.filter fun l => l.id ≠ id }

/-- The pool has a lease of an id, be it expired. -/
def holds (id : String) (p : Pool) : Bool :=
  p.leases.any fun l => l.id == id

/-- The pool after a use of the lease of an id. -/
def use (id : String) (p : Pool) : Pool :=
  { p with
    leases := p.leases.map fun l => if l.id = id then { l with used := p.uses } else l
    uses := p.uses + 1 }

/-- The lease used least recently. -/
def stalest? (p : Pool) : Option Lease :=
  p.leases.find? fun l => p.leases.all fun m => l.used ≤ m.used

/-- The lease that goes when a lease of `id` is set. -/
def evicted (now : Instant) (id : String) (p : Pool) : Option Lease :=
  let p := p.expire now
  if p.holds id || p.leases.length < p.capacity then none else p.stalest?

/-- The pool with a lease of full length. -/
def set (now : Instant) (id : String) (serial : Serial) (p : Pool) : Except LeaseFault Pool :=
  match now.add p.ttl with
  | .error fault => .error (.clock fault)
  | .ok expires =>
    if p.capacity = 0 then .error .noRoom
    else
      let gone := (p.evicted now id).map Lease.id
      let p := p.expire now
      let kept := p.leases.filter fun l => l.id ≠ id ∧ some l.id ≠ gone
      .ok { p with leases := kept ++ [⟨id, serial, expires, p.uses⟩], uses := p.uses + 1 }

end Pool
end LoginGate
