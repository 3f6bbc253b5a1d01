/-
# The session store

All sessions ever issued, and two pools of those that are live.  A new session is pending; a login
renews it under a fresh id in the other pool, so that no number of anonymous visits costs a
logged-in user the session.

| operation | rule |
| --- | --- |
| `get` | the live session of an id; its lease starts again |
| `create` | a session under a fresh id in the pending pool |
| `renew` | a session's attributes under a fresh id in the authenticated pool, the old id gone |
| `invalidate` | the live session of an id is gone |
-/

import LoginGate.Log
import LoginGate.Session.Basic
import LoginGate.Session.Pool
import LoginGate.Supply

namespace LoginGate

/-- Why a store does not take a session. -/
inductive CapacityFault where
  /-- A pool cannot have a negative capacity. -/
  | negative
  /-- A pool does not take its lease. -/
  | lease (fault : LeaseFault)
  deriving DecidableEq, Repr

/-- Which pool a session is in. -/
inductive PoolName where
  | pending
  | authenticated
  deriving DecidableEq, Repr

/-- The name of a pool in messages. -/
def PoolName.text : PoolName → String
  | .pending => "pending"
  | .authenticated => "authenticated"

/-- The sessions ever issued, by serial, the pools of the live ones, and the ids to come. -/
structure SessionStore where
  sessions : List Session := []
  pending : Pool
  authenticated : Pool
  ids : Supply := {}
  deriving DecidableEq, Repr

/-- What issuing a session leads to. -/
structure Issue where
  result : Except CapacityFault Serial
  store : SessionStore
  log : List LogRecord

namespace SessionStore

/-- An empty store whose pools hold `capacity` sessions each for a time `ttl`. -/
def make (ttl : Seconds) (capacity : Int) (ids : Supply) : Except CapacityFault SessionStore :=
  if capacity < 0 then .error .negative
  else
    let pool : Pool := { capacity := capacity.toNat, ttl }
    .ok { pending := pool, authenticated := pool, ids }

/-- One of the pools. -/
def pool (s : SessionStore) : PoolName → Pool
  | .pending => s.pending
  | .authenticated => s.authenticated

/-- The store with one of the pools replaced. -/
def withPool (s : SessionStore) : PoolName → Pool → SessionStore
  | .pending, p => { s with pending := p }
  | .authenticated, p => { s with authenticated := p }

/-- The session of a serial. -/
def session? (s : SessionStore) (n : Serial) : Option Session :=
  s.sessions[n]?

/-- The store with the session of a serial changed. -/
def modify (s : SessionStore) (n : Serial) (f : Session → Session) : SessionStore :=
  { s with sessions := s.sessions.modify n f }

/-- The serial of the session that was issued last under an id. -/
def newest? (s : SessionStore) (id : String) : Option Serial :=
  ((List.range s.sessions.length).filter fun n => (s.session? n).any fun t => t.id == id).getLast?

/-- The pool with a live lease of an id, the authenticated one before the other. -/
def holder? (s : SessionStore) (now : Instant) (id : String) : Option (PoolName × Lease) :=
  match s.authenticated.live? now id with
  | some l => some (.authenticated, l)
  | none => (s.pending.live? now id).map fun l => (.pending, l)

/-- The serial of the live session of an id. -/
def find? (s : SessionStore) (now : Instant) (id : String) : Option Serial :=
  (s.holder? now id).map fun h => h.2.serial

/-- The id is in the authenticated pool. -/
def isAuthenticated (s : SessionStore) (now : Instant) (id : String) : Bool :=
  (s.authenticated.live? now id).isSome

/-- The ids that are live. -/
def liveIds (s : SessionStore) (now : Instant) : List String :=
  s.authenticated.liveIds now ++ s.pending.liveIds now

/-- A record of the store. -/
def record (level : Level) (message : String) : LogRecord :=
  { source := .session, level, message }

/-- The record of a session that made room. -/
def evictedLog (name : PoolName) (capacity : Nat) (l : Lease) : LogRecord :=
  record .warning <| "Session pool '" ++ name.text ++ "' full (" ++ toString capacity ++
    "), evicted id=" ++ Session.shownId l.id

/-- The store with a session set in a pool, and the record of the one that made room. -/
def set (s : SessionStore) (now : Instant) (name : PoolName) (id : String) (n : Serial) :
    Except CapacityFault (SessionStore × List LogRecord) :=
  let p := s.pool name
  match p.set now id n with
  | .error fault => .error (.lease fault)
  | .ok q => .ok (s.withPool name q, (p.evicted now id).toList.map (evictedLog name p.capacity))

/-- The live session of an id, its lease started again.  A lease that cannot start again stays as it
is, but it was used. -/
def get (s : SessionStore) (now : Instant) (id : String) :
    Except CapacityFault (Option Serial) × SessionStore :=
  match s.holder? now id with
  | none => (.ok none, s)
  | some (name, l) =>
    match s.set now name id l.serial with
    | .error fault => (.error fault, s.withPool name ((s.pool name).use id))
    | .ok (t, _) => (.ok (some l.serial), t)

/-- Issues a session under a fresh id in a pool.  Where the pool takes nothing, the session is empty
and the id is used up. -/
def issue (s : SessionStore) (now : Instant) (name : PoolName) (attributes : Session) : Issue :=
  let (id, ids) := s.ids.drawFree (s.liveIds now)
  let n := s.sessions.length
  let started (a : Session) : SessionStore :=
    { s with ids, sessions := s.sessions ++ [a.withId id] }
  match (started attributes).set now name id n with
  | .error fault => ⟨.error fault, started { id := "" }, []⟩
  | .ok (t, log) => ⟨.ok n, t, log⟩

/-- The id of a session. -/
def idOf (s : SessionStore) (n : Serial) : String :=
  ((s.session? n).map Session.id).getD ""

/-- Issues a new session. -/
def create (s : SessionStore) (now : Instant) : Issue :=
  let i := s.issue now .pending { id := "" }
  match i.result with
  | .error _ => i
  | .ok n =>
    { i with
      log := i.log ++ [record .debug ("Created session id=" ++ Session.shownId (i.store.idOf n))] }

/-- The store without the live session of an id, and the record of its end. -/
def invalidate (s : SessionStore) (now : Instant) (id : String) : SessionStore × List LogRecord :=
  match s.holder? now id with
  | none => (s, [])
  | some (name, _) =>
    (s.withPool name ((s.pool name).remove id),
      [record .debug ("Invalidated session id=" ++ Session.shownId id)])

/-- The record of a renewed session. -/
def renewedLog (before after : String) : LogRecord :=
  record .debug <|
    "Renewed session id=" ++ Session.shownId before ++ " -> " ++ Session.shownId after

/-- Issues a session with the attributes of another one, whose id is gone after that. -/
def renew (s : SessionStore) (now : Instant) (n : Serial) : Issue :=
  let old := (s.session? n).getD { id := "" }
  let i := s.issue now .authenticated old
  match i.result with
  | .error _ => i
  | .ok m =>
    let (t, log) := i.store.invalidate now old.id
    ⟨.ok m, t, i.log ++ log ++ [renewedLog old.id (t.idOf m)]⟩

/-- The store with expired leases dropped from the front of both pools. -/
def expire (s : SessionStore) (now : Instant) : SessionStore :=
  { s with pending := s.pending.expire now, authenticated := s.authenticated.expire now }

/-- How many leases the pools hold. -/
def count (s : SessionStore) : Nat :=
  s.pending.leases.length + s.authenticated.leases.length

end SessionStore
end LoginGate
