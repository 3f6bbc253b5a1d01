/-
# Runs of a gate

A run is a list of events: calls with any request on any channel, and what happens between them.
What a call did before a fault stays done, and the run goes on from there.

| event | changes |
| --- | --- |
| `call` | what the call changes |
| `tick` | the time of the store |
| `wall` | the time of the system |
| `add`, `revoke` | the directory of users, if there is one |

The request of a call may be one that an earlier call put a method back into: what is put back was
the method of a request that came in, and a text.
-/

import LoginGate.Proofs.Course
import LoginGate.Proofs.Leases

namespace LoginGate

/-- The calls that an application makes for a request. -/
inductive Errand where
  | prepare
  | validate (mandatory : Bool)
  | resolve
  | logout
  deriving DecidableEq, Repr

/-- What a call does; with an outcome where it decides on the request. -/
def Errand.step (g : Gate) : Errand → Step (Option Outcome)
  | .prepare => do
    let _ ← Gate.prepare
    pure none
  | .validate mandatory => do pure (some (← g.validate mandatory))
  | .resolve => do pure (some (← g.resolve))
  | .logout => do
    Gate.logout
    pure none

/-- A request as it is submitted: its method is a text. -/
structure Submission extends Request where
  isText : method.wide?.isSome = true
  deriving DecidableEq, Repr

instance : Coe Submission Request := ⟨Submission.toRequest⟩

/-- The method of a submitted request is a text. -/
theorem Submission.wide?_ne_none (q : Submission) : q.method.wide? ≠ none :=
  Option.isSome_iff_ne_none.1 q.isText

/-- What happens to a gate. -/
inductive Event where
  | call (e : Errand) (q : Submission) (channel : Channel)
  | tick (now : Instant)
  | wall (wall : Instant)
  | add (subject : WideText) (roles : List String)
  | revoke (subject : WideText)
  deriving DecidableEq, Repr

/-- The store is as it was set up. -/
def World.Fresh (w : World) : Prop :=
  ∃ ttl capacity ids, SessionStore.make ttl capacity ids = .ok w.store

/-- A store as it was set up holds no session and no lease. -/
theorem World.Fresh.store_eq {w : World} (fresh : w.Fresh) :
    w.store.sessions = [] ∧ w.store.leases = [] := by
  obtain ⟨ttl, capacity, ids, made⟩ := fresh
  unfold SessionStore.make at made
  split at made
  · cases made
  · rw [← Except.ok.inj made]
    exact ⟨rfl, rfl⟩

/-- The clock of the store, which shows `now`, is never set back. -/
def Steady : Instant → List Event → Prop
  | _, [] => True
  | now, .tick later :: es => now.atMost later = true ∧ Steady later es
  | now, _ :: es => Steady now es

namespace Gate

/-- How a call ends, and the visit that it leaves. -/
def visit (g : Gate) (w : World) (e : Errand) (q : Request) (channel : Channel) :
    Except Fault (Option Outcome) × Visit :=
  (e.step g).on { world := w, request := q, channel }

/-- The world after an event. -/
def after (g : Gate) (w : World) : Event → World
  | .call e q channel => (g.visit w e q channel).2.world
  | .tick now => { w with now }
  | .wall wall => { w with wall }
  | .add subject roles => { w with users := w.users.map (Users.add subject roles) }
  | .revoke subject => { w with users := w.users.map (Users.revoke subject) }

/-- The world after a run. -/
def run (g : Gate) (w : World) (es : List Event) : World :=
  es.foldl g.after w

/-- No event leaves the world as it is. -/
@[simp] theorem run_nil (g : Gate) (w : World) : g.run w [] = w :=
  rfl

/-- A run goes on from the world after its first event. -/
@[simp] theorem run_cons (g : Gate) (w : World) (e : Event) (es : List Event) :
    g.run w (e :: es) = g.run (g.after w e) es :=
  rfl

/-- A run goes on where another ended. -/
theorem run_append (g : Gate) (w : World) (es fs : List Event) :
    g.run w (es ++ fs) = g.run (g.run w es) fs :=
  List.foldl_append

/-- The last event of a run comes after all others. -/
theorem run_concat (g : Gate) (w : World) (es : List Event) (e : Event) :
    g.run w (es ++ [e]) = g.after (g.run w es) e := by
  rw [run_append, run_cons, run_nil]

/-- What every event keeps a run keeps. -/
theorem run_of_after {g : Gate} {P : World → Prop} (step : ∀ w c, P w → P (g.after w c)) {w : World}
    (start : P w) (es : List Event) : P (g.run w es) := by
  induction es generalizing w with
  | nil => exact start
  | cons c es ih => exact ih (step w c start)

end Gate

/-! ## A small gate -/

/-- A gate whose provider knows one code, of `alice`. -/
def smallGate (newcomers : Bool) : Gate where
  provider :=
    { issuer := "https://idp", authorizationEndpoint := .text "https://idp/auth"
      tokenEndpoint := .text "https://idp/token", clientId := "app" }
  settings := {}
  service := { exchanger := .book [("abc", .ok ⟨[("sub", .text "alice")], []⟩)], newcomers }

/-- A world in which nothing happened yet, with room for four sessions of a minute each. -/
def smallWorld (users : Option Users) : World where
  store :=
    { pending := { capacity := 4, ttl := .whole 60 }
      authenticated := { capacity := 4, ttl := .whole 60 }
      ids := { given := ["first", "second"] } }
  users
  tokens := { given := ["token"] }
  now := .whole 0

/-- A request to a path in a session. -/
def smallRequest (path query : String) (sessionId : Option String) : Submission where
  method := .text "GET"
  scheme := "http"
  host := "app"
  port := none
  path
  query
  sessionId
  isText := rfl

/-- Nothing happened yet in a small world. -/
theorem smallWorld_fresh (users : Option Users) : (smallWorld users).Fresh :=
  ⟨.whole 60, 4, { given := ["first", "second"] }, rfl⟩

/-- The login that the one code gives in a small world. -/
def smallResult : AuthResult where
  identity := { subject := "alice" }
  credentials := some
    { code := "abc", redirectUri := "http://app/j_security_check"
      verified := some ⟨[("sub", .text "alice")], []⟩ }
  claims := [("sub", .text "alice")]
  response := []
  authenticatedAt := 0

/-- A challenge of a visitor, and the callback that follows it. -/
def smallLogin : List Event :=
  [.call (.validate true) (smallRequest "/page" "" none) .fresh,
    .call (.validate true) (smallRequest "/j_security_check" "code=abc&state=token" (some "first"))
      .fresh]

end LoginGate
