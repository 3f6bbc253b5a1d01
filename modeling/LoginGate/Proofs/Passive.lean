/-
# Looking for a login without sending anything

A request that was left to the application can still be asked for its cached login.  `resolve` runs
the whole decision for that, on a channel that drops what is written, and hands on nothing but a
cached login that still holds.  So it never comes to a challenge or a callback, and all that it
leaves behind is in the session of the request.

| the request | `resolve` answers | it takes out |
| --- | --- | --- |
| is a callback, or its session id stands in the address | nobody | nothing |
| finds a live session whose lease cannot start again | nothing: it breaks off | nothing |
| finds a login that holds | the login | the saved request, if it asks for its address |
| finds a login that was revoked | nobody | the login |
| finds no login | nobody | nothing |
-/

import LoginGate.Proofs.Breakdown

namespace LoginGate
namespace Gate

open Step (Finds)

variable {g : Gate} {w : World} {v u x : Visit} {q : Request} {n : Serial} {channel : Channel}
  {result : AuthResult} {session : Option Serial} {ttl : Seconds} {capacity : Int} {ids : Supply}
  {r : Except Fault Outcome}

/-- A request that is no callback comes with the cookie of a live session whose cached login still
holds. -/
structure Recalls (g : Gate) (w : World) (q : Request) (result : AuthResult) : Prop where
  other : isCallback q.uri = false
  cookie : q.sessionFromUrl = false
  held : ∃ n, w.live? q = some n ∧ w.Holds n result
  valid : g.service.validates w.users result.identity = true

/-- A request that recalls a login has it held for it. -/
theorem Recalls.heldLogin? (h : Recalls g v.world v.request result) :
    g.heldLogin? v = some result := by
  obtain ⟨n, live, s, there, login⟩ := h.held
  rw [Gate.heldLogin?, live, Option.bind_some, World.session_of_session? there, login]
  exact if_pos h.valid

end Gate
end LoginGate
