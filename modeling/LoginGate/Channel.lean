/-
# Response channels

Where the gate writes its one decision.

| channel | a redirect or an error |
| --- | --- |
| `buffered` | is kept, once |
| `deferred` | is dropped |
| `broken` | fails |

A write that fails ends the request with a `ChannelFault`.
-/

import LoginGate.Session.Attribute

namespace LoginGate

/-- Where the decision on a request is written. -/
inductive Channel where
  /-- Keeps the status and the location of the decision; committed once there is a status. -/
  | buffered (status : Option Int) (location : Option Attribute)
  /-- Drops what is written: nothing can be sent for this request. -/
  | deferred
  /-- Fails on every write. -/
  | broken
  deriving DecidableEq, Repr

/-- What was being written. -/
inductive ChannelWrite where
  | redirect
  | error (status : Int)
  deriving DecidableEq, Repr

/-- Why a channel does not take a write. -/
inductive ChannelCause where
  | committed
  | clientGone
  | pipeClosed
  deriving DecidableEq, Repr

/-- A write that a channel did not take. -/
structure ChannelFault where
  write : ChannelWrite
  cause : ChannelCause
  deriving DecidableEq, Repr

/-- The text of a cause. -/
def ChannelCause.text : ChannelCause → String
  | .committed => "response already committed"
  | .clientGone => "client went away"
  | .pipeClosed => "pipe closed"

/-- The message of a fault. -/
def ChannelFault.message (f : ChannelFault) : String :=
  match f.write with
  | .redirect => "could not send redirect: " ++ f.cause.text
  | .error status => "could not send error " ++ toString status ++ ": " ++ f.cause.text

namespace Channel

/-- A buffered channel that nothing was written to. -/
def fresh : Channel := .buffered none none

/-- The channel drops what is written. -/
def isDeferred : Channel → Bool
  | .deferred => true
  | _ => false

/-- The channel after a redirect. -/
def redirect (status : Int) (location : Attribute) : Channel → Except ChannelFault Channel
  | .buffered none _ => .ok (.buffered (some status) (some location))
  | .buffered (some _) _ => .error ⟨.redirect, .committed⟩
  | .deferred => .ok .deferred
  | .broken => .error ⟨.redirect, .clientGone⟩

/-- The channel after an error status. -/
def error (status : Int) : Channel → Except ChannelFault Channel
  | .buffered none location => .ok (.buffered (some status) location)
  | .buffered (some _) _ => .error ⟨.error status, .committed⟩
  | .deferred => .ok .deferred
  | .broken => .error ⟨.error status, .pipeClosed⟩

/-- A redirect is taken by a channel that ignores what is written, or starts a response. -/
theorem redirect_eq_ok {c d : Channel} {status : Int} {location : Attribute}
    (h : c.redirect status location = .ok d) :
    c = .deferred ∧ d = .deferred ∨ d = .buffered (some status) (some location) := by
  cases c with
  | buffered before _ =>
    cases before with
    | none => exact .inr (Except.ok.inj h).symm
    | some => cases h
  | deferred => exact .inl ⟨rfl, (Except.ok.inj h).symm⟩
  | broken => cases h

end Channel
end LoginGate
