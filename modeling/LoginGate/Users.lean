/-
# The directory of users

Which subjects are known, with their roles, and which were revoked.

| operation | known | revoked |
| --- | --- | --- |
| `add s` | with `s` | without `s` |
| `revoke s` | without `s` | with `s` |
-/

import LoginGate.Text.Wide

namespace LoginGate

/-- Known subjects with their roles, and revoked subjects. -/
structure Users where
  known : List (WideText × List String) := []
  revoked : List WideText := []
  deriving DecidableEq, Repr

namespace Users

/-- The roles of a subject that is known. -/
def roles? (u : Users) (subject : WideText) : Option (List String) :=
  u.known.lookup subject

/-- The subject is known. -/
def isActive (u : Users) (subject : WideText) : Bool :=
  (u.roles? subject).isSome

/-- The subject was revoked and not added since. -/
def isRevoked (u : Users) (subject : WideText) : Bool :=
  u.revoked.contains subject

/-- Makes a subject known with its roles. -/
def add (subject : WideText) (roles : List String) (u : Users) : Users :=
  { known := (subject, roles) :: u.known.filter fun p => p.1 ≠ subject
    revoked := u.revoked.filter fun s => s ≠ subject }

/-- Makes a subject unknown and revokes it. -/
def revoke (subject : WideText) (u : Users) : Users :=
  { known := u.known.filter fun p => p.1 ≠ subject
    revoked := subject :: u.revoked.filter fun s => s ≠ subject }

/-- A directory of known subjects, the last roles of a subject counting. -/
def ofList (l : List (WideText × List String)) : Users :=
  l.foldl (fun u (s, roles) => u.add s roles) {}

/-- A subject that was just revoked is on the list. -/
@[simp] theorem isRevoked_revoke (u : Users) (s : WideText) : (u.revoke s).isRevoked s = true := by
  simp [isRevoked, revoke]

end Users
end LoginGate
