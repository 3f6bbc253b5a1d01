/-
# Secrets in messages

A secret is shown by its first characters, the others covered.
-/

import LoginGate.Text.Pieces

namespace LoginGate
namespace Secret

/-- The first `kept` characters of a text; for a negative `kept`, all but the last `-kept`. -/
def visible (kept : Int) (s : List Char) : List Char :=
  if 0 ≤ kept then s.take kept.toNat else s.take (s.length - (-kept).toNat)

/-- The text with all but its first `kept` characters covered; a text no longer than `kept` is
covered whole.  Below zero `kept` counts from the end, and the cover is longer by as much. -/
def mask (s : String) (kept : Int) : String :=
  let cs := s.toList
  if cs.isEmpty then ""
  else if (cs.length : Int) ≤ kept then Text.copies cs.length '*'
  else String.ofList (visible kept cs ++ List.replicate (cs.length - kept).toNat '*')

end Secret
end LoginGate
