/-
# Texts with surrogates that stand alone

A document may spell a surrogate without its partner.  It is no character, so that the text that
holds it is no text in any encoding, but it is kept, and two such texts are told apart.

| wide text | its points |
| --- | --- |
| `plain s` | the characters of `s` |
| `ragged r` | characters, and one surrogate or more among them |

Every list of points is written by one wide text, so two wide texts are the same exactly if their
points are.
-/

namespace LoginGate

/-- What a wide text is made of. -/
inductive Point where
  | char (c : Char)
  /-- A surrogate that stands alone, counted from `U+D800` on. -/
  | lone (n : Fin 0x800)
  deriving DecidableEq, Repr

namespace Point

/-- The point is a surrogate. -/
def isLone : Point → Bool
  | .char _ => false
  | .lone _ => true

/-- The character of a point that is one. -/
def char? : Point → Option Char
  | .char c => some c
  | .lone _ => none

/-- The point of a number; a number past the last code point is one of `U+0000`. -/
def ofNat (n : Nat) : Point :=
  if h : 0xD800 ≤ n ∧ n < 0xE000 then .lone ⟨n - 0xD800, by omega⟩ else .char (Char.ofNat n)

/-- The number of a point. -/
def toNat : Point → Nat
  | .char c => c.toNat
  | .lone n => 0xD800 + n

end Point

/-- Points with a surrogate among them. -/
structure Ragged where
  points : List Point
  isRagged : points.any Point.isLone = true
  deriving DecidableEq, Repr

/-- A text in which surrogates may stand alone. -/
inductive WideText where
  | plain (s : String)
  | ragged (r : Ragged)
  deriving DecidableEq, Repr

namespace WideText

instance : Coe String WideText := ⟨.plain⟩

instance : Inhabited WideText := ⟨.plain ""⟩

/-- The points of a wide text. -/
def points : WideText → List Point
  | .plain s => s.toList.map .char
  | .ragged r => r.points

/-- The wide text of points. -/
def ofPoints (l : List Point) : WideText :=
  if h : l.any Point.isLone = true then .ragged ⟨l, h⟩
  else .plain (String.ofList (l.filterMap Point.char?))

/-- The text of a wide text without surrogates. -/
def string? : WideText → Option String
  | .plain s => some s
  | .ragged _ => none

/-- The wide text has no points. -/
def isEmpty : WideText → Bool
  | .plain s => s.isEmpty
  | .ragged _ => false

/-- Two wide texts in a row. -/
def append : WideText → WideText → WideText
  | .plain s, .plain t => .plain (s ++ t)
  | a, b => ofPoints (a.points ++ b.points)

instance : Append WideText := ⟨append⟩

/-- The one wide text without points is the empty text: a surrogate is a point. -/
theorem isEmpty_iff {w : WideText} : w.isEmpty = true ↔ w = "" := by
  cases w <;> simp [isEmpty]

/-- Characters alone are kept as they are. -/
theorem any_isLone_map_char (cs : List Char) : (cs.map Point.char).any Point.isLone = false := by
  induction cs with
  | nil => rfl
  | cons c cs ih => exact ih

/-- Points without a surrogate are the characters among them. -/
theorem map_char_filterMap {l : List Point} (h : l.any Point.isLone = false) :
    (l.filterMap Point.char?).map Point.char = l := by
  induction l with
  | nil => rfl
  | cons p l ih =>
    cases p with
    | char c => exact congrArg (Point.char c :: ·) (ih h)
    | lone n => cases h

/-- The wide text of points has these points. -/
@[simp] theorem points_ofPoints (l : List Point) : (ofPoints l).points = l := by
  unfold ofPoints
  split
  · rfl
  · rename_i none
    rw [points, String.toList_ofList, map_char_filterMap (by simpa using none)]

/-- A wide text is the one of its points. -/
@[simp] theorem ofPoints_points (w : WideText) : ofPoints w.points = w := by
  cases w with
  | ragged r => exact dif_pos r.isRagged
  | plain s =>
    have none : (points (.plain s)).any Point.isLone = false := any_isLone_map_char s.toList
    have kept : (s.toList.map Point.char).filterMap Point.char? = s.toList := by
      simp [List.filterMap_map, Function.comp_def, Point.char?]
    rw [ofPoints, dif_neg (by simp [none]), points, kept, String.ofList_toList]

/-- **Wide texts are told apart by their points,** surrogates included. -/
theorem points_inj {w x : WideText} : w.points = x.points ↔ w = x := by
  constructor
  · intro same
    rw [← ofPoints_points w, same, ofPoints_points]
  · rintro rfl
    rfl

end WideText
end LoginGate
