/-
# Blank characters

The set of characters that trimming removes and that separate words, and the two operations built
on it.  The set is wider than the one of `Char.isWhitespace`: it also holds the vertical tab, the
form feed, the four information separators and the blanks outside ASCII.

| operation | rule |
| --- | --- |
| `trim` | drops the blanks at both ends |
| `words` | the maximal runs of characters that are not blank |
-/

namespace LoginGate
namespace Text

/-- A character is blank if it is one of the white-space characters of Unicode or one of the four
information separators `U+001C` to `U+001F`. -/
def isBlank (c : Char) : Bool :=
  let n := c.toNat
  (0x09 ≤ n && n ≤ 0x0D) || (0x1C ≤ n && n ≤ 0x20) || n == 0x85 || n == 0xA0 || n == 0x1680 ||
    (0x2000 ≤ n && n ≤ 0x200A) || n == 0x2028 || n == 0x2029 || n == 0x202F || n == 0x205F ||
    n == 0x3000

/-- The list without the elements of `p` at either end. -/
def trimBy {α : Type} (p : α → Bool) (l : List α) : List α :=
  ((l.dropWhile p).reverse.dropWhile p).reverse

/-- The list without the elements of `p` at its end. -/
def dropEndBy {α : Type} (p : α → Bool) (l : List α) : List α :=
  (l.reverse.dropWhile p).reverse

/-- The text without the blanks at either end. -/
def trim (s : String) : String :=
  String.ofList (trimBy isBlank s.toList)

/-- The maximal runs of elements outside `p`, in order. -/
def runsOutside {α : Type} (p : α → Bool) : List α → List (List α)
  | [] => []
  | c :: r =>
    if p c then runsOutside p r
    else match r with
      | [] => [[c]]
      | d :: _ =>
        if p d then [c] :: runsOutside p r
        else match runsOutside p r with
          | [] => [[c]]
          | w :: ws => (c :: w) :: ws

/-- The words of a text: its maximal runs of characters that are not blank. -/
def words (s : String) : List String :=
  (runsOutside isBlank s.toList).map String.ofList

end Text
end LoginGate
