/-
# Fresh names

Names for sessions, tokens and requests are drawn from a supply: first those that it was given, then
the numbered names of a series, which never repeat.

| operation | draws |
| --- | --- |
| `draw` | the next name |
| `drawFree` | the next name that is not taken; the names passed over are used up too |
-/

namespace LoginGate

/-- Numbered names: a number of at least `width` digits between two texts. -/
structure Series where
  front : String := ""
  back : String := ""
  width : Nat := 0
  base : Nat := 10
  deriving DecidableEq, Repr

/-- The digits of a number, filled up with zeros in front. -/
def Series.digits (s : Series) (n : Nat) : List Char :=
  let ds := Nat.toDigits s.base n
  List.replicate (s.width - ds.length) '0' ++ ds

/-- The name with a number. -/
def Series.name (s : Series) (n : Nat) : String :=
  s.front ++ String.ofList (s.digits n) ++ s.back

/-- Names that are still to be drawn: those given, and after them the series from the number after
`made`. -/
structure Supply where
  given : List String := []
  series : Series := {}
  made : Nat := 0
  deriving DecidableEq, Repr

namespace Supply

/-- The next name. -/
def draw (s : Supply) : String × Supply :=
  match s.given with
  | name :: r => (name, { s with given := r })
  | [] => (s.series.name (s.made + 1), { s with made := s.made + 1 })

/-- The first number from `n` on whose name is not taken, among `k` numbers and the one after them.
-/
def freeNumber (s : Series) (taken : List String) : (k n : Nat) → Nat
  | 0, n => n
  | k + 1, n => if taken.contains (s.name n) then freeNumber s taken k (n + 1) else n

/-- The given names from the first that is not taken. -/
def freeGiven (taken : List String) (given : List String) : List String :=
  given.dropWhile taken.contains

/-- The next name that is not taken.  Of `taken.length + 1` names of a series one is free. -/
def drawFree (taken : List String) (s : Supply) : String × Supply :=
  match freeGiven taken s.given with
  | name :: r => (name, { s with given := r })
  | [] =>
    let n := freeNumber s.series taken taken.length (s.made + 1)
    (s.series.name n, { s with given := [], made := n })

end Supply
end LoginGate
