/-
# Reading JSON

The grammar of JSON, with two extensions: the words `NaN`, `Infinity` and `-Infinity` are numbers,
and of two fields with one name the last value counts.  A whole number has at most 4300 digits.

A document is a list of points.  A string may hold surrogates, and may spell them: two that are
escaped one after the other and make a pair are one character, and any other stands alone.

A document is given up where it opens one array or object too many inside one another, even if its
grammar fails further on.  How many are read is up to what calls the reader.  Readers give the rest
of the points, and where they stop they tell how many are left.

| reader | source |
| --- | --- |
| `ofText` | a text |
| `ofOctets` | octets in UTF-8, or in UTF-16 or UTF-32 as the mark or the zeros at the start tell |
-/

import LoginGate.Json.Basic
import LoginGate.Json.Fault
import LoginGate.Text.Pieces

namespace LoginGate
namespace Json

/-- Where reading stops. -/
inductive Halt where
  /-- The grammar fails with so many points left. -/
  | grammar (flaw : Flaw) (left : Nat)
  /-- A whole number has too many digits. -/
  | digits (count : Nat)
  /-- An array or object stands too deep. -/
  | tooDeep (nesting : Nesting)
  deriving DecidableEq, Repr

/-- The fault of a document that is not read. -/
def Halt.fault (ps : List Point) : Halt → ReadFault
  | .grammar flaw left => .grammar flaw (.after ps (ps.length - left))
  | .digits count => .digits count
  | .tooDeep nesting => .tooDeep nesting

/-- Stops where the rest begins. -/
def stop {α : Type} (flaw : Flaw) (rest : List Point) : Except Halt α :=
  .error (.grammar flaw rest.length)

/-- A blank between the tokens of a document. -/
def isSpace (p : Point) : Bool :=
  p.char?.any fun c => c = ' ' || c = '\t' || c = '\n' || c = '\r'

/-- The rest after the blanks. -/
def skip (ps : List Point) : List Point :=
  ps.dropWhile isSpace

/-- The value of a hexadecimal digit. -/
def hex? (p : Point) : Option Nat :=
  p.char?.bind Percent.hexValue?

/-- The value of four hexadecimal digits. -/
def hex4? (a b c d : Point) : Option Nat :=
  match hex? a, hex? b, hex? c, hex? d with
  | some a, some b, some c, some d => some (((a * 16 + b) * 16 + c) * 16 + d)
  | _, _, _, _ => none

/-- The character after a backslash, without the four-digit escape. -/
def escaped? : Point → Option Char
  | .char '"' => some '"'
  | .char '\\' => some '\\'
  | .char '/' => some '/'
  | .char 'b' => some (Char.ofNat 0x08)
  | .char 'f' => some (Char.ofNat 0x0C)
  | .char 'n' => some '\n'
  | .char 'r' => some '\r'
  | .char 't' => some '\t'
  | _ => none

/-- What a string is spelled with. -/
inductive Mark where
  /-- A point as it is. -/
  | written (p : Point)
  /-- A unit of 16 bits, escaped by its number. -/
  | unit (n : Nat)
  deriving DecidableEq, Repr

/-- The points that marks spell. -/
def joinMarks : List Mark → List Point
  | [] => []
  | .written p :: r => p :: joinMarks r
  | .unit a :: .unit b :: r =>
    if Encoding.isHigh a && Encoding.isLow b then Encoding.pair a b :: joinMarks r
    else .ofNat a :: joinMarks (.unit b :: r)
  | .unit a :: r => .ofNat a :: joinMarks r

/-- The marks of a string up to its closing quote, and the rest after the quote; `opened` points are
left from its opening quote on.  An escape by number is not the last of a document. -/
def readMarks (opened : Nat) : List Point → Except Halt (List Mark × List Point)
  | [] => .error (.grammar .unterminated opened)
  | .char '"' :: r => .ok ([], r)
  | .char '\\' :: .char 'u' :: a :: b :: c :: d :: e :: r =>
    match hex4? a b c d with
    | some n => (readMarks opened (e :: r)).map fun (ms, r) => (.unit n :: ms, r)
    | none => stop .hexEscape (.char 'u' :: a :: b :: c :: d :: e :: r)
  | .char '\\' :: .char 'u' :: r => stop .hexEscape (.char 'u' :: r)
  | [.char '\\'] => .error (.grammar .unterminated opened)
  | .char '\\' :: p :: r =>
    match escaped? p with
    | some c => (readMarks opened r).map fun (ms, r) => (.written (.char c) :: ms, r)
    | none => stop .escape (.char '\\' :: p :: r)
  | p :: r =>
    if p.toNat < 0x20 then stop .control (p :: r)
    else (readMarks opened r).map fun (ms, r) => (.written p :: ms, r)

/-- The string after its opening quote, and the rest. -/
def readString (ps : List Point) : Except Halt (WideText × List Point) :=
  (readMarks (ps.length + 1) ps).map fun (ms, r) => (.ofPoints (joinMarks ms), r)

/-- The point is an ASCII digit. -/
def isDigit (p : Point) : Bool :=
  p.char?.any Char.isDigit

/-- A row of digits and what follows it. -/
def spanDigits (ps : List Point) : List Char × List Point :=
  ((ps.takeWhile isDigit).filterMap Point.char?, ps.dropWhile isDigit)

/-- The digits of a whole number, without a leading zero, and the rest. -/
def readWhole? : List Point → Option (List Char × List Point)
  | .char '0' :: r => some (['0'], r)
  | ps =>
    let (digits, r) := spanDigits ps
    if digits.isEmpty then none else some (digits, r)

/-- The digits of a fraction and the rest; no digits where there is no fraction. -/
def readFraction (ps : List Point) : List Char × List Point :=
  match ps with
  | .char '.' :: r =>
    let (digits, r') := spanDigits r
    if digits.isEmpty then ([], ps) else (digits, r')
  | _ => ([], ps)

/-- The sign of an exponent (`true` for minus) and the rest. -/
def readSign : List Point → Bool × List Point
  | .char '-' :: r => (true, r)
  | .char '+' :: r => (false, r)
  | r => (false, r)

/-- The exponent of a number and the rest; `none` where there is no exponent. -/
def readExponent (ps : List Point) : Option Int × List Point :=
  match ps with
  | p :: r =>
    if p = .char 'e' ∨ p = .char 'E' then
      let (negative, r') := readSign r
      let (digits, r'') := spanDigits r'
      if digits.isEmpty then (none, ps)
      else
        let e : Int := Number.value digits
        (some (if negative then -e else e), r'')
    else (none, ps)
  | [] => (none, ps)

/-- A number without its sign, and the rest: a whole number if it has neither fraction nor
exponent, a double otherwise.  No answer where there is none. -/
def readMagnitude? (negative : Bool) (ps : List Point) :
    Option (Except Halt (Json × List Point)) :=
  (readWhole? ps).map fun (digits, r) =>
    let (decimals, r) := readFraction r
    let (e, r) := readExponent r
    if decimals.isEmpty ∧ e = none then
      if digits.length > Number.maxDigits then .error (.digits digits.length)
      else
        let n : Int := Number.value digits
        .ok (.int (if negative then -n else n), r)
    else
      let e := e.getD 0 - decimals.length
      .ok (.real (.ofDecimal negative (Number.value (digits ++ decimals)) e), r)

/-- A word of the language and its value. -/
def wordTable : List (String × Json) :=
  [("null", .null), ("true", .bool true), ("false", .bool false), ("NaN", .real .nan),
    ("Infinity", .real (.infinite false)), ("-Infinity", .real (.infinite true))]

/-- The word that the points begin with, and the rest. -/
def readWord? (ps : List Point) : Option (Json × List Point) :=
  wordTable.findSome? fun (w, v) => (Text.after? (w.toList.map .char) ps).map fun r => (v, r)

/-- A number, and the rest. -/
def readNumber (ps : List Point) : Except Halt (Json × List Point) :=
  let magnitude? := match ps with
    | .char '-' :: r => readMagnitude? true r
    | _ => readMagnitude? false ps
  magnitude?.getD (stop .value ps)

/-- A word or a number, and the rest. -/
def readAtom (ps : List Point) : Except Halt (Json × List Point) :=
  match readWord? ps with
  | some a => .ok a
  | none => readNumber ps

mutual

/-- A value, and the rest, with at most `fuel` steps still to take and `room` levels below this
one. -/
def readValue : (fuel room : Nat) → List Point → Except Halt (Json × List Point)
  | 0, _, ps => stop .value ps
  | fuel + 1, room, ps =>
    match ps with
    | .char '"' :: r => (readString r).map fun (s, r) => (.text s, r)
    | .char '[' :: r =>
      match room, skip r with
      | 0, _ => .error (.tooDeep .array)
      | _ + 1, .char ']' :: r' => .ok (.array [], r')
      | room + 1, r' => (readItems fuel room r').map fun (vs, r) => (.array vs, r)
    | .char '\x7b' :: r =>
      match room, skip r with
      | 0, _ => .error (.tooDeep .object)
      | _ + 1, .char '\x7d' :: r' => .ok (.object [], r')
      | room + 1, r' => (readFields fuel room [] r').map fun (fs, r) => (.object fs, r)
    | _ => readAtom ps

/-- The items of an array up to its end. -/
def readItems : (fuel room : Nat) → List Point → Except Halt (List Json × List Point)
  | 0, _, ps => stop .value ps
  | fuel + 1, room, ps =>
    match readValue fuel room ps with
    | .error halt => .error halt
    | .ok (v, r) =>
      match skip r with
      | .char ']' :: r' => .ok ([v], r')
      | .char ',' :: r' => (readItems fuel room (skip r')).map fun (vs, r) => (v :: vs, r)
      | r' => stop .comma r'

/-- The fields of an object up to its end, after those in `found`. -/
def readFields : (fuel room : Nat) → Fields → List Point → Except Halt (Fields × List Point)
  | 0, _, _, ps => stop .name ps
  | fuel + 1, room, found, ps =>
    match ps with
    | .char '"' :: r =>
      match readString r with
      | .error halt => .error halt
      | .ok (name, r) =>
        match skip r with
        | .char ':' :: r' =>
          match readValue fuel room (skip r') with
          | .error halt => .error halt
          | .ok (v, r) =>
            let found := Fields.put name v found
            match skip r with
            | .char '\x7d' :: r' => .ok (found, r')
            | .char ',' :: r' => readFields fuel room found (skip r')
            | r' => stop .comma r'
        | r' => stop .colon r'
    | _ => stop .name ps

end

/-- The value that the points write, with blanks around it, at most `depth` arrays and objects
inside one another.  A level and an item take two steps and at least one point. -/
def read (depth : Nat) (ps : List Point) : Except Halt Json :=
  match readValue (2 * ps.length + 2) depth (skip ps) with
  | .error halt => .error halt
  | .ok (v, r) =>
    match skip r with
    | [] => .ok v
    | rest => stop .extra rest

/-- The value that the points of a document write. -/
def ofPoints (depth : Nat) (ps : List Point) : Except ReadFault Json :=
  (read depth ps).mapError (Halt.fault ps)

/-- The value that a text writes. -/
def ofText (depth : Nat) (s : String) : Except ReadFault Json :=
  ofPoints depth (s.toList.map .char)

/-- The points of a document, whose encoding its first octets tell.  Places are counted from the
mark at the start, in UTF-8 from behind it. -/
def pointsOf (b : Octets) : Except EncodingFault (List Point) :=
  match b with
  | 0x00 :: 0x00 :: 0xFE :: 0xFF :: r => (Encoding.utf32 true).decode 4 r
  | 0xFF :: 0xFE :: 0x00 :: 0x00 :: r => (Encoding.utf32 false).decode 4 r
  | 0xFE :: 0xFF :: r => (Encoding.utf16 true).decode 2 r
  | 0xFF :: 0xFE :: r => (Encoding.utf16 false).decode 2 r
  | 0xEF :: 0xBB :: 0xBF :: r => Encoding.utf8.decode 0 r
  | _ => (unmarked b).decode 0 b
where
  /-- The encoding that the zeros among the first octets tell. -/
  unmarked : Octets → Encoding
    | x :: y :: z :: w :: _ =>
      if x = 0 then (if y = 0 then .utf32 true else .utf16 true)
      else if y = 0 then (if z = 0 ∧ w = 0 then .utf32 false else .utf16 false)
      else .utf8
    | [x, y] => if x = 0 then .utf16 true else if y = 0 then .utf16 false else .utf8
    | _ => .utf8

/-- The value that a document of octets writes. -/
def ofOctets (depth : Nat) (b : Octets) : Except ReadFault Json :=
  match pointsOf b with
  | .error fault => .error (.encoding fault)
  | .ok ps => ofPoints depth ps

end Json
end LoginGate
