/-
# Templates of paths

A template is a path in which parameters may stand, written as a name, or a name and a kind with a
colon between, in braces.  A brace that belongs to no parameter is a character like any other.

| kind | accepts |
| --- | --- |
| `str` | one character or more, none of them a slash; the kind of a parameter that names none |
| `path` | any characters on one line |
| `int` | digits |
| `float` | digits, and perhaps a point and more digits |
| `uuid` | 32 hexadecimal digits, perhaps with hyphens between the five groups |

A template answers a path that it matches whole, or up to a line end after it.  A path that it
answers is still unreadable if a number in it has too many digits.
-/

import LoginGate.Number.Reader
import LoginGate.Text.Percent
import LoginGate.Text.Pieces

namespace LoginGate

/-- What a parameter of a path accepts. -/
inductive ParameterKind where
  | segment
  | anything
  | whole
  | decimal
  | identifier
  deriving DecidableEq, Repr

/-- A piece of a template. -/
inductive PathPart where
  | char (c : Char)
  | parameter (name : String) (kind : ParameterKind)
  deriving DecidableEq, Repr

/-- A path with parameters in it. -/
structure PathTemplate where
  parts : List PathPart
  deriving DecidableEq, Repr

/-- Why a text is no template. -/
inductive TemplateFault where
  /-- It does not begin with a slash. -/
  | noSlash (path : String)
  /-- A parameter is of an unknown kind. -/
  | unknownKind (name : String)
  /-- Two parameters have one name. -/
  | repeatedName (path : String)
  deriving DecidableEq, Repr

namespace ParameterKind

/-- The kind of a name. -/
def ofName? (name : String) : Option ParameterKind :=
  [("str", segment), ("path", anything), ("int", whole), ("float", decimal),
    ("uuid", identifier)].lookup name

/-- What may be left after one or more characters that `p` accepts, the least first. -/
def restsAfter (p : Char → Bool) : List Char → List (List Char)
  | [] => []
  | c :: r => if p c then restsAfter p r ++ [r] else []

/-- What is left after `n` hexadecimal digits. -/
def afterHex? : Nat → List Char → Option (List Char)
  | 0, cs => some cs
  | n + 1, c :: r => if (Percent.hexValue? c).isSome then afterHex? n r else none
  | _ + 1, [] => none

/-- The text without a hyphen at its start. -/
def afterHyphen : List Char → List Char
  | '-' :: r => r
  | cs => cs

/-- What is left after the five groups of an identifier. -/
def afterGroups? (cs : List Char) : Option (List Char) :=
  [4, 4, 4, 12].foldl (fun rest n => (rest.map afterHyphen).bind (afterHex? n)) (afterHex? 8 cs)

/-- What may be left after the digits of a fraction with its point. -/
def restsAfterFraction : List Char → List (List Char)
  | '.' :: r => restsAfter Char.isDigit r
  | _ => []

/-- What may be left of a path after a parameter. -/
def rests : ParameterKind → List Char → List (List Char)
  | .segment, cs => restsAfter (· ≠ '/') cs
  | .anything, cs => restsAfter (· ≠ '\n') cs ++ [cs]
  | .whole, cs => restsAfter Char.isDigit cs
  | .decimal, cs => (restsAfter Char.isDigit cs).flatMap fun r => restsAfterFraction r ++ [r]
  | .identifier, cs => (afterGroups? cs).toList

/-- A parameter of so many characters has a value. -/
def readable : ParameterKind → Nat → Bool
  | .whole, n => n ≤ Number.maxDigits
  | _, _ => true

end ParameterKind

namespace PathTemplate

/-- The template that is a path without parameters. -/
def literal (path : String) : PathTemplate :=
  ⟨path.toList.map .char⟩

instance : Coe String PathTemplate := ⟨literal⟩

/-- A name of a parameter or of a kind. -/
def isName : List Char → Bool
  | [] => false
  | c :: r => (c.isAlpha || c = '_') && r.all fun c => c.isAlphanum || c = '_'

/-- The names of a parameter and of its kind that stand between braces. -/
def names? (body : List Char) : Option (String × String) :=
  match Text.cutAt ':' body with
  | (name, none) => if isName name then some (String.ofList name, "str") else none
  | (name, some kind) =>
    if isName name && isName kind then some (String.ofList name, String.ofList kind) else none

/-- The parameter between braces, if what stands there is one. -/
def parameter? (body : List Char) : Except TemplateFault (Option PathPart) :=
  match names? body with
  | none => .ok none
  | some (name, kind) =>
    match ParameterKind.ofName? kind with
    | none => .error (.unknownKind kind)
    | some kind => .ok (some (.parameter name kind))

/-- The pieces of a template. -/
def readParts : List Char → Except TemplateFault (List PathPart)
  | [] => .ok []
  | c :: r =>
    let asChar (_ : Unit) := (readParts r).map (PathPart.char c :: ·)
    match _h : if c = '\x7b' then Text.cutAt '\x7d' r else ([], none) with
    | (_, none) => asChar ()
    | (body, some rest) =>
      match parameter? body with
      | .error fault => .error fault
      | .ok none => asChar ()
      | .ok (some part) => (readParts rest).map (part :: ·)
termination_by cs => cs.length
decreasing_by
  · exact Nat.lt_succ_self _
  · split at _h
    · rw [(Text.cutAt_eq_some _h).1, List.length_cons, List.length_append, List.length_cons]
      omega
    · exact absurd (congrArg Prod.snd _h) (by simp)

/-- The names of the parameters. -/
def parameterNames (parts : List PathPart) : List String :=
  parts.filterMap fun
    | .parameter name _ => some name
    | .char _ => none

/-- The template that a text writes. -/
def ofString (path : String) : Except TemplateFault PathTemplate :=
  if !Text.begins "/" path then .error (.noSlash path)
  else (readParts path.toList).bind fun parts =>
    if (parameterNames parts).Nodup then .ok ⟨parts⟩ else .error (.repeatedName path)

/-- What may be left of a path after a piece. -/
def rests : PathPart → List Char → List (List Char)
  | .char _, [] => []
  | .char c, d :: r => if c = d then [r] else []
  | .parameter _ kind, cs => kind.rests cs

/-- So many characters of a piece can be read. -/
def partReadable : PathPart → Nat → Bool
  | .char _, _ => true
  | .parameter _ kind, n => kind.readable n

/-- Whether the pieces can be read from the characters, or from all of them but a line end; nothing
if they do not match. -/
def reading? : List PathPart → List Char → Option Bool
  | [], cs => if cs = [] || cs = ['\n'] then some true else none
  | p :: ps, cs =>
    (rests p cs).findSome? fun rest =>
      (reading? ps rest).map (partReadable p (cs.length - rest.length) && ·)

/-- The template answers a path. -/
def answers (t : PathTemplate) (path : String) : Bool :=
  (reading? t.parts path.toList).isSome

/-- The template answers a path and can read its parameters. -/
def reads (t : PathTemplate) (path : String) : Bool :=
  reading? t.parts path.toList = some true

end PathTemplate
end LoginGate
