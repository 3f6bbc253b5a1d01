/-
# Cookies

Cookies come in headers, `name=value` with `;` between them, and are set one to a header.  A value
that holds other characters than the plain ones is written between quotes, with an octal escape for
each character that a quoted text may not hold.

| direction | rule |
| --- | --- |
| `read?` | of equal names the last one counts |
| `write` | a name is refused if it holds other characters or is the name of an attribute |
-/

import LoginGate.Web.Inbound

namespace LoginGate

/-- Why a cookie cannot be set. -/
inductive CookieFault where
  /-- The name is no name of a cookie. -/
  | name
  /-- A character does not fit into an octet. -/
  | wide
  deriving DecidableEq, Repr

namespace Cookie

/-- The digit of an octal number. -/
def octal? (c : Char) : Option Nat :=
  let n := c.toNat
  if 0x30 ≤ n ∧ n ≤ 0x37 then some (n - 0x30) else none

/-- The character of three octal digits, up to `377`. -/
def octalChar? (a b c : Char) : Option Char :=
  match octal? a, octal? b, octal? c with
  | some x, some y, some z => if x ≤ 3 then some (Char.ofNat (64 * x + 8 * y + z)) else none
  | _, _, _ => none

/-- The text between quotes, its escapes read. -/
def unescape : List Char → List Char
  | '\\' :: a :: b :: c :: r =>
    match octalChar? a b c with
    | some x => x :: unescape r
    | none => if a = '\n' then '\\' :: unescape (a :: b :: c :: r) else a :: unescape (b :: c :: r)
  | '\\' :: a :: r => if a = '\n' then '\\' :: a :: unescape r else a :: unescape r
  | c :: r => c :: unescape r
  | [] => []

/-- The value that a text writes: between quotes its escapes are read. -/
def readValue (s : String) : String :=
  match s.toList with
  | '"' :: r =>
    if r.getLast? = some '"' then String.ofList (unescape r.dropLast) else s
  | _ => s

/-- The cookie of a piece of a header; without `=` its name is empty, and an empty piece is none. -/
def readPiece (cs : List Char) : Option (String × String) :=
  let (name, value) :=
    match Text.cutAt '=' cs with
    | (n, some v) => (n, v)
    | (v, none) => ([], v)
  let name := Text.trim (String.ofList name)
  let value := Text.trim (String.ofList value)
  if name.isEmpty && value.isEmpty then none else some (name, readValue value)

/-- The cookies of a header. -/
def readHeader (s : String) : List (String × String) :=
  (Text.splitOn ';' s.toList).filterMap readPiece

/-- The value of a cookie of a request. -/
def read? (i : Inbound) (name : String) : Option String :=
  ((((i.headerAll "cookie").flatMap readHeader).filter fun c => c.1 == name).getLast?).map Prod.snd

/-- A character that needs no quotes. -/
def isPlain (c : Char) : Bool :=
  c.isAlphanum || "!#$%&*+-.^_|~:".toList.contains c || c.toNat = 0x27 || c.toNat = 0x60

/-- A character that needs no escape between quotes. -/
def isQuotable (c : Char) : Bool :=
  isPlain c || " ()/<=>?@[]\x7b\x7d".toList.contains c

/-- The octal escape of a character. -/
def octalEscape (n : Nat) : List Char :=
  '\\' :: [n / 64 % 8, n / 8 % 8, n % 8].map fun d => Char.ofNat (0x30 + d)

/-- A character between quotes. -/
def quoteChar (c : Char) : List Char :=
  if c = '"' ∨ c = '\\' then ['\\', c]
  else if isQuotable c || 0x100 ≤ c.toNat then [c]
  else octalEscape c.toNat

/-- The text of a value. -/
def writeValue (s : String) : String :=
  if !s.isEmpty && s.toList.all isPlain then s
  else String.ofList ('"' :: (s.toList.flatMap quoteChar ++ ['"']))

/-- The names of the attributes of a cookie. -/
def attributeNames : List String :=
  ["expires", "path", "comment", "domain", "max-age", "secure", "httponly", "version", "samesite"]

/-- The text is the name of a cookie. -/
def isName (s : String) : Bool :=
  !s.isEmpty && s.toList.all isPlain && !attributeNames.contains s.toLower

/-- The header that sets a cookie which scripts do not see and other sites do not send along. -/
def write (name value path : String) (secure : Bool) : Except CookieFault (String × String) :=
  let text := name ++ "=" ++ writeValue value ++ "; HttpOnly; Path=" ++ path ++ "; SameSite=lax" ++
    if secure then "; Secure" else ""
  if !isName name then .error .name
  else if Octets.fitsLatin1 text then .ok ("set-cookie", text) else .error .wide

end Cookie
end LoginGate
