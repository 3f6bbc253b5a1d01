/-
# The address of an inbound request

The address is put together from the host header, or else from the server, and taken apart again.

| part | rule |
| --- | --- |
| `scheme` | in lower case, from an address that begins with one |
| `site` | what stands between `//` and the path, the query or the fragment |
| `host?`, `port?` | of the site, without user and brackets; a zone keeps its case |
| `path` | up to the query or the fragment |

The characters of the path that would end it are escaped, and so is what would make a site of it
where there is none.
-/

import LoginGate.Web.Host
import LoginGate.Web.Inbound

namespace LoginGate

/-- An address taken apart, its query and its fragment left out. -/
structure Url where
  scheme : String
  site : String
  path : String
  deriving DecidableEq, Repr

/-- Why an inbound request has no address. -/
inductive UrlFault where
  /-- The query is no UTF-8. -/
  | query
  /-- No port is known for the scheme of a server. -/
  | scheme
  /-- The brackets of the site hold no address. -/
  | brackets
  /-- A character of the site is another form of a mark that would end it. -/
  | disguised
  /-- The port is no number up to 65535 of at most 4300 digits. -/
  | port
  deriving DecidableEq, Repr

namespace Url

/-- The site of a server. -/
def serverSite (scheme host : String) (port : Option Int) : Except UrlFault String :=
  match Address.usualPort? scheme with
  | none => .error .scheme
  | some usual =>
    let site := Address.hostForm host
    if port = some usual then .ok site
    else .ok (site ++ ":" ++ (port.map toString).getD "None")

/-- The site of an inbound request; none where neither a valid host header nor the server gives
one. -/
def site? (i : Inbound) : Except UrlFault (Option String) :=
  match (i.header? "host").filter Host.isValid, i.server with
  | some host, _ => .ok (some host)
  | none, none => .ok none
  | none, some (host, port) => (serverSite i.scheme host port).map some

/-- A character of a path, escaped if it would end the path or pass for a slash. -/
def pathChar (c : Char) : List Char :=
  if c = '?' ∨ c = '#' ∨ c = '\\' then Percent.escape (UInt8.ofNat c.toNat) else [c]

/-- The path as an address holds it. -/
def pathForm (path : String) : String :=
  String.ofList (path.toList.flatMap pathChar)

/-- The path of an address without a site. -/
def lonePath (path : String) : String :=
  if Text.begins "//" path then "/%2F" ++ Text.dropChars 2 path else path

/-- The site and the path with a slash between them.  An empty site is left out before a path that
begins with two slashes. -/
def siteAndPath (site path : String) : String :=
  if site.isEmpty && Text.begins "//" path then path
  else if path.isEmpty || Text.begins "/" path then "//" ++ site ++ path
  else "//" ++ site ++ "/" ++ path

/-- The address of an inbound request without its query. -/
def front (i : Inbound) : Except UrlFault String :=
  (site? i).map fun site =>
    match site with
    | none => lonePath (pathForm i.path)
    | some site =>
      (if i.scheme.isEmpty then "" else i.scheme ++ ":") ++ siteAndPath site (pathForm i.path)

/-- The address of an inbound request. -/
def text (i : Inbound) : Except UrlFault String :=
  (front i).bind fun url =>
    if i.query.isEmpty then .ok url
    else match Utf8.decode? i.query with
      | none => .error .query
      | some q => .ok (url ++ "?" ++ q)

/-- A character that is dropped at the beginning of an address. -/
def isLeading (c : Char) : Bool :=
  c.toNat ≤ 0x20

/-- A character that is dropped wherever it stands. -/
def isDropped (c : Char) : Bool :=
  c = '\t' || c = '\r' || c = '\n'

/-- A character of a scheme. -/
def isSchemeChar (c : Char) : Bool :=
  c.isAlphanum || c = '+' || c = '-' || c = '.'

/-- The scheme of an address and what follows it. -/
def cutScheme (cs : List Char) : String × List Char :=
  match Text.cutAt ':' cs with
  | (c :: s, some rest) =>
    if c.isAlpha && s.all isSchemeChar then ((String.ofList (c :: s)).toLower, rest) else ("", cs)
  | _ => ("", cs)

/-- The end of a site. -/
def endsSite (c : Char) : Bool :=
  c = '/' || c = '?' || c = '#'

/-- The site of an address and what follows it. -/
def cutSite : List Char → List Char × List Char
  | '/' :: '/' :: r => r.span fun c => !endsSite c
  | cs => ([], cs)

/-- A site without the user in front of it. -/
def withoutUser (site : List Char) : List Char :=
  match Text.cutAtLast '@' site with
  | none => site
  | some (_, r) => r

/-- The brackets of a site, if it has any, stand around an address with nothing in front of it and
only a port after it. -/
def hasGoodBrackets (site : List Char) : Bool :=
  if !site.contains '[' && !site.contains ']' then true
  else
    site.contains '[' && site.contains ']' &&
      match Text.cutAt '[' (withoutUser site) with
      | (front, some r) =>
        let (host, rest) := Text.cutAt ']' r
        front.isEmpty && (rest.getD []).head?.all (· == ':') && Host.isLiteral host
      | (cs, none) => Host.isLiteral (Text.cutAt ':' cs).1

/-- A character whose plain form holds one of `/ ? # @ :`. -/
def isDisguised (c : Char) : Bool :=
  [0x2047, 0x2048, 0x2049, 0x2100, 0x2101, 0x2105, 0x2106, 0x2A74, 0xFE13, 0xFE16, 0xFE55, 0xFE56,
    0xFE5F, 0xFE6B, 0xFF03, 0xFF0F, 0xFF1A, 0xFF1F, 0xFF20].contains c.toNat

/-- Takes an address apart. -/
def parse (s : String) : Except UrlFault Url :=
  let cs := (s.toList.dropWhile isLeading).filter fun c => !isDropped c
  let (scheme, r) := cutScheme cs
  let (site, r) := cutSite r
  if !hasGoodBrackets site then .error .brackets
  else if site.any isDisguised then .error .disguised
  else
    .ok { scheme, site := String.ofList site
          path := String.ofList (r.takeWhile fun c => c ≠ '?' && c ≠ '#') }

/-- The host and the text of the port. -/
def hostAndPort (u : Url) : List Char × List Char :=
  match Text.cutAt '[' (withoutUser u.site.toList) with
  | (_, some r) =>
    let (host, rest) := Text.cutAt ']' r
    (host, ((Text.cutAt ':' (rest.getD [])).2).getD [])
  | (cs, none) =>
    let (host, port) := Text.cutAt ':' cs
    (host, port.getD [])

/-- A host in lower case up to its zone. -/
def lowerHost (h : List Char) : String :=
  match Text.cutAt '%' h with
  | (h, none) => Text.lower (String.ofList h)
  | (h, some zone) => Text.lower (String.ofList h) ++ "%" ++ String.ofList zone

/-- The host. -/
def host? (u : Url) : Option String :=
  let h := u.hostAndPort.1
  if h.isEmpty then none else some (lowerHost h)

/-- The port. -/
def port? (u : Url) : Except UrlFault (Option Int) :=
  let p := u.hostAndPort.2
  if p.isEmpty then .ok none
  else if p.all Char.isDigit && p.length ≤ Number.maxDigits && Number.value p ≤ Host.maxPort then
    .ok (some (Number.value p))
  else .error .port

/-- The address of an inbound request, taken apart. -/
def ofInbound (i : Inbound) : Except UrlFault Url :=
  (text i).bind parse

end Url
end LoginGate
