/-
# Addresses

The parts of an address that the gate writes: the origin with the port left out where it is the one
of the scheme, paths joined with one slash, and a path without its query.
-/

import LoginGate.Text.Case
import LoginGate.Text.Pieces

namespace LoginGate
namespace Address

/-- The port that a scheme uses unless an address names one. -/
def usualPort? (scheme : String) : Option Int :=
  if scheme = "http" ∨ scheme = "ws" then some 80
  else if scheme = "https" ∨ scheme = "wss" then some 443
  else none

/-- The host as an address writes it: one with a colon stands in brackets. -/
def hostForm (host : String) : String :=
  if host.toList.contains ':' && !Text.begins "[" host then "[" ++ host ++ "]" else host

/-- `scheme://host`, with the port if it is positive and not the one of the scheme. -/
def origin (scheme host : String) (port : Option Int) : String :=
  let scheme := Text.lower scheme
  let front := scheme ++ "://" ++ hostForm host
  match port with
  | none => front
  | some p =>
    if p ≤ 0 ∨ usualPort? scheme = some p then front else front ++ ":" ++ toString p

/-- Two paths with one slash between them; without a second path the first, or `/`. -/
def join (base : String) (path : Option String) : String :=
  match path with
  | none => orRoot base
  | some path =>
    if path.isEmpty then orRoot base
    else if base.isEmpty then path
    else if Text.endsWith '/' base && Text.begins "/" path then base ++ Text.dropChars 1 path
    else if Text.endsWith '/' base || Text.begins "/" path then base ++ path
    else base ++ "/" ++ path
where
  /-- The path, or `/` where it is empty. -/
  orRoot (base : String) : String := if base.isEmpty then "/" else base

/-- The path before its query. -/
def withoutQuery (path : String) : String :=
  Text.upTo '?' path

/-- The path is `base` or lies below it; slashes at the end of `base` do not matter below it. -/
def isUnder (path base : String) : Bool :=
  path == base || Text.begins (Text.dropEndChar '/' base ++ "/") path

/-- The path is under one of `bases`. -/
def isUnderAny (path : String) (bases : List String) : Bool :=
  bases.any (isUnder path)

end Address
end LoginGate
