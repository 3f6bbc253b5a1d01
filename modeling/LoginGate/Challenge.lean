/-
# Challenges

A challenge sends the browser to the provider, which sends it back to the callback address with a
code.  The callback address is made from the origin and the context path alone, so that the one that
redeems the code is the one that was sent here.

`parameters` are what the provider reads in the query, in this order.  Their values are escaped, and
a blank, whose escape would be `%20`, is written as `+`.
-/

import LoginGate.Provider.Configuration
import LoginGate.Json.Spelled
import LoginGate.Request
import LoginGate.Session.Csrf

namespace LoginGate
namespace Challenge

/-- The scope that asks for an ID token. -/
def baseScope : String := "openid"

/-- The scopes that are asked for, with blanks between them. -/
def scope (c : Configuration) : String :=
  " ".intercalate (baseScope :: c.scopes.filter fun s => !s.isEmpty && s ≠ baseScope)

/-- What the provider is told, in order. -/
def parameters (c : Configuration) (q : Request) (token : String) : List (String × String) :=
  [("client_id", c.clientId), ("redirect_uri", q.callbackUrl), ("scope", scope c),
    ("state", token), ("response_type", "code")]

/-- The characters with every escape of a blank written as `+`. -/
def plusBlanks : List Char → List Char
  | '%' :: '2' :: '0' :: r => '+' :: plusBlanks r
  | c :: r => c :: plusBlanks r
  | [] => []

/-- The text of a value: all but the unreserved characters escaped, and blanks as `+`. -/
def encode (s : String) : String :=
  String.ofList (plusBlanks (Percent.encode Percent.isUnreserved s).toList)

/-- A parameter in the query. -/
def writeParameter (p : String × String) : String :=
  p.1 ++ "=" ++ encode p.2

/-- The query of a challenge. -/
def query (c : Configuration) (q : Request) (token : String) : String :=
  "&".intercalate ((parameters c q token).map writeParameter)

/-- An endpoint has a query of its own; none where an endpoint is no text and holds no texts. -/
def hasQuery? : Json → Option Bool
  | .text s => some (s.points.contains (.char '?'))
  | .array items => some (items.contains (.text "?"))
  | .object fields => some (Fields.get? "?" fields).isSome
  | _ => none

/-- The address of the provider for a challenge. -/
def url? (c : Configuration) (q : Request) (token : String) : Option WideText :=
  (hasQuery? c.authorizationEndpoint).map fun has =>
    c.authorizationEndpoint.spelled ++ ((if has then "&" else "?") ++ query c q token : String)

/-- The record of a challenge. -/
def builtLog (q : Request) (token : String) : LogRecord :=
  .detail .challenge <|
    "Built challenge for redirect_uri=" ++ q.callbackUrl ++ " state=" ++
      Secret.mask token Csrf.shownLength

end Challenge
end LoginGate
