/-
# The text that guards a login

A session that starts a login is given a random text, which the provider has to send back.  The text
stays for the life of the session, so that several logins may be under way at once.
-/

import LoginGate.Log
import LoginGate.Secret
import LoginGate.Session.Basic
import LoginGate.Supply

namespace LoginGate

/-- A session with its token, and the tokens to come. -/
structure IssuedToken where
  token : Attribute
  session : Session
  tokens : Supply
  log : List LogRecord

namespace Csrf

/-- How much of a token a message shows. -/
def shownLength : Int := 4

/-- The token of a session; none where it counts as false. -/
def token? (s : Session) : Option Attribute :=
  Attribute.truthy s.csrfToken

/-- The record of a new token. -/
def issuedLog (token : String) : LogRecord :=
  .detail .csrf ("Issued csrf token=" ++ Secret.mask token shownLength)

/-- The session with a token: the one it has, or else a new one. -/
def ensure (tokens : Supply) (s : Session) : IssuedToken :=
  match token? s with
  | some token => ⟨token, s, tokens, []⟩
  | none =>
    let (token, tokens) := tokens.draw
    ⟨.text token, { s with csrfToken := some (.text token) }, tokens, [issuedLog token]⟩

/-- Whether the text that was sent back is the token of the session; no answer where the token is no
text. -/
def accepts? (s : Session) (state : Option String) : Option Bool :=
  match token? s, state with
  | some token, some state => token.text?.map fun text => text == state
  | _, _ => some false

end Csrf
end LoginGate
