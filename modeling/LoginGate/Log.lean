/-
# Log records

What the gate reports while it works: which part speaks, how loud, the message, and the context of
the request.  The context holds the first six characters of the session id and the correlation id,
and nothing else of a request.
-/

import LoginGate.Json.Basic
import LoginGate.Text.Pieces

namespace LoginGate

/-- How loud a record is. -/
inductive Level where
  | debug
  | info
  | warning
  deriving DecidableEq, Repr

/-- The name of a level. -/
def Level.name : Level → String
  | .debug => "DEBUG"
  | .info => "INFO"
  | .warning => "WARNING"

/-- The part of the gate that speaks. -/
inductive Source where
  | environment
  | configuration
  | session
  | csrf
  | savedRequest
  | challenge
  | cache
  | login
  | callback
  | authenticator
  | middleware
  | correlation
  | routes
  | application
  deriving DecidableEq, Repr

/-- The name of a part, below the name of the package. -/
def Source.name : Source → String
  | .environment => "utils.environment"
  | .configuration => "core.config"
  | .session => "core.session"
  | .csrf => "core.csrf"
  | .savedRequest => "core.saved_request"
  | .challenge => "core.challenge"
  | .cache => "core.cache"
  | .login => "core.login"
  | .callback => "core.callback"
  | .authenticator => "core.authenticator"
  | .middleware => "servers.middleware"
  | .correlation => "servers.correlation"
  | .routes => "servers.routes"
  | .application => "servers.app"

/-- The context of a request in a record. -/
structure LogContext where
  /-- The session id, shortened. -/
  session : Option String := none
  /-- The correlation id. -/
  correlation : Option String := none
  deriving DecidableEq, Repr

namespace LogContext

/-- How many characters of a session id a record shows. -/
def shownLength : Nat := 6

/-- A session id as records show it. -/
def shorten (id : String) : String :=
  Text.firstChars shownLength id

/-- The context of a request with a session id and a correlation id. -/
def of (session correlation : Option String) : LogContext :=
  ⟨session.map shorten, correlation⟩

/-- A text that may be missing, as a field. -/
def field (name : String) (text : Option String) : Fields :=
  text.toList.map fun (s : String) => (name, .text s)

/-- The context as fields. -/
def fields (c : LogContext) : Fields :=
  field "session_id" c.session ++ field "correlation_id" c.correlation

/-- The fields of a record with a context: those that the caller gave win. -/
def addTo (c : LogContext) (given : Fields) : Fields :=
  given ++ c.fields.filter fun (k, _) => (Fields.get? k given).isNone

end LogContext

/-- A log record. -/
structure LogRecord where
  source : Source
  level : Level
  message : WideText
  context : LogContext := {}
  deriving DecidableEq, Repr

/-- A record without context at the level for details. -/
def LogRecord.detail (source : Source) (message : WideText) : LogRecord :=
  { source, level := .debug, message }

namespace Logging

/-- The name of the logger above all parts. -/
def packageName : String := "openid-authenticator"

/-- The name of the logger that contexts are added to unless another is given. -/
def contextName : String := packageName ++ ".core"

/-- The level that is set up unless another is given: warnings and louder. -/
def defaultLevel : Int := 30

/-- The pattern of a printed record. -/
def recordPattern : String := "%(asctime)s - %(name)s - %(levelname)s - %(message)s"

/-- Loggers as they stand: the levels of the root and of the package, and the patterns of the
handlers on the root. -/
structure Setup where
  rootLevel : Int
  packageLevel : Int
  handlers : List String

/-- Sets both levels and leaves one handler, which prints records by the pattern. -/
def configure (level : Int) (_before : Setup) : Setup :=
  ⟨level, level, [recordPattern]⟩

end Logging
end LoginGate
