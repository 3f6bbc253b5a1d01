/-
# Settings of the gate

Which paths are protected, where failures lead, and how sessions are kept.

| rule | |
| --- | --- |
| `isProtected` | under a protected path and under no public one |
| `isErrorPage` | equal to the error page without its query |
-/

import LoginGate.Address
import LoginGate.Environment

namespace LoginGate

/-- How the gate behaves.  `Settings.make` puts the error page into its normal form. -/
structure Settings where
  /-- Where a failed login leads, with its query. -/
  errorPage : Option String := none
  /-- Every challenge replaces the saved request. -/
  alwaysSave : Bool := false
  protectedPaths : List String := ["/"]
  publicPaths : List String := ["/healthz"]
  cookieName : String := "OIDCSESSIONID"
  /-- Seconds until an idle session expires. -/
  sessionTtl : Int := 1800
  /-- How many sessions each pool holds. -/
  maxSessions : Int := 10000
  deriving DecidableEq, Repr

namespace Settings

/-- The error page in its normal form: none if it is blank, else with a slash in front. -/
def normalPage (page : Option String) : Option String :=
  match page with
  | none => none
  | some p =>
    if (Text.trim p).isEmpty then none
    else if Text.begins "/" p then some p else some ("/" ++ p)

/-- The warning about an error page without a slash in front. -/
def pageLog (page : Option String) : List LogRecord :=
  match page with
  | none => []
  | some p =>
    if (Text.trim p).isEmpty || Text.begins "/" p then []
    else
      [{ source := .configuration, level := .warning, message := "error page must start with /" }]

/-- The settings with the error page in its normal form. -/
def make (given : Settings) : Settings :=
  { given with errorPage := normalPage given.errorPage }

/-- The path of the error page. -/
def errorPath (s : Settings) : Option String :=
  s.errorPage.map Address.withoutQuery

/-- The path is the one of the error page. -/
def isErrorPage (s : Settings) (path : Option String) : Bool :=
  path.isSome && path == s.errorPath

/-- The path needs a login. -/
def isProtected (s : Settings) (path : String) : Bool :=
  !Address.isUnderAny path s.publicPaths && Address.isUnderAny path s.protectedPaths

/-- The list, or `default` where it is empty. -/
def orDefault (l default : List String) : List String :=
  if l.isEmpty then default else l

/-- The text, or `default` where it is empty. -/
def textOr (s : Option String) (default : String) : String :=
  match s with
  | none => default
  | some s => if s.isEmpty then default else s

/-- The settings that the environment gives. -/
def ofEnvironment (env : Environment) : Settings :=
  let usual : Settings := {}
  make
    { errorPage := env.get? "OIDC_ERROR_PAGE"
      alwaysSave := Environment.flag (env.get? "OIDC_ALWAYS_SAVE_URI") false
      protectedPaths :=
        orDefault (Environment.list (env.get? "OIDC_PROTECTED_PATHS")) usual.protectedPaths
      publicPaths := orDefault (Environment.list (env.get? "OIDC_PUBLIC_PATHS")) usual.publicPaths
      cookieName := textOr (env.get? "OIDC_SESSION_COOKIE") usual.cookieName
      sessionTtl := Environment.int (env.get? "OIDC_SESSION_TTL") usual.sessionTtl
      maxSessions := Environment.int (env.get? "OIDC_MAX_SESSIONS") usual.maxSessions }

/-- What is reported while the environment is read. -/
def environmentLog (env : Environment) : List LogRecord :=
  Environment.intLog "OIDC_SESSION_TTL" env ++ Environment.intLog "OIDC_MAX_SESSIONS" env ++
    pageLog (env.get? "OIDC_ERROR_PAGE")

end Settings
end LoginGate
