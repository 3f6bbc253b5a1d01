/-
# Setting up a gate

A gate is put together from what is given, and from the environment for what is not.

| part | from the environment |
| --- | --- |
| provider | endpoints, or discovery from the issuer |
| settings | all of them |
| service | the token endpoint of the provider, without a directory of users |
| store | empty, as the settings say |
-/

import LoginGate.Gate.Basic

namespace LoginGate

/-- Why a gate cannot be set up. -/
inductive SetupFault where
  | configuration (fault : ConfigurationFault)
  | capacity (fault : CapacityFault)
  deriving DecidableEq, Repr

/-- What setting up a gate leads to, with the requests made, the answers left and the records
written on the way. -/
structure Setup where
  result : Except SetupFault (Gate × SessionStore)
  calls : List Call
  replies : List Reply
  log : List LogRecord

namespace Gate

/-- The provider that is given, or the one of the environment. -/
def providerOr (given : Option Configuration) (depth : Nat) (env : Environment)
    (replies : List Reply) : Discovery :=
  match given with
  | some c => ⟨.ok c, [], replies, []⟩
  | none => Configuration.ofEnvironment depth env replies

/-- The settings that are given, or those of the environment, and the records of reading them. -/
def settingsOr (given : Option Settings) (env : Environment) : Settings × List LogRecord :=
  match given with
  | some s => (s, [])
  | none => (Settings.ofEnvironment env, Settings.environmentLog env)

/-- The login service of a provider without a directory of users. -/
def usualService (provider : Configuration) (depths : Depths) : LoginService :=
  { exchanger := .endpoint provider TokenEndpoint.usualLeeway depths }

/-- An empty store as the settings say. -/
def storeFor (s : Settings) (ids : Supply) : Except CapacityFault SessionStore :=
  SessionStore.make (.whole s.sessionTtl) s.maxSessions ids

/-- Sets up a gate and its store. -/
def setUp (provider : Option Configuration) (settings : Option Settings) (env : Environment)
    (ids : Supply) (depths : Depths) (replies : List Reply) : Setup :=
  let d := providerOr provider depths.discovery env replies
  match d.result with
  | .error fault => ⟨.error (.configuration fault), d.calls, d.replies, d.log⟩
  | .ok provider =>
    let (settings, log) := settingsOr settings env
    match storeFor settings ids with
    | .error fault => ⟨.error (.capacity fault), d.calls, d.replies, d.log ++ log⟩
    | .ok store =>
      ⟨.ok ({ provider, settings, service := usualService provider depths }, store), d.calls,
        d.replies, d.log ++ log⟩

end Gate
end LoginGate
