/-
# The guard

The guard stands in front of an application.  It shows every inbound request to the gate, and either
answers it with what the gate sent or admits it.

| of the request | the gate sees |
| --- | --- |
| session id | the session cookie, or else the parameter of its name, which is flagged |
| path | what is below the mount |
| form | the body, where a form is submitted |

An admitted request has the method that the gate gave it.  Where the gate put a saved request back,
its form is the body.
-/

import LoginGate.Gate.Decision
import LoginGate.Secret
import LoginGate.Web.Handling

namespace LoginGate

/-- A request that the guard lets through to the application. -/
structure Admission where
  inbound : Inbound
  outcome : Outcome
  /-- The body that came with the request follows the one that was put in its place. -/
  leftover : Bool
  deriving DecidableEq, Repr

/-- What the guard does with an inbound request. -/
inductive Passage where
  | answered (response : Response)
  | admitted (admission : Admission)
  deriving DecidableEq, Repr

namespace Guard

/-- The session id in the session cookie. -/
def cookieSession? (i : Inbound) (cookieName : String) : Option String :=
  (Cookie.read? i cookieName).filter fun id => !id.isEmpty

/-- The session id in the address. -/
def addressSession? (i : Inbound) (cookieName : String) : Option String :=
  (i.parameter? cookieName).filter fun id => !id.isEmpty

/-- An inbound request as the gate sees it. -/
def requestOf (cookieName : String) (form : Option Form) (correlation : Option String)
    (i : Inbound) : Except UrlFault Request :=
  (Url.ofInbound i).bind fun url =>
    url.port?.map fun port =>
      { method := .wide i.method
        scheme := url.scheme
        host := url.host?.getD "localhost"
        port
        path := i.pathInContext
        query := i.queryText
        context := i.mount
        contentType := i.header? "content-type"
        httpVersion := i.httpVersion
        sessionId := (cookieSession? i cookieName).or (addressSession? i cookieName)
        sessionFromUrl :=
          (cookieSession? i cookieName).isNone && (addressSession? i cookieName).isSome
        form
        correlation }

/-- How many characters of a session id the record of a decision shows. -/
def shownLength : Int := 6

/-- The record of a decision on a request. -/
def decisionLog (q : Request) (o : Outcome) : LogRecord :=
  .detail .middleware
    (q.method.spelled ++ (" " ++ q.uri ++ " -> " ++ o.status ++ " session=" ++
      Secret.mask (q.sessionId.getD "") shownLength : String))

/-- Puts the saved method back and decides. -/
def decision (g : Gate) (mandatory : Bool) : Step Outcome := do
  let _ ← Gate.prepare
  let outcome ← g.validate mandatory
  Step.logAll [decisionLog (← get).request outcome]
  pure outcome

/-- The header that gives the browser its session id, where the visit changed it. -/
def sessionCookie (cookieName : String) (before after : Request) :
    Except CookieFault (List (String × String)) :=
  match after.sessionId with
  | none => .ok []
  | some id =>
    if id.isEmpty || before.sessionId == some id then .ok []
    else
      let path := if after.context.isEmpty then "/" else after.context
      (Cookie.write cookieName id path (after.scheme == "https")).map fun header => [header]

/-- A request that keeps its session id sets no cookie. -/
theorem sessionCookie_of_eq {cookieName : String} {before after : Request}
    (h : after.sessionId = before.sessionId) : sessionCookie cookieName before after = .ok [] := by
  unfold sessionCookie
  rw [h]
  split <;> simp_all

/-- The response that stands in a channel: a redirect, or the text of a refusal. -/
def sent : Channel → Except ResponseFault Response
  | .buffered status (some location) =>
    (Response.textOf location.spelled).map (.redirect (status.getD 303))
  | .buffered status none =>
    let status := status.getD Step.forbidden
    .ok (.plain status (if status = Step.forbidden then "Forbidden" else ""))
  | _ => .ok (.plain Step.forbidden "Forbidden")

/-- The record of a changed method. -/
def dispatchLog (before after : WideText) : LogRecord :=
  .detail .middleware ("Dispatching " ++ before ++ " as " ++ after)

/-- The inbound request as the application sees it after a visit. -/
def admission (i : Inbound) (q : Request) (outcome : Outcome) : Admission :=
  let renamed := { i with method := q.method.spelled }
  match q.restored, q.form with
  | true, some form => ⟨renamed.withForm form, outcome, !i.submitsForm⟩
  | _, _ => ⟨renamed, outcome, false⟩

/-- The application sees the outcome of the visit. -/
theorem admission_outcome (i : Inbound) (q : Request) (o : Outcome) :
    (admission i q o).outcome = o := by
  unfold admission
  split <;> rfl

/-- Shows an inbound request to the gate, which answers it or admits it. -/
def enter (g : Gate) (correlation : Option String) (i : Inbound) : Handling Passage := do
  let cookieName := g.settings.cookieName
  let q ← Handling.address (requestOf cookieName i.form? correlation i)
  let (outcome, v) ← Handling.visit q (decision g (g.settings.isProtected q.pathInContext))
  match sessionCookie cookieName q v.request with
  | .error fault => throw (.cookie fault)
  | .ok cookie =>
    if outcome.isSent then
      let response ← Handling.written (sent v.channel)
      pure (.answered (response.withHeaders cookie))
    else
      if v.request.method ≠ q.method then
        Handling.log (dispatchLog i.method v.request.method.spelled)
      pure (.admitted (admission i v.request outcome))

end Guard
end LoginGate
