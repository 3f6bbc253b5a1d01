/-
# What becomes of a request at the guard

The guard looks a request up twice: once to put the saved method back, and once to decide.  The
equations here say what it answers or admits in terms of the decision.  For the gate two requests of
the same address differ in nothing but what their headers and their body say.

| the guard | by the decision |
| --- | --- |
| answers | something was sent |
| admits | nothing was, and the request keeps its session id |
| breaks off | it ended with a fault, or what it sent, or the cookie, cannot be written |
-/

import LoginGate.Proofs.Admission
import LoginGate.Proofs.CallbackPath
import LoginGate.Proofs.Preparation
import LoginGate.Proofs.Reachable

namespace LoginGate

/-- The request with the saved method put back. -/
def World.prepared (w : World) (q : Request) : Request :=
  { q with method := (w.savedMethod? q).getD q.method }

/-- Nothing is put back where no method is saved. -/
theorem World.prepared_of_none {w : World} {q : Request} (h : w.savedMethod? q = none) :
    w.prepared q = q := by
  rw [prepared, h]
  rfl

namespace Gate

open Step (Finds)

variable {g : Gate} {v x : Visit} {session : Option Serial} {n : Serial}

/-- Preparing a request puts the saved method back. -/
theorem on_prepare (found : Step.requestSession.on v = (.ok session, x)) :
    ∃ done log, prepare.on v =
      (.ok done, { x with request := v.world.prepared v.request, log }) := by
  have finds := Step.requestSession_finds v
  rw [found] at finds
  have request : x.request = v.request := request_of_finds finds
  rw [World.prepared, World.savedMethod?, live?_of_finds finds, prepare, Step.on_bind_ok found]
  cases session with
  | none =>
    rw [Option.bind_none, Option.getD_none, ← request]
    exact ⟨_, _, rfl⟩
  | some n =>
    have same : x.session n = v.world.session n := finds_session finds n
    dsimp only
    rw [Step.on_bind_ok (Step.on_get x), Step.on_bind_ok (Step.on_session n x), same, request,
      Option.bind_some]
    cases SavedRequest.restoredMethod? v.request (v.world.session n) with
    | none =>
      rw [Option.getD_none, ← request]
      exact ⟨_, _, rfl⟩
    | some method => exact ⟨_, _, by rw [← request]; rfl⟩

end Gate

namespace Guard

open Gate (Decides)
open Step (Finds)

variable {g : Gate} {v x : Visit} {session : Option Serial} {mandatory : Bool}
  {c : Option String} {i j : Inbound} {r s : Reception} {q : Request} {o : Outcome}
  {response : Response}

/-! ## The decision -/

/-- How a decision of the guard ends: as that of the gate on the prepared request, once the session
was looked for. -/
inductive Considers (g : Gate) (mandatory : Bool) (v : Visit) :
    Except Fault Outcome → Visit → Prop
  | unfound {fault : Fault} {w : Visit} (finds : Finds v (.error fault) w) :
      Considers g mandatory v (.error fault) w
  | decided {session : Option Serial} {u w : Visit} {d : Except Fault Outcome}
      {before after : List LogRecord} (finds : Finds v (.ok session) u)
      (decides : Decides g mandatory
        { u with request := v.world.prepared v.request, log := before } d w) :
      Considers g mandatory v d { w with log := after }

/-- The course of a decision of the guard. -/
theorem decision_considers (g : Gate) (mandatory : Bool) (v : Visit) :
    Considers g mandatory v ((decision g mandatory).on v).1 ((decision g mandatory).on v).2 := by
  have finds := Step.requestSession_finds v
  rcases found : Step.requestSession.on v with ⟨fault | session, u⟩ <;> rw [found] at finds
  · have broken : Gate.prepare.on v = (.error fault, u) := by
      rw [Gate.prepare, Step.on_bind, found]
    rw [decision, Step.on_bind, broken]
    exact .unfound finds
  · obtain ⟨done, log, prepared⟩ := Gate.on_prepare found
    have decides := Gate.validate_decides g mandatory
      { u with request := v.world.prepared v.request, log }
    rw [decision, Step.on_bind_ok prepared, Step.on_bind]
    rcases decided : (g.validate mandatory).on
      { u with request := v.world.prepared v.request, log } with ⟨fault | o, w⟩ <;>
      rw [decided] at decides
    · have done : Considers g mandatory v (.error fault) { w with log := w.log } :=
        .decided finds decides
      exact done
    · exact .decided finds decides

variable {d : Except Fault Outcome}

/-- What the operations of the store keep, a decision of the guard keeps. -/
theorem Considers.keeps {P : SessionStore → Prop} (h : Considers g mandatory v d x)
    (kept : SessionStore.Kept P v.world.now) (start : P v.world.store) : P x.world.store := by
  cases h with
  | unfound finds => exact Gate.finds_keeps finds kept start
  | decided finds decides =>
    have found := Gate.finds_keeps finds kept start
    exact decides.keeps ((Gate.finds_evolves finds).now ▸ kept) found

/-! ## The guard -/

/-- What the guard makes of a decision, with the headers that set the session cookie, if it can
write what was sent. -/
def passageOf (i : Inbound) (o : Outcome) (x : Visit) (cookie : List (String × String)) :
    Except ResponseFault Passage :=
  if o.isSent then (sent x.channel).map fun response => .answered (response.withHeaders cookie)
  else .ok (.admitted (admission i x.request o))

/-- A decision that can be passed on is passed on. -/
theorem on_enter {cookie : List (String × String)}
    (known : requestOf g.settings.cookieName i.form? c i = .ok q)
    (decided : (decision g (g.settings.isProtected q.pathInContext)).on
      { world := r.world, request := q } = (.ok o, x))
    (set : sessionCookie g.settings.cookieName q x.request = .ok cookie) :
    ∃ s, (enter g c i).on r = ((passageOf i o x cookie).mapError .response, s) ∧
      s.world = x.world := by
  have visited : (Handling.visit q (decision g (g.settings.isProtected q.pathInContext))).on r =
      (.ok (o, x), Handling.after x r) := by
    rw [Handling.on_visit, decided]
  rw [enter, known, passageOf, Handling.on_bind]
  dsimp only [Handling.address, Handling.on_pure]
  rw [Handling.on_bind, visited]
  dsimp only
  rw [set]
  dsimp only
  split
  · cases sent x.channel with
    | error fault => exact ⟨_, rfl, rfl⟩
    | ok response => exact ⟨_, rfl, rfl⟩
  · split <;> exact ⟨_, rfl, rfl⟩

/-- What the guard lets pass, it passes on by a decision. -/
theorem exists_of_enter {passage : Passage} (done : (enter g c i).on r = (.ok passage, s)) :
    ∃ q o x cookie, requestOf g.settings.cookieName i.form? c i = .ok q ∧
      (decision g (g.settings.isProtected q.pathInContext)).on
        { world := r.world, request := q } = (.ok o, x) ∧
      sessionCookie g.settings.cookieName q x.request = .ok cookie ∧
      passageOf i o x cookie = .ok passage ∧ s.world = x.world := by
  obtain ⟨q, t, address, rest⟩ := Handling.of_bind_eq_ok (congrArg Prod.fst done)
  have known := Handling.of_address_eq_ok address
  have same : t = r := by
    rw [known] at address
    exact (Prod.mk.inj address).2.symm
  subst same
  obtain ⟨⟨o, x⟩, u, visit, rest⟩ := Handling.of_bind_eq_ok rest
  have decided := Handling.of_visit_eq_ok visit
  cases set : sessionCookie g.settings.cookieName q x.request with
  | error fault => simp [set] at rest
  | ok cookie =>
    obtain ⟨s', passed, world⟩ := on_enter known decided set
    obtain ⟨same, rfl⟩ := Prod.mk.inj (done.symm.trans passed)
    refine ⟨q, o, x, cookie, known, decided, set, ?_, world⟩
    cases made : passageOf i o x cookie with
    | error fault => simp [made, Except.mapError] at same
    | ok passage' =>
      rw [made] at same
      exact congrArg _ (Except.ok.inj same).symm

/-- **What is answered** was sent by the gate, with the session cookie that it needs. -/
theorem exists_of_answered (done : (enter g c i).on r = (.ok (.answered response), s)) :
    ∃ q o x cookie written, requestOf g.settings.cookieName i.form? c i = .ok q ∧
      Considers g (g.settings.isProtected q.pathInContext) { world := r.world, request := q }
        (.ok o) x ∧
      sessionCookie g.settings.cookieName q x.request = .ok cookie ∧ o.isSent = true ∧
      sent x.channel = .ok written ∧ response = written.withHeaders cookie ∧
      s.world = x.world := by
  obtain ⟨q, o, x, cookie, known, decided, set, passed, world⟩ := exists_of_enter done
  have considers := decision_considers g (g.settings.isProtected q.pathInContext)
    { world := r.world, request := q }
  rw [decided] at considers
  unfold passageOf at passed
  split at passed
  · rename_i isSent
    cases wrote : sent x.channel with
    | error fault =>
      rw [wrote] at passed
      cases passed
    | ok written =>
      rw [wrote] at passed
      exact ⟨q, o, x, cookie, written, known, considers, set, isSent, wrote,
        (Passage.answered.inj (Except.ok.inj passed)).symm, world⟩
  · cases passed

/-- **What the gate leaves to the application is admitted,** if it keeps its session id. -/
theorem enter_admits (known : requestOf g.settings.cookieName i.form? c i = .ok q)
    (decided : (decision g (g.settings.isProtected q.pathInContext)).on
      { world := r.world, request := q } = (.ok o, x))
    (unsent : o.isSent = false) (same : x.request.sessionId = q.sessionId) :
    ∃ s, (enter g c i).on r = (.ok (.admitted (admission i x.request o)), s) ∧
      s.world = x.world := by
  obtain ⟨s, done, world⟩ := on_enter known decided (sessionCookie_of_eq same)
  rw [passageOf, unsent, if_neg Bool.false_ne_true] at done
  exact ⟨s, done, world⟩

/-! ## Requests of one address -/

variable {name : String} {form : Option Form}

/-- What the guard shows to the gate of an inbound request, in the gate's own terms. -/
theorem requestOf_eq_ok_iff : requestOf name form c i = .ok q ↔
    ∃ url port, Url.ofInbound i = .ok url ∧ url.port? = .ok port ∧
      q =
        { method := .wide i.method
          scheme := url.scheme
          host := url.host?.getD "localhost"
          port
          path := i.pathInContext
          query := i.queryText
          context := i.mount
          contentType := i.header? "content-type"
          httpVersion := i.httpVersion
          sessionId := (cookieSession? i name).or (addressSession? i name)
          sessionFromUrl := (cookieSession? i name).isNone && (addressSession? i name).isSome
          form
          correlation := c } := by
  unfold requestOf
  cases address : Url.ofInbound i with
  | error => simp [Except.bind]
  | ok url => cases port : url.port? <;> simp [port, Except.bind, Except.map, eq_comm]

/-- A request with a session cookie names the session of the cookie. -/
theorem session_of_cookie {id : String} (h : requestOf name form c i = .ok q)
    (cookie : cookieSession? i name = some id) :
    q.sessionId = some id ∧ q.sessionFromUrl = false := by
  obtain ⟨url, port, -, -, rfl⟩ := requestOf_eq_ok_iff.1 h
  rw [cookie]
  exact ⟨rfl, rfl⟩

end Guard

/-- Two inbound requests of one address. -/
structure Inbound.SameAddress (i j : Inbound) : Prop where
  scheme : j.scheme = i.scheme
  host : j.header? "host" = i.header? "host"
  server : j.server = i.server
  mount : j.mount = i.mount
  path : j.path = i.path
  query : j.query = i.query

namespace Inbound.SameAddress

variable {i j : Inbound}

/-- Requests of one address are read as one address. -/
theorem ofInbound_eq (h : i.SameAddress j) : Url.ofInbound j = Url.ofInbound i := by
  simp only [Url.ofInbound, Url.text, Url.front, Url.site?, h.scheme, h.host, h.server, h.path,
    h.query]

/-- Requests of one address have the same path below the mount. -/
theorem pathInContext_eq (h : i.SameAddress j) : j.pathInContext = i.pathInContext := by
  simp only [pathInContext, h.path, h.mount]

end Inbound.SameAddress

namespace Guard

variable {i j : Inbound} {name : String} {form : Option Form} {c : Option String} {q : Request}

/-- Requests of one address are shown to the gate with one address. -/
theorem exists_requestOf_of_sameAddress (same : i.SameAddress j)
    (h : requestOf name form c i = .ok q) (form' : Option Form) (c' : Option String) :
    ∃ p, requestOf name form' c' j = .ok p ∧ p.url = q.url ∧ p.uri = q.uri ∧
      p.method = .wide j.method ∧ p.restored = false := by
  obtain ⟨url, port, address, port?, rfl⟩ := requestOf_eq_ok_iff.1 h
  have query : j.queryText = i.queryText := by rw [Inbound.queryText, Inbound.queryText, same.query]
  refine ⟨_, requestOf_eq_ok_iff.2 ⟨url, port, same.ofInbound_eq.trans address, port?, rfl⟩, ?_⟩
  simp only [Request.url, Request.origin, Request.uri, same.pathInContext_eq, same.mount, query,
    and_self]

end Guard

/-! ## A form as the body -/

namespace Inbound

/-- A form that was put back is the body of the request. -/
theorem body_withForm (f : Form) (i : Inbound) : (i.withForm f).body = Utf8.encode (Form.write f) :=
  rfl

/-- The headers about the body are those of the form alone. -/
theorem headerAll_withForm (f : Form) (i : Inbound) :
    (i.withForm f).headerAll "content-type" = [formType] ∧
      (i.withForm f).headerAll "content-length" = [toString (i.withForm f).body.length] := by
  have none (name : String) (body : name = "content-type" ∨ name = "content-length") :
      (i.headers.filter fun h => !isBodyHeader h).filter (fun h => h.1 == name) = [] := by
    rw [List.filter_filter, List.filter_eq_nil_iff]
    rintro ⟨key, value⟩ - both
    obtain ⟨own, other⟩ := Bool.and_eq_true_iff.1 both
    obtain rfl := eq_of_beq own
    obtain rfl | rfl := body <;> cases other
  constructor
  · rw [headerAll, withForm, List.filter_append, none _ (.inl rfl)]
    rfl
  · rw [headerAll, withForm, List.filter_append, none _ (.inr rfl)]
    rfl

end Inbound
end LoginGate
