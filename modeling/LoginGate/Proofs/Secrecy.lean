/-
# What a callback discloses

A decision discloses the records that it writes, what it tells the application, and what the browser
gets.

| part | disclosed |
| --- | --- |
| records | source, level, message and context |
| outcome | status, reason and identity, or the fault |
| response | status and location |

A callback works with secrets: the secret of the client, the code, the state, the token of its
session, and the answer of the provider.  What it discloses depends on the claims in the answer and
on whether the state is the token, but on nothing else of them.
-/

import LoginGate.Proofs.Beside
import LoginGate.Proofs.Breakdown
import LoginGate.Proofs.Twins

namespace LoginGate

/-! ## Exchanges and logins -/

/-- Two exchangers of a kind that differ in the secret of the client, or in what a list of codes
holds. -/
inductive Exchanger.Twin : Exchanger → Exchanger → Prop
  | book (entries others : List (String × Except VerificationFault Verified)) :
      Exchanger.Twin (.book entries) (.book others)
  | endpoint (c : Configuration) (clientSecret : String) (leeway : Seconds) (depths : Depths) :
      Exchanger.Twin (.endpoint c leeway depths) (.endpoint { c with clientSecret } leeway depths)

/-- Two logins that come to the same, with the same claims and the same records. -/
structure LoginAttempt.Twin (a b : LoginAttempt) : Prop where
  result : b.result = a.result
  claims : b.credentials.verified.map Verified.claims = a.credentials.verified.map Verified.claims
  log : b.log = a.log

/-- Two outcomes with the same status, for the same reason or the same user. -/
inductive Outcome.Twin : Outcome → Outcome → Prop
  | same (o : Outcome) : Outcome.Twin o o
  | authenticated {a b : AuthResult} (results : a.Twin b) (sent : Bool) :
      Outcome.Twin (.authenticated a sent) (.authenticated b sent)

/-- Two exchanges with the same claims or the same fault: both fail alike, or both yield claims. -/
theorem cases_of_claims_eq {r r' : Except ExchangeFault Verified}
    (same : r'.map Verified.claims = r.map Verified.claims) :
    (∃ fault, r = .error fault ∧ r' = .error fault) ∨
      ∃ y z, r = .ok y ∧ r' = .ok z ∧ z.claims = y.claims := by
  match r, r' with
  | .error fault, .error _ => exact .inl ⟨fault, rfl, congrArg _ (Except.error.inj same)⟩
  | .ok y, .ok z => exact .inr ⟨y, z, rfl, rfl, Except.ok.inj same⟩
  | .error _, .ok _ | .ok _, .error _ => cases same

/-- What an exchange reports follows from the claims that it yields, or from its fault. -/
theorem Exchanger.Twin.log_eq {e e' : Exchanger} {now : Instant} {replies others : List Reply}
    {code code' redirectUri : String} (h : e.Twin e')
    (same : (e'.exchange now others code' redirectUri).result.map Verified.claims =
      (e.exchange now replies code redirectUri).result.map Verified.claims) :
    (e'.exchange now others code' redirectUri).log =
      (e.exchange now replies code redirectUri).log := by
  cases h with
  | book => rfl
  | endpoint c clientSecret leeway depths =>
    dsimp only [Exchanger.exchange] at same ⊢
    rw [TokenEndpoint.exchange_result, TokenEndpoint.exchange_result] at same
    dsimp only [TokenEndpoint.exchange]
    obtain ⟨fault, left, right⟩ | ⟨y, z, left, right, claims⟩ := cases_of_claims_eq same
    · rw [left, right]
    · rw [left, right]
      dsimp only
      rw [TokenEndpoint.redeemedLog, TokenEndpoint.redeemedLog, claims]

/-- **Logins are twins** if the exchanges of their codes yield the same claims, or the same
fault. -/
theorem LoginService.login_twin {s t : LoginService} {now : Instant} {replies others : List Reply}
    {code code' redirectUri : String} (newcomers : t.newcomers = s.newcomers)
    (exchanger : s.exchanger.Twin t.exchanger) (users : Option Users)
    (same : (t.exchanger.exchange now others code' redirectUri).result.map Verified.claims =
      (s.exchanger.exchange now replies code redirectUri).result.map Verified.claims) :
    (s.login users now replies { code, redirectUri }).Twin
      (t.login users now others { code := code', redirectUri }) := by
  have identify : ∀ claims, t.identify users claims = s.identify users claims := by
    intro claims
    unfold LoginService.identify LoginService.rolesFor
    rw [newcomers]
  have log := exchanger.log_eq same
  unfold LoginService.login LoginService.redeem
  dsimp only
  generalize s.exchanger.exchange now replies code redirectUri = e at same log ⊢
  generalize t.exchanger.exchange now others code' redirectUri = e' at same log ⊢
  obtain ⟨fault, left, right⟩ | ⟨y, z, left, right, claims⟩ := cases_of_claims_eq same
  · rw [left, right]
    cases fault with
    | breakdown => exact ⟨rfl, rfl, log⟩
    | verification => exact ⟨rfl, rfl, congrArg (· ++ _) log⟩
  · rw [left, right]
    dsimp only
    rw [claims, identify]
    cases s.identify users y.claims with
    | error => exact ⟨rfl, congrArg some claims, congrArg (· ++ _) log⟩
    | ok => exact ⟨rfl, congrArg some claims, log⟩

/-! ## The token of a session -/

namespace Csrf

variable {a b : Session} {state state' : Option String}

/-- There is no answer only where a state is sent to a session whose token is no text. -/
theorem accepts?_eq_none_iff :
    accepts? a state = none ↔
      state.isSome = true ∧ ∃ token, token? a = some token ∧ token.text? = none := by
  unfold accepts?
  cases token? a with
  | none => simp
  | some token => cases state <;> simp

/-- The token of one of two twins is no text only where the token of the other is none either. -/
theorem unreadable_iff (h : a.Twin b) :
    (∃ token, token? b = some token ∧ token.text? = none) ↔
      ∃ token, token? a = some token ∧ token.text? = none := by
  have readable : ∀ {s : Session} {t : String}, s.csrfToken = some (.text t) →
      ¬ ∃ token, token? s = some token ∧ token.text? = none := by
    rintro s t held ⟨token, shown, unreadable⟩
    rw [token?, held] at shown
    obtain rfl : Attribute.text t = token :=
      Option.some.inj (Option.filter_eq_some_iff.1 shown).1
    cases unreadable
  have tokens := h.csrfToken
  generalize left : a.csrfToken = x at tokens
  generalize right : b.csrfToken = y at tokens
  cases tokens with
  | same => rw [token?, token?, left, right]
  | texts => exact iff_of_false (readable right) (readable left)

/-- **Twins answer a state alike,** if both take it or neither. -/
theorem accepts?_eq (h : a.Twin b) (sent : state'.isSome = state.isSome)
    (takes : accepts? a state = some true ↔ accepts? b state' = some true) :
    accepts? b state' = accepts? a state := by
  -- That both take the state leaves open whether both refuse it or one has no answer.
  have silent : accepts? b state' = none ↔ accepts? a state = none := by
    rw [accepts?_eq_none_iff, accepts?_eq_none_iff, sent, unreadable_iff h]
  generalize accepts? a state = r at takes silent
  generalize accepts? b state' = r' at takes silent
  match r, r' with
  | none, none | some true, some true | some false, some false => rfl
  | none, some _ => exact absurd (silent.2 rfl) nofun
  | some _, none => exact absurd (silent.1 rfl) nofun
  | some true, some false => exact absurd (takes.1 rfl) nofun
  | some false, some true => exact absurd (takes.2 rfl) nofun

end Csrf

namespace Gate

open Step (Ended Discreet discreet_pure discreet_read discreet_logAll discreet_detail
  discreet_context discreet_session discreet_modifySession discreet_write discreet_redirect
  discreet_sendFailure discreet_requestSession discreet_issued)

/-! ## Gates -/

/-- Two gates that differ in secrets alone. -/
structure Twin (g h : Gate) : Prop where
  provider : h.provider = { g.provider with clientSecret := h.provider.clientSecret }
  settings : h.settings = g.settings
  newcomers : h.service.newcomers = g.service.newcomers
  exchanger : g.service.exchanger.Twin h.service.exchanger

/-- The exchanges of the codes of two visits yield the same claims, or the same fault. -/
def Concur (g h : Gate) (v u : Visit) : Prop :=
  ∀ code code', v.request.parameter "code" = some code → u.request.parameter "code" = some code' →
    (h.service.exchanger.exchange u.world.wall u.world.replies code'
        u.request.callbackUrl).result.map Verified.claims =
      (g.service.exchanger.exchange v.world.wall v.world.replies code
        v.request.callbackUrl).result.map Verified.claims

/-- Two logins of one user that went on in the same session. -/
abbrev LoginsTwin : Option (AuthResult × Serial) → Option (AuthResult × Serial) → Prop :=
  Option.Rel fun p q => p.1.Twin q.1 ∧ q.2 = p.2

variable {g h : Gate} {v u x : Visit} {cr cr' : Credentials} {code code' : String}

/-! ## Logging in -/

/-- Credentials that yield the same claims make logins that are twins. -/
theorem resultOf_twin
    (claims : cr'.verified.map Verified.claims = cr.verified.map Verified.claims)
    (identity : Identity) (seconds : Int) :
    (resultOf identity cr seconds).Twin (resultOf identity cr' seconds) := by
  have shown : ∀ cr : Credentials,
      (cr.verified.getD ⟨[], []⟩).claims = (cr.verified.map Verified.claims).getD [] := by
    intro cr
    cases cr.verified <;> rfl
  refine ⟨rfl, ?_, rfl, rfl⟩
  rw [resultOf, resultOf, shown, shown, claims]

/-- A login is stamped in both visits, or breaks off in both: their clocks are the same. -/
theorem discreet_loginResult (identity : Identity)
    (claims : cr'.verified.map Verified.claims = cr.verified.map Verified.claims) :
    Discreet AuthResult.Twin (loginResult identity cr) (loginResult identity cr') := by
  intro v u visits
  rw [on_loginResult, on_loginResult, visits.world.wall]
  cases v.world.wall.wholeSeconds with
  | error fault => exact .fault _ visits
  | ok seconds => exact .value (resultOf_twin claims identity seconds) visits

/-- A session is renewed in both visits under the same id, or in neither. -/
theorem discreet_renewSession (session : Option Serial) :
    Discreet Eq (renewSession session) (renewSession session) := by
  refine discreet_read fun v u visits => ?_
  cases session with
  | none => exact .fault _ visits
  | some n =>
    dsimp only
    rw [visits.world.now]
    exact discreet_issued (visits.world.store.renew v.world.now n) v u visits

/-- Attempts whose logins are twins find the same identity. -/
theorem attempt_ended (visits : v.Twin u)
    (attempts : (g.attemptOf cr v).Twin (h.attemptOf cr' u)) :
    Ended (fun p q => q.1 = p.1 ∧
        q.2.verified.map Verified.claims = p.2.verified.map Verified.claims)
      ((g.attempt cr).on v) ((h.attempt cr').on u) := by
  have asks : Visit.Twin
      { asked (g.attemptOf cr v) v with log := v.log ++ (g.attemptOf cr v).log }
      { asked (h.attemptOf cr' u) u with log := u.log ++ (h.attemptOf cr' u).log } :=
    ⟨visits.request, visits.channel,
      ⟨visits.world.users, visits.world.now, visits.world.wall, visits.world.store⟩,
      congrArg₂ (· ++ ·) visits.log attempts.log⟩
  rw [on_attempt, on_attempt, attempts.result]
  cases (g.attemptOf cr v).result with
  | error cause => exact .fault _ asks
  | ok found => exact .value ⟨rfl, attempts.claims⟩ asks

/-- **Logins end as twins,** in the same session and with the same records. -/
theorem login_ended (visits : v.Twin u) (attempts : (g.attemptOf cr v).Twin (h.attemptOf cr' u))
    (session : Option Serial) :
    Ended LoginsTwin ((g.login cr session).on v) ((h.login cr' session).on u) := by
  refine (attempt_ended visits attempts).bind fun p q same => ?_
  obtain ⟨found, cr⟩ := p
  obtain ⟨found', cr'⟩ := q
  obtain ⟨rfl, claims⟩ := same
  cases found' with
  | none => exact discreet_pure .none
  | some identity =>
    refine (discreet_loginResult identity claims).bind fun a b results => ?_
    refine (discreet_renewSession session).bind fun m _ renewed => ?_
    subst renewed
    refine (discreet_modifySession m fun _ _ twin => twin.cache results).bind fun _ _ _ => ?_
    refine discreet_context.bind fun c _ same => ?_
    subst same
    exact (discreet_detail _ _ _).bind fun _ _ _ => discreet_pure (.some ⟨results, rfl⟩)

/-! ## Callbacks -/

/-- A callback that fails discloses nothing. -/
theorem discreet_failCallback (gates : g.Twin h) (c : LogContext) (reason : String) :
    Discreet Outcome.Twin (g.failCallback c reason) (h.failCallback c reason) := by
  unfold failCallback
  rw [gates.settings]
  exact (discreet_detail _ _ _).bind fun _ _ _ => (discreet_sendFailure _).bind fun _ _ _ =>
    discreet_pure (.same _)

/-- A state that is refused discloses nothing but that. -/
theorem discreet_refuseState (c : LogContext) :
    Discreet Outcome.Twin (refuseState c) (refuseState c) :=
  (discreet_logAll _).bind fun _ _ _ => (discreet_write _).bind fun _ _ _ =>
    discreet_pure (.same _)

/-- A callback with the session id in its address discloses nothing. -/
theorem discreet_refuseUrlSession (gates : g.Twin h) (c : LogContext) :
    Discreet Outcome.Twin (g.refuseUrlSession c) (h.refuseUrlSession c) := by
  unfold refuseUrlSession
  rw [gates.settings]
  exact (discreet_detail _ _ _).bind fun _ _ _ => (discreet_sendFailure _).bind fun _ _ _ =>
    discreet_pure (.same _)

/-- The browser of a login is sent to the same place, and the record names the same user. -/
theorem discreet_concluding (gates : g.Twin h) (c : LogContext)
    {found found' : Option (AuthResult × Serial)} (logins : LoginsTwin found found') :
    Discreet Outcome.Twin (g.concluding c found) (h.concluding c found') := by
  cases logins with
  | none => exact discreet_failCallback gates c "login_failed"
  | @some p q same =>
    obtain ⟨result, _⟩ := p
    obtain ⟨result', m⟩ := q
    obtain ⟨results, rfl⟩ := same
    refine discreet_read fun v u visits =>
      ((discreet_session m).bind fun a b twin => ?_) v u visits
    have root : SavedRequest.root u.request = SavedRequest.root v.request := by
      rw [SavedRequest.root, SavedRequest.root, visits.request.context_eq]
    dsimp only
    rw [twin.target_eq root, results.identity]
    exact (discreet_modifySession m fun _ _ twin => twin.arrive).bind fun _ _ _ =>
      (discreet_detail _ _ _).bind fun _ _ _ => (discreet_redirect _).bind fun _ _ _ =>
        discreet_pure (.authenticated results true)

/-- Codes that yield the same claims are redeemed as twins. -/
theorem redeemCode_ended (gates : g.Twin h) (visits : v.Twin u) (c : LogContext) (n : Serial)
    (given : v.request.parameter "code" = some code)
    (given' : u.request.parameter "code" = some code') (concur : Concur g h v u) :
    Ended Outcome.Twin ((g.redeemCode c code n).on v) ((h.redeemCode c code' n).on u) := by
  have same := concur code code' given given'
  rw [visits.request.callbackUrl_eq, visits.world.wall] at same
  rw [on_redeemCode, on_redeemCode, visits.request.callbackUrl_eq]
  refine (login_ended visits ?_ _).bind fun _ _ logins => discreet_concluding gates c logins
  rw [attemptOf, attemptOf, visits.world.users, visits.world.wall]
  exact LoginService.login_twin gates.newcomers gates.exchanger v.world.users same

/-- **A callback in a session ends as its twin,** if both sessions take the state or neither, and
the codes yield the same where both are redeemed. -/
theorem callback_ended (gates : g.Twin h) (visits : v.Twin u) (session : Option Serial)
    (takes : ∀ n, session = some n →
      (Csrf.accepts? (v.session n) (v.request.parameter "state") = some true ↔
        Csrf.accepts? (u.session n) (u.request.parameter "state") = some true))
    (concur : ((g.callback session).on v).2.calls ≠ v.calls →
      ((h.callback session).on u).2.calls ≠ u.calls → Concur g h v u) :
    Ended Outcome.Twin ((g.callback session).on v) ((h.callback session).on u) := by
  have named : u.world.store.idOf = v.world.store.idOf :=
    funext fun n => visits.world.store.idOf_eq n
  obtain ⟨code, given⟩ := Option.isSome_iff_exists.1 visits.request.code.1
  obtain ⟨code', given'⟩ := Option.isSome_iff_exists.1 visits.request.code.2
  simp only [callback, callbackContext, Step.on_bind, Step.on_get, Step.on_pure, given, given',
    named, visits.request.correlation_eq] at concur ⊢
  cases session with
  | none => exact discreet_refuseState _ v u visits
  | some n =>
    have state := Csrf.accepts?_eq (visits.session n) visits.request.state (takes n rfl)
    simp only [Step.on_bind, Step.on_session, state] at concur ⊢
    cases accepted : Csrf.accepts? (v.session n) (v.request.parameter "state") with
    | none => exact .fault _ visits
    | some matched =>
      rw [accepted] at concur
      cases matched with
      | false => exact discreet_refuseState _ v u visits
      | true =>
        -- Both callbacks have come this far alike, so that both ask what their codes yield.
        exact redeemCode_ended gates visits _ n given given'
          (concur (calls_of_redeemCode _ _ _ _ _) (calls_of_redeemCode _ _ _ _ _))

/-! ## Decisions -/

/-- A callback with a code in a session that was found is redeemed exactly if the session takes the
state. -/
theorem accepts_iff_redeeming {n : Serial} (finds : Step.Finds v (.ok (some n)) x)
    (cookie : v.request.sessionFromUrl = false)
    (code : (v.request.parameter "code").isSome = true) :
    Csrf.accepts? (x.session n) (x.request.parameter "state") = some true ↔
      Redeeming v.world v.request := by
  have live := live?_of_finds finds
  rw [finds_session finds n]
  obtain ⟨s, rfl, -⟩ := finds.exists_store
  constructor
  · intro accepted
    obtain ⟨token, held, sent⟩ := hasToken_of_accepts accepted
    exact ⟨cookie, Option.isSome_iff_exists.1 code, n, token, live, held, sent⟩
  · intro redeeming
    obtain ⟨m, token, there, held, sent⟩ := redeeming.state
    obtain rfl := Option.some.inj (live.symm.trans there)
    change Csrf.accepts? _ (v.request.parameter "state") = _
    rw [sent]
    exact held.accepts

/-- A callback whose session id stands in the address is refused. -/
theorem on_validate_of_url (callback : isCallback v.request.uri = true)
    (url : v.request.sessionFromUrl = true) (mandatory : Bool) :
    (g.validate mandatory).on v =
      (g.refuseUrlSession (LogContext.of v.request.sessionId v.request.correlation)).on v := by
  have state : g.classify v.request v.channel.isDeferred mandatory = some .isCallback := by
    rw [classify, if_pos callback]
  rw [validate, Step.on_bind_ok (Step.on_context v), Step.on_bind_ok (Step.on_get v), state]
  dsimp only
  rw [if_pos url]

/-- **Callbacks end as twins** if both come as far as to redeem their codes, or neither, and the
codes yield the same where both are redeemed. -/
theorem validate_ended (gates : g.Twin h) (visits : v.Twin u) (mandatory : Bool)
    (callback : isCallback v.request.uri = true)
    (redeeming : Redeeming v.world v.request ↔ Redeeming u.world u.request)
    (concur : ((g.validate mandatory).on v).2.calls ≠ v.calls →
      ((h.validate mandatory).on u).2.calls ≠ u.calls → Concur g h v u) :
    Ended Outcome.Twin ((g.validate mandatory).on v) ((h.validate mandatory).on u) := by
  have callback' : isCallback u.request.uri = true := visits.request.uri_eq ▸ callback
  have placed : u.request.sessionFromUrl = v.request.sessionFromUrl :=
    visits.request.sessionFromUrl_eq
  cases cookie : v.request.sessionFromUrl with
  | true =>
    rw [on_validate_of_url callback cookie, on_validate_of_url callback' (placed.trans cookie),
      visits.request.logContext_eq]
    exact discreet_refuseUrlSession gates _ v u visits
  | false =>
    have cookie' := placed.trans cookie
    rw [on_validate_of_callback callback cookie, on_validate_of_callback callback' cookie']
      at concur ⊢
    refine (discreet_requestSession v u visits).after fun session _ x y left right same found => ?_
    subst same
    rw [Step.on_bind_ok left, Step.on_bind_ok right] at concur
    have findsL : Step.Finds v (.ok session) x := by
      have finds := Step.requestSession_finds v
      rwa [left] at finds
    have findsR : Step.Finds u (.ok session) y := by
      have finds := Step.requestSession_finds u
      rwa [right] at finds
    refine callback_ended gates found session (fun n there => ?_) ?_
    · subst there
      rw [accepts_iff_redeeming findsL cookie visits.request.code.1,
        accepts_iff_redeeming findsR cookie' visits.request.code.2]
      exact redeeming
    · obtain ⟨s, rfl, -⟩ := findsL.exists_store
      obtain ⟨t, rfl, -⟩ := findsR.exists_store
      exact concur

end Gate

/-! ## Disclosure -/

/-- What a decision discloses: the records that it wrote, what it tells the application of its
outcome, and the response that the browser gets. -/
structure Disclosure where
  log : List LogRecord
  /-- Status, reason and identity, or the fault where there is no outcome. -/
  outcome : Except Fault (String × Option String × Option Identity)
  /-- Status and location. -/
  response : Channel
  deriving DecidableEq, Repr

/-- What a decision that ended discloses. -/
def Disclosure.of (p : Except Fault Outcome × Visit) : Disclosure where
  log := p.2.log
  outcome := p.1.map fun o => (o.status, o.reason?, o.result?.map AuthResult.identity)
  response := p.2.channel

/-- Decisions that end as twins disclose the same. -/
theorem Disclosure.of_ended {p q : Except Fault Outcome × Visit}
    (ended : Step.Ended Outcome.Twin p q) : of q = of p := by
  cases ended with
  | fault fault visits => rw [of, of, visits.log, visits.channel]
  | value values visits =>
    rw [of, of, visits.log, visits.channel]
    cases values with
    | same => rfl
    | authenticated results sent =>
      rw [Except.map, Except.map, Outcome.result?, Outcome.result?, Option.map_some,
        Option.map_some, results.identity]
      rfl

namespace Gate

variable {g h : Gate} {v u : Visit}

/-- **A callback discloses nothing of its secrets.**  Two callbacks with codes may differ in the
codes, in the secret of the client, in the answers of the provider and the logins that sessions keep
of them, and in the tokens of sessions together with the state.  They write the same records, come
to the same outcome and send the same response if both states are the tokens of their sessions, or
neither, and the codes yield the same claims, or the same fault, where both are redeemed.

No part of a token is disclosed, not even the characters that the record of a new one shows: the
tokens may differ in these as well, and in length. -/
theorem disclosure_eq_of_twin (gates : g.Twin h) (visits : v.Twin u) (mandatory : Bool)
    (callback : isCallback v.request.uri = true)
    (redeeming : Redeeming v.world v.request ↔ Redeeming u.world u.request)
    (concur : ((g.validate mandatory).on v).2.calls ≠ v.calls →
      ((h.validate mandatory).on u).2.calls ≠ u.calls → Concur g h v u) :
    Disclosure.of ((h.validate mandatory).on u) = Disclosure.of ((g.validate mandatory).on v) :=
  Disclosure.of_ended (validate_ended gates visits mandatory callback redeeming concur)

/-- A small gate with a secret of the client.  It redeems one code, and gets an answer with it. -/
def keyedGate (clientSecret code : String) (response : Fields) : Gate where
  provider := { (smallGate true).provider with clientSecret }
  settings := {}
  service :=
    { exchanger := .book [(code, .ok ⟨[("sub", .text "alice")], response⟩)], newcomers := true }

/-- A callback in a small world, for a session that waits with a token. -/
def awaited (code token : String) : Visit where
  world :=
    { smallWorld none with
      store :=
        { sessions := [{ id := "first", csrfToken := some (.text token) }]
          pending :=
            { capacity := 4, ttl := .whole 60, uses := 1
              leases := [{ id := "first", serial := 0, expires := .whole 60, used := 1 }] }
          authenticated := { capacity := 4, ttl := .whole 60 }
          ids := { given := ["second"] } } }
  request :=
    smallRequest "/j_security_check" ("code=" ++ code ++ "&state=" ++ token) (some "first")

/-- Two logins of one user with other codes, tokens and answers disclose the same. -/
theorem disclosure_eq_of_awaited :
    let p := ((keyedGate "" "abc" []).validate true).on (awaited "abc" "token-one")
    let q := ((keyedGate "hush" "xyz" [("access_token", .text "bearer")]).validate true).on
      (awaited "xyz" "token-two")
    Disclosure.of q = Disclosure.of p ∧
      (Disclosure.of p).outcome = .ok ("authenticated", none, some { subject := "alice" }) := by
  intro p q
  have gates : (keyedGate "" "abc" []).Twin
      (keyedGate "hush" "xyz" [("access_token", .text "bearer")]) :=
    ⟨rfl, rfl, rfl, .book _ _⟩
  have request : (awaited "abc" "token-one").request.Twin (awaited "xyz" "token-two").request :=
    ⟨rfl, by decide +kernel, by decide +kernel⟩
  have session : Session.Twin { id := "first", csrfToken := some (.text "token-one") }
      { id := "first", csrfToken := some (.text "token-two") } :=
    ⟨rfl, .same _, rfl, rfl, rfl, rfl, rfl, .texts _ _, rfl⟩
  have store : (awaited "abc" "token-one").world.store.Twin
      (awaited "xyz" "token-two").world.store :=
    ⟨.cons session .nil, fun name => by cases name <;> rfl, rfl⟩
  have redeeming :
      Redeeming (awaited "abc" "token-one").world (awaited "abc" "token-one").request :=
    ⟨rfl, ⟨"abc", by decide +kernel⟩, 0, "token-one", by decide +kernel,
      by unfold World.HasToken; decide +kernel, by decide +kernel⟩
  have redeeming' :
      Redeeming (awaited "xyz" "token-two").world (awaited "xyz" "token-two").request :=
    ⟨rfl, ⟨"xyz", by decide +kernel⟩, 0, "token-two", by decide +kernel,
      by unfold World.HasToken; decide +kernel, by decide +kernel⟩
  have concur : Concur (keyedGate "" "abc" [])
      (keyedGate "hush" "xyz" [("access_token", .text "bearer")])
      (awaited "abc" "token-one") (awaited "xyz" "token-two") := by
    intro code code' given given'
    obtain rfl : code = "abc" := Option.some.inj (given.symm.trans (by decide +kernel))
    obtain rfl : code' = "xyz" := Option.some.inj (given'.symm.trans (by decide +kernel))
    rfl
  exact ⟨disclosure_eq_of_twin gates ⟨request, rfl, ⟨rfl, rfl, rfl, store⟩, rfl⟩ true
    (by decide +kernel) (iff_of_true redeeming redeeming') fun _ _ => concur, by decide +kernel⟩

end Gate
end LoginGate
