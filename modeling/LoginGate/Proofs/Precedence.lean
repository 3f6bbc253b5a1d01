/-
# The order of the rules

The table of `validate` as a function of its own: `rule` is the first rule of the table that
applies, in the order of the table, and `answer` is what that rule answers.  The decision itself
tests in another order, the callback before the error page, and in two places.

| request | the decision | the table |
| --- | --- | --- |
| to an error page that is no callback | `deferred` | the same |
| to an error page that is a callback | as if the page were none | `deferred` |
| any other | the first rule that applies | the same |

A call that breaks off answers nothing.  What it takes not to break off is `Able`: a channel and
pools that take what is written, a method that is a text, and a provider with an address.
-/

import LoginGate.Proofs.Addressed
import LoginGate.Proofs.Mirror
import LoginGate.Proofs.Revocation
import LoginGate.Proofs.Saving

namespace LoginGate

/-! ## Sessions that the gate can read -/

/-- What a session holds as its login is one, with the claims and the response of that login, and
what it holds as its token is a text. -/
structure Session.Legible (s : Session) : Prop where
  login : (s.authenticated = none ∧ s.claims = none ∧ s.response = none) ∨
    ∃ r, s.authenticated = some (.result r) ∧ s.claims = some (.fields r.claims) ∧
      s.response = some (.fields r.response)
  token : ∀ a, s.csrfToken = some a → ∃ t, a = .text t

/-- All sessions can be read. -/
def World.Legible (w : World) : Prop :=
  ∀ n s, w.store.session? n = some s → s.Legible

namespace Session

variable {s after : Session} {tokens : Supply} {always : Bool} {q : Request}

/-- An empty session can be read. -/
theorem legible_empty (id : String) : Legible { id } :=
  ⟨.inl ⟨rfl, rfl, rfl⟩, nofun⟩

/-- A session that lost its login can be read. -/
theorem Legible.forget (h : s.Legible) : s.forget.Legible :=
  ⟨.inl ⟨rfl, rfl, rfl⟩, h.token⟩

/-- A session that took a request can be read: login and token are as they were. -/
theorem Legible.save (h : s.Legible) (save : SavedRequest.save always q s = .ok after) :
    after.Legible := by
  obtain ⟨-, method, -, rfl⟩ | ⟨-, rfl⟩ := SavedRequest.save_cases save
  · exact ⟨h.login, h.token⟩
  · exact h

/-- A session that was given a token can be read. -/
theorem Legible.ensure (h : s.Legible) (tokens : Supply) :
    (Csrf.ensure tokens s).session.Legible := by
  unfold Csrf.ensure
  split
  · exact h
  · exact ⟨h.login, fun a held => ⟨_, (Option.some.inj held).symm⟩⟩

/-- The token that a challenge goes out with is a text. -/
theorem Legible.exists_token (h : s.Legible) (tokens : Supply) :
    ∃ t, (Csrf.ensure tokens s).token.text? = some t := by
  unfold Csrf.ensure
  split
  · rename_i a held
    obtain ⟨t, rfl⟩ := h.token a (Option.filter_eq_some_iff.1 held).1
    exact ⟨t, rfl⟩
  · exact ⟨_, rfl⟩

/-- Where no login is, no part of one is. -/
theorem Legible.not_holdsLogin (h : s.Legible)
    (nobody : Attribute.present s.authenticated = none) : ¬ s.HoldsLogin := by
  obtain ⟨authenticated, claims, response⟩ | ⟨r, login, -⟩ := h.login
  · simp [HoldsLogin, authenticated, claims, response]
  · rw [login] at nobody
    cases nobody

end Session

namespace Gate

variable {g : Gate} {w : World}

/-- What a call leaves of a session can be read, if all sessions could. -/
theorem Leaves.legible {e : Errand} {q : Request} {channel : Channel}
    {r : Except Fault (Option Outcome)} {m : Serial} {s : Session}
    (h : Leaves g w e q channel r m s) (legible : w.Legible) : s.Legible := by
  cases h with
  | kept old => exact legible m _ old
  | forgotten old => exact (legible m _ old).forget
  | restored old =>
    have before := legible m _ old
    exact ⟨before.login, before.token⟩
  | @challenged a b after _ old unheld save =>
    have before : b.Legible := by
      obtain ⟨rfl, -⟩ | rfl := unheld
      · exact legible m _ old
      · exact (legible m _ old).forget
    exact (before.save save).ensure w.tokens
  | begun _ _ source =>
    obtain ⟨a, old, ⟨rfl, -⟩ | rfl⟩ | ⟨-, id, rfl⟩ := source
    · have before := legible m _ old
      exact ⟨before.login, before.token⟩
    · have before := (legible m _ old).forget
      exact ⟨before.login, before.token⟩
    · exact ⟨.inl ⟨rfl, rfl, rfl⟩, nofun⟩
  | blank new id => exact Session.legible_empty id
  | @opened id _ _ _ _ save => exact ((Session.legible_empty id).save save).ensure w.tokens
  | renewed _ _ _ _ old => exact ⟨.inr ⟨_, rfl, rfl, rfl⟩, (legible _ _ old).token⟩

/-- An event leaves sessions that can be read. -/
theorem legible_after (h : w.Legible) (c : Event) : (g.after w c).Legible :=
  sessions_after h (fun leaves => leaves.legible h) c

/-- **After any run all sessions can be read.** -/
theorem legible_run (fresh : w.Fresh) (es : List Event) : (g.run w es).Legible :=
  run_of_after (P := World.Legible) (fun _ c h => legible_after h c) (sessions_of_fresh fresh) es

end Gate

/-! ## The table -/

/-- The rules that a request is decided by, in their order. -/
inductive Rule where
  /-- No login is needed, and the request is not the callback. -/
  | unneeded
  /-- The request asks for the error page, and the channel is not deferred. -/
  | errorPage
  /-- The session id stands in the address. -/
  | urlSession
  /-- The request is the callback. -/
  | callback
  /-- The session holds a login that still holds. -/
  | held (result : AuthResult)
  /-- The channel is deferred. -/
  | undeliverable
  /-- None of the others applies. -/
  | challenge
  deriving DecidableEq, Repr

namespace Gate

/-- The login in the live session of a request, if it still holds. -/
def heldLogin? (g : Gate) (v : Visit) : Option AuthResult :=
  match (v.world.live? v.request).bind fun n => (v.world.session n).authenticated with
  | some (.result r) => if g.service.validates v.world.users r.identity then some r else none
  | _ => none

/-- The first rule that applies to a request. -/
def rule (g : Gate) (mandatory : Bool) (v : Visit) : Rule :=
  if !mandatory && !isCallback v.request.uri then .unneeded
  else if g.settings.isErrorPage (some v.request.pathInContext) && !v.channel.isDeferred then
    .errorPage
  else if v.request.sessionFromUrl then .urlSession
  else if isCallback v.request.uri then .callback
  else match g.heldLogin? v with
    | some result => .held result
    | none => if v.channel.isDeferred then .undeliverable else .challenge

/-- What a request is answered by a rule. -/
def answer (g : Gate) (v : Visit) : Rule → Except Fault Outcome
  | .unneeded | .errorPage => .ok .deferred
  | .urlSession => .ok (.failed "session_id_from_url")
  | .callback => ((do g.callback (← Step.requestSession)).on v).1
  | .held result => .ok (.authenticated result false)
  | .undeliverable => .ok .unauthenticated
  | .challenge => .ok .challenged

/-- The request is the callback and asks for the error page, on a channel that can be written to. -/
structure Contested (g : Gate) (v : Visit) : Prop where
  callback : isCallback v.request.uri = true
  page : g.settings.isErrorPage (some v.request.pathInContext) = true
  sendable : v.channel.isDeferred = false

/-- Nothing breaks a decision off, unless it is on a callback: the channel takes what is written,
the method can be saved, the provider has an address, and the pools take leases. -/
structure Able (g : Gate) (v : Visit) : Prop where
  takes : v.channel.Takes
  method : ∃ method, v.request.method = .wide method
  endpoint : (Challenge.hasQuery? g.provider.authorizationEndpoint).isSome = true
  room : ∀ name, (v.world.store.pool name).refusal? v.world.now = none

open Step (Ends Finds)

variable {g : Gate} {v u : Visit} {n : Serial} {mandatory : Bool} {session : Option Serial}
  {r : Except Fault Outcome} {o : Outcome}

/-! ## What each rule answers -/

/-- A request that is decided by its address alone is left to the application, as the table says. -/
theorem answer_of_isDeferred (h : IsDeferred g mandatory v) :
    g.answer v (g.rule mandatory v) = .ok .deferred := by
  obtain ⟨other, rfl | ⟨page, sendable⟩⟩ := h
  · simp [rule, other, answer]
  · cases mandatory <;> simp [rule, other, page, sendable, answer]

/-- Where neither of the first two rules applies, the third or a later one does. -/
theorem rule_of_not_isDeferred (h : ¬ IsDeferred g mandatory v) (free : ¬ Contested g v) :
    g.rule mandatory v =
      if v.request.sessionFromUrl then .urlSession
      else if isCallback v.request.uri then .callback
      else match g.heldLogin? v with
        | some result => .held result
        | none => if v.channel.isDeferred then .undeliverable else .challenge := by
  have needed : (!mandatory && !isCallback v.request.uri) = false := by
    by_contra unneeded
    simp only [Bool.not_eq_false, Bool.and_eq_true, Bool.not_eq_true'] at unneeded
    exact h ⟨unneeded.2, .inl unneeded.1⟩
  have elsewhere : (g.settings.isErrorPage (some v.request.pathInContext) &&
      !v.channel.isDeferred) = false := by
    by_contra page
    simp only [Bool.not_eq_false, Bool.and_eq_true, Bool.not_eq_true'] at page
    cases callback : isCallback v.request.uri with
    | true => exact free ⟨callback, page.1, page.2⟩
    | false => exact h ⟨callback, .inr page⟩
  rw [rule, needed, elsewhere]
  rfl

/-- A request that is decided by its address alone is left to the application, and nothing is done
for it but what is logged. -/
theorem Decides.of_isDeferred (h : Decides g mandatory v r u) (left : IsDeferred g mandatory v) :
    r = .ok .deferred ∧ u.world = v.world ∧ u.channel = v.channel := by
  cases h with
  | deferred => exact ⟨rfl, rfl, rfl⟩
  | urlSession other => exact absurd left other
  | unfound other => exact absurd left other
  | callback callback => exact absurd (callback.symm.trans left.1) nofun
  | protect other => exact absurd left other

/-- No other request is left to the application. -/
theorem Decides.isDeferred (h : Decides g mandatory v (.ok .deferred) u) :
    IsDeferred g mandatory v := by
  generalize done : (Except.ok Outcome.deferred : Except Fault Outcome) = r at h
  cases h with
  | deferred left => exact left
  | urlSession _ _ ends =>
    obtain refused | ⟨fault, broken⟩ := ends.result
    · cases done.trans refused
    · cases done.trans broken
  | unfound => cases done
  | callback _ _ _ answers => exact absurd (done ▸ answers).isSent nofun
  | protect _ _ _ _ protects =>
    cases protects with
    | held => cases done
    | unreadable => cases done
    | passed => cases done
    | challenged _ _ challenges => exact absurd (done ▸ challenges).isSent nofun
    | unissued => cases done
    | started _ _ _ _ challenges => exact absurd (done ▸ challenges).isSent nofun

/-- A callback whose session id stands in no address is answered by `callback`. -/
theorem on_validate_of_callback (callback : isCallback v.request.uri = true)
    (cookie : v.request.sessionFromUrl = false) (mandatory : Bool) :
    (g.validate mandatory).on v = (do g.callback (← Step.requestSession)).on v := by
  have state : g.classify v.request v.channel.isDeferred mandatory = some .isCallback := by
    rw [classify, if_pos callback]
  rw [validate, Step.on_bind_ok (Step.on_context v), Step.on_bind_ok (Step.on_get v), state]
  dsimp only
  rw [cookie, if_neg Bool.false_ne_true]
  rfl

/-- A request that goes on without a login holds none that the table would find. -/
theorem heldLogin?_of_unheld {x : Visit} (finds : Finds v (.ok session) x)
    (h : Unheld g x session u) : g.heldLogin? v = none := by
  have live := live?_of_finds finds
  have same : ∀ n, v.world.session n = x.session n := fun n => (finds_session finds n).symm
  obtain ⟨s, rfl, -⟩ := finds.exists_store
  rw [heldLogin?, live]
  cases h with
  | nobody => rfl
  | @empty n nobody =>
    rw [Option.bind_some, same]
    generalize (Visit.session _ n).authenticated = a at nobody
    match a with
    | none => rfl
    | some (.json .null) => rfl
  | @revoked n result held invalid =>
    rw [Option.bind_some, same, (Option.filter_eq_some_iff.1 held).1]
    exact if_neg (Bool.eq_false_iff.1 invalid)

/-- A request that is answered with a login holds that one. -/
theorem heldLogin?_of_held {x : Visit} {result : AuthResult}
    (finds : Finds v (.ok (some n)) x)
    (held : Attribute.present (x.session n).authenticated = some (.result result))
    (valid : g.service.validates x.world.users result.identity = true) :
    g.heldLogin? v = some result := by
  have same : v.world.session n = x.session n := (finds_session finds n).symm
  have live := live?_of_finds finds
  obtain ⟨s, rfl, -⟩ := finds.exists_store
  rw [heldLogin?, live, Option.bind_some, same, (Option.filter_eq_some_iff.1 held).1]
  exact if_pos valid

/-- A request that needs a login and is not the callback is answered as the table says. -/
theorem Protects.eq_answer {x : Visit} (finds : Finds v (.ok session) x)
    (h : Protects g x session (.ok o) u) :
    g.answer v (match g.heldLogin? v with
      | some result => .held result
      | none => if v.channel.isDeferred then .undeliverable else .challenge) = .ok o := by
  have channel : x.channel = v.channel := by
    obtain ⟨s, rfl, -⟩ := finds.exists_store
    rfl
  generalize done : (Except.ok o : Except Fault Outcome) = r at h
  -- Whatever a challenge ends with, an outcome of it is `challenged`.
  have sent {n : Serial} {y : Visit} (challenges : Challenges g n y r u) : r = .ok .challenged := by
    obtain sent | ⟨fault, broken⟩ := challenges.result
    · exact sent
    · exact absurd (done.trans broken) nofun
  cases h with
  | held held valid =>
    rw [heldLogin?_of_held finds held valid]
    rfl
  | unreadable => cases done
  | passed unheld deferred =>
    rw [heldLogin?_of_unheld finds unheld]
    dsimp only
    rw [← channel, if_pos deferred]
    rfl
  | challenged unheld sendable challenges =>
    rw [heldLogin?_of_unheld finds unheld, sent challenges]
    dsimp only
    rw [← channel, sendable]
    rfl
  | unissued => cases done
  | started sendable _ _ _ challenges =>
    rw [heldLogin?_of_unheld finds .nobody, sent challenges]
    dsimp only
    rw [← channel, sendable]
    rfl

/-- **An outcome is that of the first rule that applies,** unless the error page is the callback. -/
theorem eq_answer_of_ok (done : ((g.validate mandatory).on v).1 = .ok o) (free : ¬ Contested g v) :
    ((g.validate mandatory).on v).1 = g.answer v (g.rule mandatory v) := by
  have decides := validate_decides g mandatory v
  rw [done] at decides
  generalize ran : (Except.ok o : Except Fault Outcome) = r at decides
  generalize ((g.validate mandatory).on v).2 = u at decides
  cases decides with
  | deferred h =>
    rw [done, ran, answer_of_isDeferred h]
  | urlSession h url ends =>
    obtain refused | ⟨fault, broken⟩ := ends.result
    · rw [done, ran, refused, rule_of_not_isDeferred h free, url]
      rfl
    · exact absurd (ran.trans broken) nofun
  | unfound => cases ran
  | callback callback cookie =>
    have h : ¬ IsDeferred g mandatory v := fun h => absurd (callback.symm.trans h.1) nofun
    rw [rule_of_not_isDeferred h free, cookie, callback, on_validate_of_callback callback cookie]
    rfl
  | protect h other cookie finds protects =>
    subst ran
    rw [done, rule_of_not_isDeferred h free, cookie, other]
    exact (protects.eq_answer finds).symm

/-! ## Decisions that do not break off -/

/-- A channel that takes a redirect takes what a failed login writes. -/
theorem Able.takes_failure (h : Able g v) (s : Settings) :
    ∃ d, Step.failure s v.request v.channel = .ok d := by
  unfold Step.failure
  cases s.errorPage with
  | some page => exact h.takes _ _
  | none =>
    obtain ⟨d, taken⟩ := h.takes 302 (.text "")
    dsimp only
    generalize v.channel = c at taken ⊢
    cases c with
    | buffered status location =>
      cases status with
      | none => exact ⟨_, rfl⟩
      | some => cases taken
    | deferred => exact ⟨_, rfl⟩
    | broken => cases taken

/-- A write that the channel takes ends the visit with its outcome. -/
theorem ends_eq_ok {f : Channel → Except ChannelFault Channel} (h : Ends f o v r u)
    (takes : ∃ d, f v.channel = .ok d) : r = .ok o := by
  obtain ⟨d, taken⟩ := takes
  cases h with
  | taken => rfl
  | failed failed => cases failed.symm.trans taken

/-- Where the pools take leases, looking for a session does not break off. -/
theorem finds_ne_error {fault : Fault} (room : ∀ name,
    (v.world.store.pool name).refusal? v.world.now = none) : ¬ Finds v (.error fault) u := by
  intro finds
  cases finds with
  | @broken id fault s _ found =>
    have result := v.world.store.get_result v.world.now id
    rw [found] at result
    cases holder : v.world.store.holder? v.world.now id with
    | none => simp [holder] at result
    | some l => simp [holder, room] at result

/-- A change to a session that can be read after it leaves all sessions so. -/
theorem legible_changed {f : Session → Session} (h : v.world.Legible)
    (keeps : (f (v.session n)).Legible) : (changed n f v).world.Legible := by
  intro m a ha
  obtain ⟨old, -⟩ | ⟨-, b, hb, rfl⟩ := SessionStore.of_session?_modify ha
  · exact h m a old
  · rwa [Visit.session_of_session? hb] at keeps

/-- What is read at any serial can be read, and is empty where there is no session. -/
theorem legible_session (h : v.world.Legible) (n : Serial) : (v.session n).Legible := by
  rw [Visit.session]
  cases hs : v.world.store.session? n with
  | none => exact Session.legible_empty ""
  | some s => exact h n s hs

/-- Dropping a login leaves sessions that can be read. -/
theorem Unheld.legible (h : Unheld g v session u) (legible : v.world.Legible) :
    u.world.Legible := by
  cases h with
  | nobody => exact legible
  | empty => exact legible
  | @revoked n => exact legible_changed legible (legible_session legible n).forget

/-- A challenge where all sessions can be read is sent. -/
theorem Challenges.eq_challenged (h : Challenges g n v r u) (takes : v.channel.Takes)
    (method : ∃ method, v.request.method = .wide method)
    (endpoint : (Challenge.hasQuery? g.provider.authorizationEndpoint).isSome = true)
    (legible : v.world.Legible) : r = .ok .challenged := by
  obtain ⟨method, text⟩ := method
  cases h with
  | unsaved unsaved =>
    obtain ⟨shape, -⟩ := SavedRequest.save_eq_error unsaved
    rw [text] at shape
    cases shape
  | @saved taken x _ i _ save left issue sends =>
    subst left issue
    have saved := legible_changed (n := n) (f := fun _ => taken) legible
      ((legible_session legible n).save save)
    obtain ⟨token, shown⟩ := (legible_session saved n).exists_token
      (changed n (fun _ => taken) v).world.tokens
    cases sends with
    | tokenless hidden => exact absurd (hidden.symm.trans shown) nofun
    | unaddressed _ address =>
      rw [Challenge.url?, Option.map_eq_none_iff] at address
      rw [address] at endpoint
      cases endpoint
    | sent _ _ ends => exact ends_eq_ok ends (takes _ _)

/-- A request that needs a login and is not the callback is answered, where nothing breaks off. -/
theorem Protects.exists_ok {x : Visit} (able : Able g v) (legible : v.world.Legible)
    (finds : Finds v (.ok session) x) (h : Protects g x session r u) : ∃ o, r = .ok o := by
  have readable : x.world.Legible := fun m a ha => legible m a (finds_session? finds m ▸ ha)
  have created : session = none → x = v := by
    rintro rfl
    cases finds
    rfl
  obtain ⟨s, rfl, -⟩ := finds.exists_store
  cases h with
  | held => exact ⟨_, rfl⟩
  | @unreadable n a held shape =>
    obtain ⟨nobody, -⟩ | ⟨result, login, -⟩ := (legible_session readable n).login
    · rw [nobody] at held
      cases held
    · rw [login] at held
      exact absurd (Option.some.inj held).symm (shape result)
  | passed => exact ⟨_, rfl⟩
  | @challenged n y _ _ unheld _ challenges =>
    have same : y.request = v.request ∧ y.channel = v.channel := by
      cases unheld <;> exact ⟨rfl, rfl⟩
    exact ⟨_, challenges.eq_challenged (same.2 ▸ able.takes) (same.1 ▸ able.method) able.endpoint
      (unheld.legible readable)⟩
  | unissued _ refused =>
    rw [created rfl, SessionStore.create_result, SessionStore.issuing, able.room] at refused
    cases refused
  | started _ _ _ left challenges =>
    subst left
    refine ⟨_, challenges.eq_challenged able.takes able.method able.endpoint fun m a ha => ?_⟩
    obtain ⟨-, sessions⟩ | ⟨-, sessions⟩ := SessionStore.create_issues s v.world.now <;>
      obtain old | ⟨-, rfl⟩ := SessionStore.of_session?_append sessions ha
    · exact readable m a old
    · exact Session.legible_empty _
    · exact readable m a old
    · exact Session.legible_empty _

/-- **Where nothing breaks off, a request is answered by the first rule that applies,** unless the
error page is the callback. -/
theorem eq_answer_of_able (able : Able g v) (legible : v.world.Legible) (free : ¬ Contested g v) :
    ((g.validate mandatory).on v).1 = g.answer v (g.rule mandatory v) := by
  suffices answered : (∃ o, ((g.validate mandatory).on v).1 = .ok o) ∨
      isCallback v.request.uri = true ∧ v.request.sessionFromUrl = false by
    obtain ⟨o, done⟩ | ⟨callback, cookie⟩ := answered
    · exact eq_answer_of_ok done free
    · have h : ¬ IsDeferred g mandatory v := fun h => absurd (callback.symm.trans h.1) nofun
      rw [rule_of_not_isDeferred h free, cookie, callback, on_validate_of_callback callback cookie]
      rfl
  have decides := validate_decides g mandatory v
  generalize ((g.validate mandatory).on v).1 = r at decides ⊢
  generalize ((g.validate mandatory).on v).2 = u at decides
  cases decides with
  | deferred => exact .inl ⟨_, rfl⟩
  | urlSession _ _ ends => exact .inl ⟨_, ends_eq_ok ends (able.takes_failure _)⟩
  | unfound _ _ finds => exact absurd finds (finds_ne_error able.room)
  | callback callback cookie => exact .inr ⟨callback, cookie⟩
  | protect _ _ _ finds protects => exact .inl (protects.exists_ok able legible finds)

/-- A callback is not left to the application. -/
theorem ne_answer_of_contested (h : Contested g v) :
    ((g.validate mandatory).on v).1 ≠ g.answer v (g.rule mandatory v) := by
  have page : g.rule mandatory v = .errorPage := by
    simp [rule, h.callback, h.page, h.sendable]
  rw [page, answer]
  intro done
  have decides := validate_decides g mandatory v
  rw [done] at decides
  exact absurd (h.callback.symm.trans decides.isDeferred.1) nofun

/-! ## Logins that are dropped -/

/-- A session that a request goes on with holds no login. -/
theorem Unheld.present_eq_none {a : Session} (h : Unheld g v (some n) u)
    (there : u.world.store.session? n = some a) : Attribute.present a.authenticated = none := by
  obtain ⟨-, empty⟩ | ⟨-, b, -, rfl⟩ := h.of_session? there
  · exact empty rfl
  · rfl

/-- A request that goes on to the last two rules leaves no login in its session. -/
theorem Decides.drops {a : Session} (h : Decides g mandatory v r u)
    (last : r = .ok .unauthenticated ∨ r = .ok .challenged)
    (live : v.world.live? v.request = some n) (there : u.world.store.session? n = some a) :
    Attribute.present a.authenticated = none := by
  -- No write to the channel has one of the two outcomes.
  have other {f : Channel → Except ChannelFault Channel} {p : Outcome} {x y : Visit}
      (ends : Ends f p x r y) (ne : p ≠ .unauthenticated ∧ p ≠ .challenged) : False := by
    obtain rfl | ⟨fault, rfl⟩ := ends.result
    · obtain same | same := last
      · exact ne.1 (Except.ok.inj same)
      · exact ne.2 (Except.ok.inj same)
    · simp at last
  cases h with
  | deferred => simp at last
  | urlSession _ _ ends => exact (other ends ⟨nofun, nofun⟩).elim
  | unfound => simp at last
  | callback _ _ _ answers =>
    obtain rfl | rfl := last
    · exact absurd answers.isSent nofun
    · exact absurd rfl answers.ne_challenged
  | protect _ _ _ finds protects =>
    rw [live?_of_finds finds] at live
    subst live
    cases protects with
    | held => simp at last
    | unreadable => simp at last
    | @passed _ y unheld =>
      have there : y.world.store.session? n = some a := there
      exact unheld.present_eq_none there
    | challenged unheld _ challenges =>
      obtain old | ⟨-, b, hb, ⟨-, rfl⟩ | ⟨-, after, save, rfl⟩⟩ := challenges.of_session? there
      · exact unheld.present_eq_none old
      · have empty := unheld.present_eq_none hb
        exact empty
      · rw [(Csrf.ensure_keeps ..).2, (SavedRequest.save_keeps save).2.1]
        exact unheld.present_eq_none hb

/-- A call ends as its decision does. -/
theorem eq_of_map_some {a b : Except Fault Outcome} (h : a.map some = b.map some) : a = b := by
  cases a <;> cases b <;> cases h <;> rfl

/-- **The table decides.**  After any run from an empty store a request that is answered, or that
nothing breaks off, is answered by the first rule of the table that applies, exactly if it is not
both for the error page and the callback.  A request that goes on to the last two rules leaves no
part of a login in its session. -/
theorem eq_answer_iff (fresh : w.Fresh) (es : List Event) (mandatory : Bool) (q : Request)
    (channel : Channel) :
    let v : Visit := { world := g.run w es, request := q, channel }
    let r := (g.visit v.world (.validate mandatory) q channel).1
    ((∃ o, r = .ok o) ∨ Able g v →
      (r = (g.answer v (g.rule mandatory v)).map some ↔ ¬ Contested g v)) ∧
    (r = .ok (some .unauthenticated) ∨ r = .ok (some .challenged) →
      ∀ n, v.world.live? q = some n →
        ¬ ((g.visit v.world (.validate mandatory) q channel).2.world.session n).HoldsLogin) := by
  intro v r
  have legible : v.world.Legible := legible_run fresh es
  have ran : r = ((g.validate mandatory).on v).1.map some := visit_validate ..
  refine ⟨fun ends => ⟨fun same contested => ?_, fun free => ?_⟩, fun last n live => ?_⟩
  · exact ne_answer_of_contested contested (eq_of_map_some (ran.symm.trans same))
  · rw [ran]
    refine congrArg (Except.map some) ?_
    obtain ⟨o, done⟩ | able := ends
    · rw [ran] at done
      cases decided : ((g.validate mandatory).on v).1 with
      | error fault => rw [decided] at done; cases done
      | ok o => exact decided.symm.trans (eq_answer_of_ok decided free)
    · exact eq_answer_of_able able legible free
  · rw [World.session]
    cases there : (g.visit v.world (.validate mandatory) q channel).2.world.store.session? n with
    | none => exact (Session.legible_empty "").not_holdsLogin rfl
    | some a =>
      refine ((visit_leaves there).legible legible).not_holdsLogin ?_
      rw [visit_validate_snd] at there
      refine (validate_decides g mandatory v).drops ?_ live there
      exact last.imp (fun h => eq_of_map_some (ran.symm.trans h)) fun h =>
        eq_of_map_some (ran.symm.trans h)

/-- The login of a revoked subject is dropped, and its browser is sent to the provider again. -/
theorem eq_answer_of_revoked_small :
    let g := smallGate true
    let w := smallWorld (some { known := [("alice", [])] })
    let es := smallLogin ++ [.revoke "alice"]
    let q := smallRequest "/page" "" (some "second")
    let v : Visit := { world := g.run w es, request := q }
    w.Fresh ∧ Able g v ∧ ¬ Contested g v ∧ g.rule true v = .challenge ∧
      v.world.live? q = some 1 ∧ (v.world.session 1).HoldsLogin ∧
      (g.visit v.world (.validate true) q .fresh).1 = .ok (some .challenged) ∧
      ¬ ((g.visit v.world (.validate true) q .fresh).2.world.session 1).HoldsLogin := by
  intro g w es q v
  have fresh : w.Fresh := smallWorld_fresh _
  have able : Able g v :=
    { takes := fun _ _ => ⟨_, rfl⟩
      method := ⟨_, rfl⟩
      endpoint := by decide +kernel
      room := by intro name; cases name <;> decide +kernel }
  have free : ¬ Contested g v := fun contested => absurd contested.callback (by decide +kernel)
  have rule : g.rule true v = .challenge := by decide +kernel
  have live : v.world.live? q = some 1 := by decide +kernel
  obtain ⟨answered, dropped⟩ := eq_answer_iff (g := g) fresh es true q .fresh
  have sent : (g.visit v.world (.validate true) q .fresh).1 = .ok (some .challenged) := by
    rw [(answered (.inr able)).2 free]
    exact congrArg (fun r => (g.answer v r).map some) rule
  exact ⟨fresh, able, free, rule, live, .inl (by decide +kernel), sent, dropped (.inr sent) 1 live⟩

/-- An error page below the callback path is answered as a callback without a code, although the
table leaves it to the application. -/
theorem answer_of_contested_page :
    let g : Gate :=
      { smallGate true with
        settings := Settings.make { errorPage := some "/j_security_check/failed" } }
    let w := smallWorld none
    let page := smallRequest "/j_security_check/failed" "" none
    (¬ ∀ (es : List Event) (mandatory : Bool) (q : Request) (channel : Channel) (o : Outcome),
      let v : Visit := { world := g.run w es, request := q, channel }
      (g.visit v.world (.validate mandatory) q channel).1 = .ok (some o) →
        g.answer v (g.rule mandatory v) = .ok o) ∧
      g.answer { world := w, request := page } (g.rule true { world := w, request := page }) =
        .ok .deferred ∧
      (g.visit w (.validate true) page .fresh).1 = .ok (some (.failed "missing_code")) ∧
      (g.visit w (.validate true) page .fresh).2.channel =
        .buffered (some 303) (some (.text page.uri)) := by
  intro g w page
  have left : g.answer { world := w, request := page }
      (g.rule true { world := w, request := page }) = .ok .deferred := by decide +kernel
  have refused : (g.visit w (.validate true) page .fresh).1 =
      .ok (some (.failed "missing_code")) := by decide +kernel
  refine ⟨fun claim => ?_, left, refused, by decide +kernel⟩
  exact absurd (left.symm.trans (claim [] true page .fresh _ refused)) nofun

end Gate
end LoginGate
