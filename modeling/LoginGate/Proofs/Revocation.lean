/-
# Revoked subjects

A subject that was revoked, and not added since, is barred: it is unknown and on the list of the
revoked.  A login that a session holds is dropped then.  A login with a fresh code is refused only
where newcomers are: it asks whether the subject is known, not whether it was revoked.

| call | a barred subject |
| --- | --- |
| with a cached login | is not answered |
| a callback with a code | is answered if newcomers are accepted |
-/

import LoginGate.Proofs.Persistence

namespace LoginGate

namespace Users

variable {u : Users} {s t : WideText}

/-- The subject is unknown and was revoked. -/
def Bars (u : Users) (s : WideText) : Prop :=
  u.roles? s = none ∧ u.isRevoked s = true

/-- A subject that was just revoked is barred. -/
theorem bars_revoke_self (u : Users) (s : WideText) : (u.revoke s).Bars s := by
  refine ⟨?_, isRevoked_revoke u s⟩
  rw [roles?, revoke, List.lookup_eq_none_iff]
  intro p hp
  have other : p.1 ≠ s := of_decide_eq_true (List.mem_filter.1 hp).2
  exact bne_iff_ne.2 other.symm

/-- A barred subject stays so when another one is revoked. -/
theorem Bars.revoke (h : u.Bars s) (t : WideText) : (u.revoke t).Bars s := by
  refine ⟨List.Sublist.lookup_eq_none List.filter_sublist h.1, ?_⟩
  have listed : s ∈ u.revoked := by simpa [isRevoked] using h.2
  by_cases same : s = t
  · simp [isRevoked, Users.revoke, same]
  · simp [isRevoked, Users.revoke, same, listed]

/-- A barred subject stays so when another one is added. -/
theorem Bars.add (h : u.Bars s) (other : t ≠ s) (roles : List String) : (u.add t roles).Bars s := by
  have listed : s ∈ u.revoked := by simpa [isRevoked] using h.2
  have ne : (s == t) = false := beq_false_of_ne other.symm
  have unknown : (u.known.filter fun p => p.1 ≠ t).lookup s = none :=
    List.Sublist.lookup_eq_none List.filter_sublist h.1
  refine ⟨?_, by simp [isRevoked, Users.add, listed, other.symm]⟩
  simp only [roles?, Users.add, List.lookup_cons, ne, unknown]

end Users

namespace LoginService

variable {g : LoginService} {u : Users} {s : WideText} {users : Option Users} {now : Instant}
  {replies : List Reply} {c : Credentials} {i : Identity}

/-- The login of a barred subject is no longer valid. -/
theorem not_validates_of_bars (h : u.Bars i.subject) : g.validates (some u) i = false := by
  simp [validates, Users.isActive, h.1, h.2]

/-- Claims give an identity if they name a subject that may log in. -/
theorem identify_eq_ok {claims : Fields} :
    g.identify users claims = .ok i ↔
      Verified.subjectOf claims = some i.subject ∧ i.subject ≠ "" ∧
        g.rolesFor users i.subject = some i.roles ∧ i.name = nameOf claims := by
  unfold identify
  cases Verified.subjectOf claims with
  | none => simp
  | some subject =>
    by_cases empty : subject = ""
    · subst empty
      exact ⟨nofun, fun h => absurd (Option.some.inj h.1).symm h.2.1⟩
    · have filled : subject.isEmpty = false :=
        Bool.eq_false_iff.2 fun h => empty (WideText.isEmpty_iff.1 h)
      simp only [filled, Bool.false_eq_true, if_false, Option.some.injEq]
      cases roles : g.rolesFor users subject with
      | none =>
        refine ⟨nofun, ?_⟩
        rintro ⟨rfl, -, known, -⟩
        exact absurd (roles.symm.trans known) nofun
      | some given =>
        constructor
        · intro same
          obtain rfl := Except.ok.inj same
          exact ⟨rfl, empty, roles, rfl⟩
        · rintro ⟨rfl, -, known, name⟩
          obtain rfl := Option.some.inj (roles.symm.trans known)
          rw [← name]

/-- A fresh code logs in whom the claims that it yields give. -/
theorem login_eq_ok (fresh : c.verified = none) :
    (g.login users now replies c).result = .ok (some i) ↔
      ∃ v, (g.exchanger.exchange now replies c.code c.redirectUri).result = .ok v ∧
        g.identify users v.claims = .ok i := by
  unfold login redeem
  rw [fresh]
  dsimp only
  cases (g.exchanger.exchange now replies c.code c.redirectUri).result with
  | error fault => cases fault <;> simp
  | ok v => cases h : g.identify users v.claims <;> simp [h]

/-- A barred subject is treated like one that was never known. -/
theorem rolesFor_of_bars (h : u.Bars s) :
    g.rolesFor (some u) s = if g.newcomers then some [] else none := by
  simp only [rolesFor, h.1]

/-- A fresh code of a barred subject logs it in where newcomers are accepted. -/
theorem login_of_bars (h : u.Bars s) (fresh : c.verified = none) :
    (∃ i, (g.login (some u) now replies c).result = .ok (some i) ∧ i.subject = s) ↔
      g.newcomers = true ∧ s ≠ "" ∧
        ∃ v, (g.exchanger.exchange now replies c.code c.redirectUri).result = .ok v ∧
          Verified.subjectOf v.claims = some s := by
  simp only [login_eq_ok fresh, identify_eq_ok]
  constructor
  · rintro ⟨i, ⟨v, yields, subject, filled, roles, -⟩, rfl⟩
    rw [rolesFor_of_bars h] at roles
    refine ⟨?_, filled, v, yields, subject⟩
    by_contra closed
    simp [closed] at roles
  · rintro ⟨newcomers, filled, v, yields, subject⟩
    refine ⟨⟨s, nameOf v.claims, []⟩, ⟨v, yields, subject, filled, ?_, rfl⟩, rfl⟩
    rw [rolesFor_of_bars h, newcomers, if_pos rfl]

end LoginService

/-- The directory bars a subject. -/
def World.Bars (w : World) (s : WideText) : Prop :=
  ∃ u, w.users = some u ∧ u.Bars s

/-- An event adds or revokes a subject. -/
def Event.Concerns (c : Event) (s : WideText) : Prop :=
  c = .revoke s ∨ ∃ roles, c = .add s roles

/-- The channel takes a redirect. -/
def Channel.Takes (c : Channel) : Prop :=
  ∀ status location, ∃ d, c.redirect status location = .ok d

namespace Gate

variable {g : Gate} {w : World} {s : WideText} {es : List Event}

/-- A subject stays barred through events that do not concern it. -/
theorem bars_after (h : w.Bars s) {c : Event} (other : ¬ c.Concerns s) : (g.after w c).Bars s := by
  obtain ⟨u, hu, bars⟩ := h
  cases c with
  | call e q channel => exact ⟨u, (visit_evolves g w e q channel).users.trans hu, bars⟩
  | tick => exact ⟨u, hu, bars⟩
  | wall => exact ⟨u, hu, bars⟩
  | add t roles =>
    refine ⟨u.add t roles, by rw [after, hu, Option.map_some], bars.add ?_ roles⟩
    rintro rfl
    exact other (.inr ⟨roles, rfl⟩)
  | revoke t => exact ⟨u.revoke t, by rw [after, hu, Option.map_some], bars.revoke t⟩

/-- A subject stays barred in a run that does not concern it. -/
theorem bars_run (h : w.Bars s) (quiet : ∀ c ∈ es, ¬ c.Concerns s) : (g.run w es).Bars s := by
  induction es generalizing w with
  | nil => exact h
  | cons c es ih =>
    exact ih (bars_after h (quiet c List.mem_cons_self)) fun d hd =>
      quiet d (List.mem_cons_of_mem c hd)

/-- After a revocation the subject is barred until it is added again. -/
theorem bars_of_revoke (directory : w.users.isSome) (pre : List Event) {post : List Event}
    (quiet : ∀ c ∈ post, ¬ c.Concerns s) : (g.run w (pre ++ .revoke s :: post)).Bars s := by
  obtain ⟨u, hu⟩ := Option.isSome_iff_exists.1 (users_run (g := g) directory pre)
  rw [run_append, run_cons]
  exact bars_run ⟨u.revoke s, by rw [after, hu, Option.map_some], u.bars_revoke_self s⟩ quiet

/-- A call is a callback that completes a login of a subject: its session is found and its state
accepted, the code yields claims of the subject, the time can be told, the session can be renewed,
and the channel takes the redirect. -/
structure Completes (g : Gate) (w : World) (e : Errand) (q : Request) (channel : Channel)
    (s : WideText) : Prop where
  call : ∃ mandatory, e = .validate mandatory
  callback : isCallback q.uri = true
  cookie : q.sessionFromUrl = false
  session : ∃ id n, q.sessionId = some id ∧ id ≠ "" ∧
    (w.store.get w.now id).1 = .ok (some n) ∧
    (w.store.session? n).bind (fun a => Csrf.accepts? a (q.parameter "state")) = some true ∧
    ∃ m, ((w.store.get w.now id).2.renew w.now n).result = .ok m
  code : ∃ code v, q.parameter "code" = some code ∧
    (g.service.exchanger.exchange w.wall w.replies code q.callbackUrl).result = .ok v ∧
    Verified.subjectOf v.claims = some s
  subject : s ≠ ""
  time : ∃ seconds, w.wall.wholeSeconds = .ok seconds
  takes : channel.Takes

variable {v u : Visit} {n : Serial} {code : String} {r : Except Fault Outcome} {mandatory : Bool}

/-- A channel that took one redirect takes any. -/
theorem takes_of_redirect {c d : Channel} {status : Int} {location : Attribute}
    (h : c.redirect status location = .ok d) : c.Takes := by
  intro status' location'
  cases c with
  | buffered written _ =>
    cases written with
    | none => exact ⟨_, rfl⟩
    | some => cases h
  | deferred => exact ⟨_, rfl⟩
  | broken => cases h

/-- Redeeming a code ends with a login where every part of it succeeds. -/
theorem Redeems.answers_iff (h : Redeems g code n v r u) :
    (∃ result sent, r = .ok (.authenticated result sent) ∧ result.identity.subject = s) ↔
      (∃ i, (g.attemptOf { code, redirectUri := v.request.callbackUrl } v).result = .ok (some i) ∧
        i.subject = s) ∧
      (∃ seconds, v.world.wall.wholeSeconds = .ok seconds) ∧
      (∃ m, (v.world.store.renew v.world.now n).result = .ok m) ∧ v.channel.Takes := by
  cases h with
  | broken login =>
    refine ⟨nofun, ?_⟩
    rintro ⟨⟨i, attempt, -⟩, ⟨seconds, time⟩, ⟨m, issue⟩, -⟩
    cases login with
    | broken h => exact absurd (h.symm.trans attempt) nofun
    | untimed _ late => exact absurd (late.symm.trans time) nofun
    | unissued _ _ full => exact absurd (full.symm.trans issue) nofun
  | refused login ends =>
    constructor
    · rintro ⟨result, sent, done, -⟩
      exact absurd done (result_ne_authenticated ends.result nofun)
    · rintro ⟨⟨i, attempt, -⟩, -⟩
      cases login with
      | refused h => exact absurd (h.symm.trans attempt) nofun
  | redeemed login ends =>
    cases login with
    | @renewed identity seconds _ attempt time issue log =>
      cases ends with
      | taken taken =>
        constructor
        · rintro ⟨result, sent, done, subject⟩
          obtain ⟨rfl, -⟩ := Outcome.authenticated.inj (Except.ok.inj done)
          exact ⟨⟨identity, attempt, subject⟩, ⟨seconds, time⟩, ⟨_, issue⟩, takes_of_redirect taken⟩
        · rintro ⟨⟨i, attempt', rfl⟩, -⟩
          obtain rfl := Option.some.inj (Except.ok.inj (attempt.symm.trans attempt'))
          exact ⟨_, true, rfl, rfl⟩
      | failed failed =>
        refine ⟨nofun, ?_⟩
        rintro ⟨-, -, -, takes⟩
        obtain ⟨d, taken⟩ := takes _ _
        exact absurd (failed.symm.trans taken) nofun

/-- A state that a session accepts is accepted by one that was issued. -/
theorem accepts?_session (v : Visit) (n : Serial) (state : Option String) :
    Csrf.accepts? (v.session n) state = some true ↔
      (v.world.store.session? n).bind (fun a => Csrf.accepts? a state) = some true := by
  rw [Visit.session]
  cases v.world.store.session? n with
  | none =>
    constructor
    · intro h
      cases h
    · intro h
      cases h
  | some a => rfl

/-- **A code logs a barred subject in where newcomers are accepted,** for the directory is not asked
whether it was revoked. -/
theorem attempt_of_bars (bars : v.world.Bars s) (code redirectUri : String) :
    (∃ i, (g.attemptOf { code, redirectUri } v).result = .ok (some i) ∧ i.subject = s) ↔
      g.service.newcomers = true ∧ s ≠ "" ∧
        ∃ x, (g.service.exchanger.exchange v.world.wall v.world.replies code redirectUri).result =
            .ok x ∧ Verified.subjectOf x.claims = some s := by
  obtain ⟨u, hu, bars⟩ := bars
  rw [attemptOf, hu]
  exact LoginService.login_of_bars bars rfl

/-- A decision that answers a barred subject is a callback that completes its login. -/
theorem Decides.completes {result : AuthResult} {sent : Bool} (h : Decides g mandatory v r u)
    (bars : v.world.Bars s) (hr : r = .ok (.authenticated result sent))
    (subject : result.identity.subject = s) :
    g.service.newcomers = true ∧
      Completes g v.world (.validate mandatory) v.request v.channel s := by
  have grants := h.grants hr
  cases h with
  | deferred => cases hr
  | urlSession _ _ ends => exact absurd hr (result_ne_authenticated ends.result nofun)
  | unfound => cases hr
  | protect _ other =>
    cases grants with
    | held _ _ _ _ valid =>
      obtain ⟨d, hd, bars⟩ := bars
      rw [hd, LoginService.not_validates_of_bars (subject ▸ bars)] at valid
      cases valid
    | signIn signsIn => exact absurd (other.symm.trans signsIn.callback) (by simp)
  | callback callback cookie finds answers =>
    subst hr
    obtain ⟨n, code, rfl, given, state, redeems⟩ := answers.redeems
    rw [finds_session finds] at state
    cases finds with
    | @found id n st named filled found =>
      obtain ⟨attempt, time, ⟨m, issue⟩, takes⟩ :=
        redeems.answers_iff.1 ⟨result, sent, rfl, subject⟩
      obtain ⟨newcomers, known, x, yields, names⟩ :=
        (attempt_of_bars (v := v.withStore st) bars code _).1 attempt
      exact ⟨newcomers,
        { call := ⟨mandatory, rfl⟩, callback, cookie
          session := ⟨id, n, named, filled, congrArg Prod.fst found,
            (accepts?_session ..).1 state, m, by rw [found]; exact issue⟩
          code := ⟨code, x, given, yields, names⟩
          subject := known, time, takes }⟩

/-- A callback that completes the login of a barred subject is answered. -/
theorem Decides.of_completes (h : Decides g mandatory v r u) (bars : v.world.Bars s)
    (newcomers : g.service.newcomers = true)
    (c : Completes g v.world (.validate mandatory) v.request v.channel s) :
    ∃ result sent, r = .ok (.authenticated result sent) ∧ result.identity.subject = s := by
  obtain ⟨id, n, named, filled, found, accepted, m, issue⟩ := c.session
  obtain ⟨code, x, given, yields, names⟩ := c.code
  obtain ⟨st, found⟩ : ∃ st, v.world.store.get v.world.now id = (.ok (some n), st) :=
    ⟨_, Prod.ext found rfl⟩
  rw [found] at issue
  have redeems := h.redeems c.callback c.cookie named filled found given
    ((accepts?_session v n _).2 accepted)
  exact redeems.answers_iff.2
    ⟨(attempt_of_bars (v := v.withStore st) bars code _).2
      ⟨newcomers, c.subject, x, yields, names⟩, c.time, ⟨m, issue⟩, c.takes⟩

/-- How a decision ends is how its call ends. -/
theorem visit_validate (g : Gate) (w : World) (mandatory : Bool) (q : Request)
    (channel : Channel) :
    (g.visit w (.validate mandatory) q channel).1 =
      ((g.validate mandatory).on { world := w, request := q, channel }).1.map some := by
  rw [visit, Errand.step, on_map some]

/-- What a decision leaves is what its call leaves. -/
theorem visit_validate_snd (g : Gate) (w : World) (mandatory : Bool) (q : Request)
    (channel : Channel) :
    (g.visit w (.validate mandatory) q channel).2 =
      ((g.validate mandatory).on { world := w, request := q, channel }).2 := by
  rw [visit, Errand.step, on_map some]

/-- **Who is answered after a revocation:** as long as a subject that was revoked is not added
again, no call answers it, but for a callback that completes a login of the subject where newcomers
are accepted; and every such callback answers it. -/
theorem authenticated_iff_of_revoke (directory : w.users.isSome) (pre : List Event)
    {post : List Event} (quiet : ∀ c ∈ post, ¬ c.Concerns s) (e : Errand) (q : Request)
    (channel : Channel) :
    (∃ result sent, (g.visit (g.run w (pre ++ .revoke s :: post)) e q channel).1 =
        .ok (some (.authenticated result sent)) ∧ result.identity.subject = s) ↔
      g.service.newcomers = true ∧
        Completes g (g.run w (pre ++ .revoke s :: post)) e q channel s := by
  have bars := bars_of_revoke (g := g) directory pre quiet
  -- Of the run nothing but the bar is needed.
  generalize g.run w (pre ++ .revoke s :: post) = x at bars ⊢
  constructor
  · rintro ⟨result, sent, done, subject⟩
    obtain ⟨mandatory, c, u, decides, -, -, call⟩ := decides_of_authenticated done
    obtain ⟨newcomers, completes⟩ := decides.completes bars rfl subject
    obtain ⟨rfl, rfl⟩ | ⟨-, other⟩ := call
    · exact ⟨newcomers, completes⟩
    · exact absurd (other.symm.trans completes.callback) (by simp)
  · rintro ⟨newcomers, completes⟩
    obtain ⟨mandatory, rfl⟩ := completes.call
    obtain ⟨result, sent, done, subject⟩ :=
      (validate_decides g mandatory { world := x, request := q, channel }).of_completes bars
        newcomers completes
    exact ⟨result, sent, by rw [visit_validate, done]; rfl, subject⟩

/-- A small world that knows `alice`, who is revoked between a challenge and its callback. -/
def revokedBeforeCallback : List Event :=
  [.call (.validate true) (smallRequest "/page" "" none) .fresh, .revoke "alice"]

/-- The callback after the revocation. -/
def smallCallback : Request :=
  smallRequest "/j_security_check" "code=abc&state=token" (some "first")

/-- The callback after the revocation is answered, and so it completes a login of `alice`. -/
theorem authenticated_iff_of_revoke_small :
    let g := smallGate true
    let w := smallWorld (some (Users.ofList [("alice", ["user"])]))
    w.users.isSome ∧ (∀ c ∈ ([] : List Event), ¬ c.Concerns "alice") ∧
      (g.visit (g.run w revokedBeforeCallback) (.validate true) smallCallback .fresh).1 =
        .ok (some (.authenticated smallResult true)) ∧
      Completes g (g.run w revokedBeforeCallback) (.validate true) smallCallback .fresh
        "alice" := by
  intro g w
  have answer : (g.visit (g.run w revokedBeforeCallback) (.validate true) smallCallback .fresh).1 =
      .ok (some (.authenticated smallResult true)) := by decide +kernel
  have quiet : ∀ c ∈ ([] : List Event), ¬ c.Concerns "alice" := by simp
  have iff := authenticated_iff_of_revoke (g := g) (w := w) rfl
    [.call (.validate true) (smallRequest "/page" "" none) .fresh] quiet (.validate true)
    smallCallback .fresh
  exact ⟨rfl, quiet, answer, (iff.1 ⟨smallResult, true, answer, rfl⟩).2⟩

/-- Where newcomers are accepted a revoked subject logs in again. -/
theorem authenticated_after_revoke :
    let w := smallWorld (some (Users.ofList [("alice", ["user"])]))
    ¬ ∀ (pre post : List Event) (s : WideText), (∀ c ∈ post, ¬ c.Concerns s) →
      ∀ e q channel result sent,
        ((smallGate true).visit ((smallGate true).run w (pre ++ .revoke s :: post)) e q channel).1 =
          .ok (some (.authenticated result sent)) → result.identity.subject ≠ s := by
  intro w claim
  have answer : ((smallGate true).visit ((smallGate true).run w revokedBeforeCallback)
      (.validate true) smallCallback .fresh).1 =
        .ok (some (.authenticated smallResult true)) := by decide +kernel
  exact claim [.call (.validate true) (smallRequest "/page" "" none) .fresh] [] "alice" (by simp)
    (.validate true) smallCallback .fresh smallResult true answer rfl

end Gate
end LoginGate
