/-
# Which calls find somebody logged in

A call answers `authenticated` in two cases: the session of its request holds the login, and the
directory still confirms it; or the call is a callback, and its code logged somebody in just now.

A session holds a login from the call that issued it on, and once it lost the login it holds none
again.
-/

import LoginGate.Proofs.Effects

namespace LoginGate

/-- The session of a serial holds a login. -/
def World.Holds (w : World) (n : Serial) (result : AuthResult) : Prop :=
  ∃ s, w.store.session? n = some s ∧ s.authenticated = some (.result result)

namespace Gate

variable {g : Gate} {v u w' : Visit} {w : World} {e : Errand} {q : Request} {channel : Channel}
  {n m : Serial} {result : AuthResult}

/-- A session whose login can be read holds it. -/
theorem holds_of_present
    (h : Attribute.present (v.session n).authenticated = some (.result result)) :
    v.world.Holds n result := by
  cases hs : v.world.store.session? n with
  | none =>
    rw [Visit.session, hs] at h
    cases h
  | some s =>
    rw [Visit.session_of_session? hs] at h
    exact ⟨s, hs, (Option.filter_eq_some_iff.1 h).1⟩

/-- A login that is in a session after a call was there before it, or the call is a callback that
signed in and issued the session. -/
theorem Leaves.login {r : Except Fault (Option Outcome)} {s : Session}
    (h : Leaves g w e q channel r m s) (held : s.authenticated = some (.result result)) :
    w.Holds m result ∨ ∃ x : SignIn, x.At g w q ∧ (∃ mandatory, e = .validate mandatory) ∧
      m = x.next ∧ m = w.store.sessions.length ∧ x.result = result ∧ s.id = x.newId := by
  cases h with
  | kept old => exact .inl ⟨s, old, held⟩
  | forgotten => cases held
  | @restored a result old => exact .inl ⟨a, old, held⟩
  | @challenged a b after challenging old unheld save =>
    rw [(Csrf.ensure_keeps ..).2, (SavedRequest.save_keeps save).2.1] at held
    obtain ⟨rfl, empty⟩ | rfl := unheld
    · rw [held] at empty
      cases empty
    · cases held
  | @begun b challenging shape source =>
    obtain ⟨a, old, ⟨rfl, -⟩ | rfl⟩ | ⟨-, id, rfl⟩ := source
    · exact .inl ⟨_, old, held⟩
    · cases held
    · cases held
  | blank => cases held
  | opened _ _ save =>
    rw [(Csrf.ensure_keeps ..).2, (SavedRequest.save_keeps save).2.1] at held
    cases held
  | @renewed a x signsIn call new next =>
    have same : x.result = result := Attribute.result.inj (Option.some.inj held)
    exact .inr ⟨x, signsIn, call, next, new, same, rfl⟩

/-- A login that an old session holds after a call was in it before the call. -/
theorem holds_before (old : n < w.store.sessions.length)
    (h : (g.visit w e q channel).2.world.Holds n result) : w.Holds n result := by
  obtain ⟨s, hs, held⟩ := h
  obtain h | ⟨x, -, -, -, new, -⟩ := (visit_leaves hs).login held
  · exact h
  · exact absurd new (Nat.ne_of_lt old)

/-- A logout of a live session that comes to an end leaves no login in it. -/
theorem not_holds_of_logout {id : String} (done : (g.visit w .logout q channel).1 = .ok none)
    (named : q.sessionId = some id) (given : id ≠ "") (live : w.store.find? w.now id = some n) :
    ¬ (g.visit w .logout q channel).2.world.Holds n result := by
  rintro ⟨s, hs, held⟩
  have visits := visit_visits g w .logout q channel
  generalize (g.visit w .logout q channel).1 = r at done visits
  generalize (g.visit w .logout q channel).2 = u at hs visits
  cases visits with
  | logout h =>
    cases h with
    | unfound => cases done
    | nobody finds =>
      cases finds with
      | nobody h =>
        obtain rfl | gone := h id named
        · exact given rfl
        · obtain found | ⟨fault, broken⟩ := SessionStore.get_of_find? live
          · simp [gone] at found
          · simp [gone] at broken
    | @forgotten k u finds =>
      cases finds with
      | @found id' _ st named' given' h =>
        obtain rfl : id = id' := Option.some.inj (named.symm.trans named')
        have found : (w.store.get w.now id).1 = .ok (some k) := congrArg Prod.fst h
        obtain rfl : k = n :=
          Option.some.inj ((SessionStore.find?_of_get found).symm.trans live)
        obtain ⟨-, ne⟩ | ⟨-, b, -, rfl⟩ := SessionStore.of_session?_modify hs
        · exact ne rfl
        · cases held

/-- How a call finds somebody logged in. -/
inductive Grants (g : Gate) (w : World) (e : Errand) (q : Request) (result : AuthResult)
    (u : Visit) : Prop
  /-- The session of the request holds the login, which is still valid. -/
  | held {id : String} {n : Serial} (named : q.sessionId = some id) (given : id ≠ "")
      (found : (w.store.get w.now id).1 = .ok (some n)) (holds : w.Holds n result)
      (valid : g.service.validates w.users result.identity = true)
      (same : u.request.sessionId = some id) (still : u.world.Holds n result)
  /-- The call is a callback that signs in. -/
  | signIn {x : SignIn} (signsIn : x.At g w q) (call : ∃ mandatory, e = .validate mandatory)
      (result : x.result = result) (fresh : u.request.sessionId = some x.newId)
      (issued : u.world.store.issuedIds[x.next]? = some x.newId)
      (holds : u.world.Holds x.next x.result)

variable {mandatory sent : Bool} {r : Except Fault Outcome} {session : Option Serial}

/-- Whatever ends in another outcome, or in a fault, finds nobody logged in. -/
theorem result_ne_authenticated {o : Outcome} (h : r = .ok o ∨ ∃ fault, r = .error fault)
    (other : o ≠ .authenticated result sent) : r ≠ .ok (.authenticated result sent) := by
  obtain rfl | ⟨fault, rfl⟩ := h
  · exact fun same => other (Except.ok.inj same)
  · exact nofun

/-- Putting a saved request back keeps the login and the session id. -/
theorem replayed_keeps (h : v.world.Holds m result) :
    (replayed n v).world.Holds m result ∧
      (replayed n v).request.sessionId = v.request.sessionId := by
  unfold replayed
  split
  · exact ⟨h, rfl⟩
  · obtain ⟨s, hs, held⟩ := h
    refine ⟨⟨if n = m then SavedRequest.drop s else s, ?_, ?_⟩, rfl⟩
    · simp only [changed, Visit.withStore, SessionStore.session?, SessionStore.modify,
        List.getElem?_modify]
      rw [SessionStore.session?] at hs
      rw [hs]
      rfl
    · split <;> exact held

/-- A request for a page finds somebody logged in by the login that its session holds. -/
theorem Protects.grants {s : SessionStore} {id : String}
    (h : Protects g (v.withStore s) (some n) (.ok (.authenticated result sent)) u)
    (named : v.request.sessionId = some id) (given : id ≠ "")
    (found : v.world.store.get v.world.now id = (.ok (some n), s)) :
    Grants g v.world (.validate mandatory) v.request result u := by
  generalize hr : (Except.ok (Outcome.authenticated result sent) : Except Fault Outcome) = r at h
  have same := SessionStore.sessions_get v.world.store v.world.now id
  rw [found] at same
  cases h with
  | held h valid =>
    obtain ⟨rfl, -⟩ := Outcome.authenticated.inj (Except.ok.inj hr)
    have holds := holds_of_present h
    obtain ⟨still, keeps⟩ := replayed_keeps (n := n) holds
    obtain ⟨a, ha, held⟩ := holds
    exact .held named given (congrArg Prod.fst found)
      ⟨a, SessionStore.session?_of_sessions same n ▸ ha, held⟩ valid (keeps.trans named) still
  | unreadable => cases hr
  | passed => cases hr
  | challenged _ _ challenges =>
    exact absurd hr.symm (result_ne_authenticated challenges.result nofun)

/-- A callback that finds somebody logged in redeems a code. -/
theorem Answers.redeems (h : Answers g v session (.ok (.authenticated result sent)) u) :
    ∃ n code, session = some n ∧ v.request.parameter "code" = some code ∧
      Csrf.accepts? (v.session n) (v.request.parameter "state") = some true ∧
      Redeems g code n v (.ok (.authenticated result sent)) u := by
  generalize hr : (Except.ok (Outcome.authenticated result sent) : Except Fault Outcome) = r at h
  cases h with
  | noCode _ ends => exact absurd hr.symm (result_ne_authenticated ends.result nofun)
  | noSession _ ends => exact absurd hr.symm (result_ne_authenticated ends.result nofun)
  | unreadable => cases hr
  | wrongState _ _ ends => exact absurd hr.symm (result_ne_authenticated ends.result nofun)
  | redeemed given state redeems => exact ⟨_, _, rfl, given, state, hr ▸ redeems⟩

/-- A callback that finds its session and brings a code and the right state redeems the code. -/
theorem Decides.redeems {id code : String} {s : SessionStore} (h : Decides g mandatory v r u)
    (callback : isCallback v.request.uri = true) (cookie : v.request.sessionFromUrl = false)
    (named : v.request.sessionId = some id) (given : id ≠ "")
    (found : v.world.store.get v.world.now id = (.ok (some n), s))
    (brought : v.request.parameter "code" = some code)
    (state : Csrf.accepts? (v.session n) (v.request.parameter "state") = some true) :
    Redeems g code n (v.withStore s) r u := by
  cases h with
  | deferred h => exact absurd (h.1.symm.trans callback) (by simp)
  | urlSession _ url => exact absurd (url.symm.trans cookie) (by simp)
  | unfound _ _ finds =>
    cases finds with
    | broken named' broken =>
      obtain rfl := Option.some.inj (named.symm.trans named')
      exact absurd (broken.symm.trans found) (by simp)
  | protect _ other => exact absurd (other.symm.trans callback) (by simp)
  | callback _ _ finds answers =>
    have same := finds_session finds
    cases finds with
    | nobody none =>
      obtain rfl | gone := none id named
      · exact absurd rfl given
      · exact absurd (gone.symm.trans (congrArg Prod.fst found)) (by simp)
    | found named' _ found' =>
      obtain rfl := Option.some.inj (named.symm.trans named')
      obtain ⟨here, rfl⟩ := Prod.mk.inj (found'.symm.trans found)
      obtain rfl := Option.some.inj (Except.ok.inj here)
      cases answers with
      | noCode absent => exact absurd (absent.symm.trans brought) nofun
      | unreadable _ refused =>
        rw [same] at refused
        exact absurd (refused.symm.trans state) nofun
      | wrongState _ refused =>
        rw [same] at refused
        exact absurd (refused.symm.trans state) nofun
      | redeemed code' _ redeems =>
        obtain rfl := Option.some.inj (brought.symm.trans code')
        exact redeems

/-- A callback finds somebody logged in by a login that it completes. -/
theorem Answers.grants (finds : Step.Finds v (.ok session) w')
    (callback : isCallback v.request.uri = true)
    (h : Answers g w' session (.ok (.authenticated result sent)) u) :
    Grants g v.world (.validate mandatory) v.request result u := by
  obtain ⟨n, code, rfl, given, state, redeems⟩ := h.redeems
  rw [finds_session finds] at state
  generalize hr : (Except.ok (Outcome.authenticated result sent) : Except Fault Outcome) = r
    at redeems
  cases finds with
  | found named _ found =>
    cases redeems with
    | broken => cases hr
    | refused _ ends => exact absurd hr.symm (result_ne_authenticated ends.result nofun)
    | @redeemed result' k u' _ _ login ends =>
      obtain ⟨x, signsIn, -, rfl, rfl, new, sessions, request, -⟩ :=
        signsIn_of_redeemed callback named found given state login
      cases ends with
      | failed => cases hr
      | taken =>
        obtain ⟨rfl, -⟩ := Outcome.authenticated.inj (Except.ok.inj hr)
        have last := SessionStore.modify_last sessions SavedRequest.arrive
        rw [← new] at last
        have issued : (u'.world.store.modify x.next SavedRequest.arrive).sessions[x.next]? =
            some (SavedRequest.arrive (((v.session n).withId x.newId).cache x.result)) := by
          rw [last, new, List.getElem?_concat_length]
        refine .signIn signsIn ⟨mandatory, rfl⟩ rfl (congrArg Request.sessionId request) ?_
          ⟨_, issued, rfl⟩
        exact (List.getElem?_map ..).trans (congrArg (Option.map Session.id) issued)

/-- A decision finds somebody logged in by the one or the other. -/
theorem Decides.grants (h : Decides g mandatory v r u)
    (hr : r = .ok (.authenticated result sent)) :
    Grants g v.world (.validate mandatory) v.request result u := by
  cases h with
  | deferred => cases hr
  | urlSession _ _ ends => exact absurd hr (result_ne_authenticated ends.result nofun)
  | unfound => cases hr
  | callback callback _ finds answers =>
    subst hr
    exact answers.grants finds callback
  | @protect session _ _ _ _ _ _ finds protects =>
    subst hr
    cases finds with
    | nobody =>
      cases protects with
      | started _ _ _ _ challenges =>
        exact absurd rfl (result_ne_authenticated challenges.result nofun)
    | found named given found => exact protects.grants named given found

/-- That a response was not sent leaves the login as it is. -/
theorem eq_of_unsent {o : Outcome} (h : unsent o = .authenticated result sent) :
    o = .authenticated result sent := by
  unfold unsent at h
  split at h
  · exact h
  · cases h

/-- A call that answers `authenticated` takes a decision: its own, or that of looking for a cached
login, which no callback does. -/
theorem decides_of_authenticated
    (h : (g.visit w e q channel).1 = .ok (some (.authenticated result sent))) :
    ∃ mandatory c u, Decides g mandatory { world := w, request := q, channel := c }
        (.ok (.authenticated result sent)) u ∧
      (g.visit w e q channel).2.world = u.world ∧ (g.visit w e q channel).2.request = u.request ∧
      (e = .validate mandatory ∧ c = channel ∨ e = .resolve ∧ isCallback q.uri = false) := by
  have visits := visit_visits g w e q channel
  generalize (g.visit w e q channel).1 = r at h visits
  generalize (g.visit w e q channel).2 = u at visits ⊢
  cases visits with
  | @prepare r _ => cases r <;> cases h
  | @validate mandatory r u decides =>
    cases r with
    | error => cases h
    | ok o =>
      obtain rfl := Option.some.inj (Except.ok.inj h)
      exact ⟨mandatory, channel, u, decides, rfl, rfl, .inl ⟨rfl, rfl⟩⟩
  | @resolve r u resolves =>
    cases resolves with
    | callback => cases h
    | @decided r u other decides =>
      cases r with
      | error => cases h
      | ok o =>
        obtain rfl := eq_of_unsent (Option.some.inj (Except.ok.inj h))
        exact ⟨true, .deferred, u, decides, rfl, rfl, .inr ⟨rfl, other⟩⟩
  | @logout r _ => cases r <;> cases h

/-- **A call that answers `authenticated`** finds a login that is still valid in the session of its
request, or is a callback that signs in. -/
theorem visit_grants
    (h : (g.visit w e q channel).1 = .ok (some (.authenticated result sent))) :
    Grants g w e q result (g.visit w e q channel).2 := by
  obtain ⟨mandatory, c, u, decides, world, request, call⟩ := decides_of_authenticated h
  cases decides.grants rfl with
  | held named given found holds valid same still =>
    rw [← request] at same
    rw [← world] at still
    exact .held named given found holds valid same still
  | signIn signsIn _ same fresh issued holds =>
    rw [← request] at fresh
    rw [← world] at issued holds
    obtain ⟨rfl, -⟩ | ⟨-, other⟩ := call
    · exact .signIn signsIn ⟨mandatory, rfl⟩ same fresh issued holds
    · exact absurd (other.symm.trans signsIn.callback) (by simp)

end Gate
end LoginGate
