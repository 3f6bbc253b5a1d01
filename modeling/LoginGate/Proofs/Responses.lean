/-
# One response to a request

What stands on a fresh channel after a request was decided on.  A channel that holds a response
refuses any other write with a fault of the channel, and no decision ends with one; so a decision
writes once or not at all, and its outcome says which.

| outcome | the channel |
| --- | --- |
| `deferred`, or `authenticated` outside a callback | is as it was |
| `challenged` | leads to the provider, with the token of the session |
| `authenticated` by a callback | leads to where the browser came from |
| `failed` for the state, or without an error page | is a refusal |
| any other that `failed` | leads to the error page |
| none: the call breaks off | is as it was |
-/

import LoginGate.Proofs.Breakdown

namespace LoginGate

/-- The token of a challenge stands in the session. -/
theorem Csrf.csrfToken_ensure (tokens : Supply) (s : Session) :
    (ensure tokens s).session.csrfToken = some (ensure tokens s).token := by
  unfold ensure
  split
  · rename_i held
    exact (Option.filter_eq_some_iff.1 held).1
  · rfl

namespace Gate

open Step (Ends Finds)

variable {g : Gate} {w : World} {v u x : Visit} {q : Request} {n : Serial} {o : Outcome}
  {mandatory : Bool} {session : Option Serial} {r : Except Fault Outcome} {reason : String}

/-- A callback that brings a code is refused for its state: it finds no live session with a token
that it brings as its state. -/
structure RefusesState (w : World) (q : Request) : Prop where
  callback : isCallback q.uri = true
  cookie : q.sessionFromUrl = false
  code : ∃ code, q.parameter "code" = some code
  state : ∀ n token, w.live? q = some n → w.HasToken n token → q.parameter "state" ≠ some token

/-- What a decision on a request leaves of a fresh channel; on such a channel no request goes on
`unauthenticated`. -/
inductive Responds (g : Gate) (w : World) (q : Request) (u : Visit) :
    Except Fault (Option Outcome) → Prop
  | broken {fault : Fault} (own : ∀ f, fault ≠ .channel f) (left : u.channel = .fresh) :
      Responds g w q u (.error fault)
  | deferred (left : u.channel = .fresh) : Responds g w q u (.ok (some .deferred))
  | challenged {token : String} {url : WideText}
      (held : (u.world.session (w.sessionFor q)).csrfToken = some (.text token))
      (address : Challenge.url? g.provider q token = some url)
      (sent : u.channel = .buffered (some q.redirectStatus) (some (.wide url))) :
      Responds g w q u (.ok (some .challenged))
  /-- The request is refused: there is no error page, or the state is wrong. -/
  | refused {reason : String} (plain : g.settings.errorPage = none ∨ RefusesState w q)
      (sent : u.channel = .buffered (some Step.forbidden) none) :
      Responds g w q u (.ok (some (.failed reason)))
  /-- The browser is sent to the error page. -/
  | pointed {reason page : String} (given : g.settings.errorPage = some page)
      (known : ¬ RefusesState w q)
      (sent : u.channel =
        .buffered (some q.redirectStatus) (some (.text (Address.join q.context (some page))))) :
      Responds g w q u (.ok (some (.failed reason)))
  /-- The callback sends the browser on. -/
  | arrived {result : AuthResult} {location : Attribute} (callback : isCallback q.uri = true)
      (sent : u.channel = .buffered (some q.redirectStatus) (some location)) :
      Responds g w q u (.ok (some (.authenticated result true)))
  | held {result : AuthResult} (other : isCallback q.uri = false) (left : u.channel = .fresh) :
      Responds g w q u (.ok (some (.authenticated result false)))

/-- A write that a fresh channel takes is what is on the channel in the end. -/
theorem ends_fresh {f : Channel → Except ChannelFault Channel} {d : Channel}
    (h : Ends f o v r u) (fresh : v.channel = .fresh) (takes : f .fresh = .ok d) :
    r = .ok o ∧ u.channel = d := by
  have taken : f v.channel = .ok d := fresh ▸ takes
  cases h with
  | taken sent => exact ⟨rfl, Except.ok.inj (sent.symm.trans taken)⟩
  | failed failed => cases failed.symm.trans taken

/-- A failure that is not for the state leads to the error page, if there is one. -/
theorem responds_of_failure (h : Ends (Step.failure g.settings q) (.failed reason) v r u)
    (fresh : v.channel = .fresh) (known : ¬ RefusesState w q) :
    Responds g w q u (r.map some) := by
  unfold Step.failure at h
  cases given : g.settings.errorPage with
  | none =>
    rw [given] at h
    obtain ⟨rfl, sent⟩ := ends_fresh h fresh rfl
    exact .refused (.inl given) sent
  | some page =>
    rw [given] at h
    obtain ⟨rfl, sent⟩ := ends_fresh h fresh rfl
    exact .pointed given known sent

/-- A failure that is for the state is a refusal. -/
theorem responds_of_refusal (h : Ends (Channel.error Step.forbidden) (.failed reason) v r u)
    (fresh : v.channel = .fresh) (refuses : RefusesState w q) :
    Responds g w q u (r.map some) := by
  obtain ⟨rfl, sent⟩ := ends_fresh h fresh rfl
  exact .refused (.inr refuses) sent

/-! ## Callbacks -/

/-- Logging in writes to no channel. -/
theorem LogsIn.writes_nothing {c : Credentials} {y : Except Fault (Option (AuthResult × Serial))}
    (h : LogsIn g c n v y u) :
    u.channel = v.channel ∧ ∀ f, y ≠ .error (.channel f) := by
  cases h <;> exact ⟨rfl, nofun⟩

/-- A callback with a code and the token of its session fails at the login, if it fails. -/
theorem Redeems.responds {code : String} (fresh : v.channel = .fresh)
    (callback : isCallback v.request.uri = true) (known : ¬ RefusesState w v.request)
    (h : Redeems g code n v r u) : Responds g w v.request u (r.map some) := by
  cases h with
  | broken login =>
    obtain ⟨channel, own⟩ := login.writes_nothing
    exact .broken (fun f same => own f (congrArg Except.error same)) (channel.trans fresh)
  | refused login ends =>
    obtain ⟨channel, -⟩ := login.writes_nothing
    obtain ⟨request, -⟩ := login.refused_keeps
    rw [request] at ends
    exact responds_of_failure ends (channel.trans fresh) known
  | @redeemed result m y _ _ login ends =>
    obtain ⟨channel, -⟩ := login.writes_nothing
    have status : y.request.redirectStatus = v.request.redirectStatus := by
      cases login
      rfl
    have fresh' : (y.withStore (y.world.store.modify m SavedRequest.arrive)).channel = .fresh :=
      channel.trans fresh
    obtain ⟨rfl, sent⟩ := ends_fresh ends fresh' rfl
    exact .arrived callback (status ▸ sent)

/-- A callback whose session was looked for is refused for its state where that is not the token of
the session, and for nothing else. -/
theorem Answers.responds (fresh : v.channel = .fresh) (callback : isCallback v.request.uri = true)
    (cookie : v.request.sessionFromUrl = false) (finds : Finds v (.ok session) x)
    (h : Answers g x session r u) : Responds g v.world v.request u (r.map some) := by
  have live := live?_of_finds finds
  have same := finds_session finds
  obtain ⟨s, rfl, -⟩ := finds.exists_store
  cases h with
  | noCode given ends =>
    refine responds_of_failure ends fresh fun refuses => ?_
    obtain ⟨code, brought⟩ := refuses.code
    cases brought.symm.trans given
  | noSession given ends =>
    refine responds_of_refusal ends fresh ⟨callback, cookie, ⟨_, given⟩, fun n _ there => ?_⟩
    cases live.symm.trans there
  | unreadable => exact .broken nofun fresh
  | wrongState given state ends =>
    refine responds_of_refusal ends fresh
      ⟨callback, cookie, ⟨_, given⟩, fun n token there held => ?_⟩
    obtain rfl := Option.some.inj (live.symm.trans there)
    intro sent
    rw [same] at state
    change Csrf.accepts? _ (v.request.parameter "state") = _ at state
    rw [sent, held.accepts] at state
    cases state
  | redeemed given state redeems =>
    rw [same] at state
    obtain ⟨token, held, sent⟩ := hasToken_of_accepts state
    exact Redeems.responds (v := v.withStore s) fresh callback
      (fun refuses => refuses.state _ _ live held sent) redeems

/-! ## Requests that need a login -/

/-- A challenge that breaks off wrote nothing. -/
theorem Challenges.writes_nothing {fault : Fault} (fresh : v.channel = .fresh)
    (h : Challenges g n v (.error fault) u) :
    u.channel = .fresh ∧ ∀ f, fault ≠ .channel f := by
  generalize done : (Except.error fault : Except Fault Outcome) = o at h
  cases h with
  | unsaved =>
    cases done
    exact ⟨fresh, nofun⟩
  | saved _ left _ sends =>
    subst left
    cases sends with
    | tokenless =>
      cases done
      exact ⟨fresh, nofun⟩
    | unaddressed =>
      cases done
      exact ⟨fresh, nofun⟩
    | @sent _ url _ _ _ _ ends =>
      obtain ⟨rfl, -⟩ := ends_fresh ends fresh rfl
      cases done

/-- A challenge that was sent leads to the provider, with the token that is in its session. -/
theorem Decides.challenge_sent (named : v.world.store.Named) (fresh : v.channel = .fresh)
    (other : isCallback v.request.uri = false) (cookie : v.request.sessionFromUrl = false)
    (h : Decides g mandatory v (.ok .challenged) u) :
    Responds g v.world v.request u (.ok (some .challenged)) := by
  obtain ⟨y, enters, challenges⟩ :=
    h.challenges named other (reaches_of_result cookie rfl (.inl rfl))
  obtain ⟨b, there, -⟩ := enters.session
  obtain ⟨id, request, -⟩ := enters.request
  obtain ⟨taken, token, url, marked, issued, -, address, sent⟩ := challenges.redirects there
  rw [enters.channel, fresh, request] at sent
  rw [request] at address
  have held : (u.world.session (v.world.sessionFor v.request)).csrfToken = some (.text token) := by
    rw [World.session_of_session? marked, Csrf.csrfToken_ensure, issued]
  exact .challenged held address (Except.ok.inj sent).symm

/-- A request that needs a login and is not the callback is not answered, or with a challenge. -/
theorem Protects.responds (fresh : v.channel = .fresh) (other : isCallback v.request.uri = false)
    (finds : Finds v (.ok session) x)
    (sent : r = .ok .challenged → Responds g v.world v.request u (r.map some))
    (h : Protects g x session r u) : Responds g v.world v.request u (r.map some) := by
  obtain ⟨s, rfl, -⟩ := finds.exists_store
  -- A challenge is sent, or it breaks off.
  have challenge {n : Serial} {y : Visit} (same : y.channel = v.channel)
      (challenges : Challenges g n y r u) : Responds g v.world v.request u (r.map some) := by
    obtain done | ⟨fault, rfl⟩ := challenges.result
    · exact sent done
    · obtain ⟨left, own⟩ := challenges.writes_nothing (same.trans fresh)
      exact .broken own left
  cases h with
  | @held n _ _ _ log =>
    refine .held other ?_
    dsimp only
    unfold replayed
    split <;> exact fresh
  | unreadable => exact .broken nofun fresh
  | passed _ deferred =>
    have sendable : v.channel.isDeferred = true := deferred
    rw [fresh] at sendable
    cases sendable
  | challenged unheld _ challenges =>
    exact challenge (by cases unheld <;> rfl) challenges
  | unissued => exact .broken nofun fresh
  | started _ _ _ left challenges =>
    exact challenge (by rw [left]; rfl) challenges

/-! ## The whole decision -/

/-- **A decision on a fresh channel** responds as its outcome says. -/
theorem Decides.responds (named : v.world.store.Named) (fresh : v.channel = .fresh)
    (h : Decides g mandatory v r u) : Responds g v.world v.request u (r.map some) := by
  have whole := h
  cases h with
  | deferred => exact .deferred fresh
  | urlSession _ url ends =>
    refine responds_of_failure ends fresh fun refuses => ?_
    cases url.symm.trans refuses.cookie
  | unfound _ _ finds =>
    cases finds with
    | broken => exact .broken nofun fresh
  | callback callback cookie finds answers =>
    exact answers.responds fresh callback cookie finds
  | protect _ other cookie finds protects =>
    refine protects.responds fresh other finds fun done => ?_
    subst done
    exact whole.challenge_sent named fresh other cookie

end Gate
end LoginGate
