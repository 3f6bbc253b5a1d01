/-
# Where the browser goes after a login

A callback that logs somebody in sends the browser to the address that its session saved last.  This
is the address of the request that was challenged, unless the session takes no request: a saved
request that was never put back, be it of a login that is over, stands in the way of every later
one.

| saving | a request that is challenged in a session is gone to, if |
| --- | --- |
| forced | the last request saved since then has its address |
| not forced | the session held no address before, or this one |
-/

import LoginGate.Proofs.Saving

namespace LoginGate

namespace Request

/-- No origin is empty: it has `://` in it. -/
theorem origin_ne_empty (q : Request) : q.origin ≠ "" := by
  unfold origin Address.origin
  dsimp only
  split
  · simp
  · split <;> simp

/-- No address is empty. -/
theorem url_ne_empty (q : Request) : q.url ≠ "" := by
  have h := q.origin_ne_empty
  unfold url
  dsimp only
  split <;> simp [h]

end Request

/-- The browser goes to the saved address, where there is one. -/
theorem Session.Filed.target {s : Session} {p : Request} (h : s.Filed)
    (held : p.slot? = some s.slot)
    (r : Request) : SavedRequest.target r s = .text p.url := by
  have uri : s.uri = some (.text p.url) := Request.uri_of_slot? held
  have saved : Attribute.truthy s.uri = some (.text p.url) := by
    rw [uri]
    exact Attribute.truthy_text p.url_ne_empty
  cases hd : s.destination with
  | none =>
    rw [SavedRequest.target, hd, saved]
    rfl
  | some d =>
    obtain rfl : d = .text p.url := Option.some.inj ((h.destination d hd).symm.trans uri)
    rw [SavedRequest.target, hd, Attribute.truthy_text p.url_ne_empty]
    rfl

namespace Gate

variable {g : Gate} {w : World} {p r : Request} {q : Submission} {c : Event} {n : Serial}
  {channel : Channel}
  {mandatory : Bool} {es pre post : List Event} {result : AuthResult}

/-- A login that was just completed sends the browser to the target of its session. -/
theorem target_of_authenticated {status : Option Int} {location : Attribute}
    (done : (g.visit w (.validate mandatory) r channel).1 = .ok (some (.authenticated result true)))
    (sent : (g.visit w (.validate mandatory) r channel).2.channel =
      .buffered status (some location)) :
    ∃ n, w.live? r = some n ∧ location = SavedRequest.target r (w.session n) := by
  have visits := visit_visits g w (.validate mandatory) r channel
  generalize (g.visit w (.validate mandatory) r channel).1 = o at done visits
  generalize (g.visit w (.validate mandatory) r channel).2 = u at sent visits
  cases visits with
  | @validate _ o u decides =>
    cases o with
    | error => cases done
    | ok o =>
      obtain rfl := Option.some.inj (Except.ok.inj done)
      generalize ho : (Except.ok (Outcome.authenticated result true) : Except Fault Outcome) = o
        at decides
      cases decides with
      | deferred => cases ho
      | urlSession _ _ ends => exact absurd ho.symm (result_ne_authenticated ends.result nofun)
      | unfound => cases ho
      | protect _ _ _ _ protects =>
        cases protects with
        | held => cases ho
        | unreadable => cases ho
        | passed => cases ho
        | challenged _ _ challenges =>
          exact absurd ho.symm (result_ne_authenticated challenges.result nofun)
        | unissued => cases ho
        | started _ _ _ _ challenges =>
          exact absurd ho.symm (result_ne_authenticated challenges.result nofun)
      | callback callback _ finds answers =>
        subst ho
        obtain ⟨n, code, rfl, given, state, redeems⟩ := answers.redeems
        refine ⟨n, live?_of_finds finds, ?_⟩
        rw [finds_session finds] at state
        generalize ho : (Except.ok (Outcome.authenticated result true) : Except Fault Outcome) = o
          at redeems
        cases finds with
        | found named _ found =>
          cases redeems with
          | broken => cases ho
          | refused _ ends => exact absurd ho.symm (result_ne_authenticated ends.result nofun)
          | @redeemed result' m y _ _ login ends =>
            obtain ⟨x, -, -, -, -, new, sessions, request, -⟩ :=
              signsIn_of_redeemed callback named found given state login
            have last : y.session m = ((w.session n).withId x.newId).cache result' := by
              refine Visit.session_of_session? ?_
              rw [SessionStore.session?, sessions, new]
              exact List.getElem?_concat_length
            cases ends with
            | failed => cases ho
            | taken taken =>
              rw [last, request] at taken
              obtain ⟨-, kept⟩ | kept := Channel.redirect_eq_ok taken
              · cases kept.symm.trans sent
              · have same := kept.symm.trans sent
                exact (Option.some.inj (Channel.buffered.inj same).2).symm

/-- An event is a request that is challenged in the session `n`. -/
structure Challenged (g : Gate) (w : World) (c : Event) (n : Serial) (q : Submission) : Prop where
  call : ∃ mandatory channel, c = .call (.validate mandatory) q channel ∧
    (g.visit w (.validate mandatory) q channel).1 = .ok (some .challenged)
  session : n = w.sessionFor q

/-- An event is a callback that logs in in the session `n` and sends the browser to an address. -/
structure Arrives (g : Gate) (w : World) (c : Event) (n : Serial) (location : Attribute) :
    Prop where
  call : ∃ mandatory r channel result status, c = .call (.validate mandatory) r channel ∧
    w.live? r = some n ∧
    (g.visit w (.validate mandatory) r channel).1 = .ok (some (.authenticated result true)) ∧
    (g.visit w (.validate mandatory) r channel).2.channel = .buffered status (some location)

variable {d : Event} {location : Attribute}

/-- After a challenge its session is there, and nobody is logged in in it. -/
theorem Challenged.settled (named : w.store.Named) (h : Challenged g w c n q) :
    n < (g.after w c).store.sessions.length ∧ ∀ result, ¬ (g.after w c).Holds n result := by
  obtain ⟨mandatory, channel, rfl, done⟩ := h.call
  obtain rfl := h.session
  obtain ⟨other, reaches⟩ := reaches_of_challenged done
  obtain ⟨b, taken, -, -, -, hs⟩ := exists_of_reaches named other reaches
  exact ⟨SessionStore.lt_of_session? hs, not_holds_of_reaches named other reaches⟩

/-- A challenge saves its request in its session, or leaves the slot of one that takes none. -/
theorem Challenged.saves (named : w.store.Named) (h : Challenged g w c n q) :
    Saves g w c n q ∨
      SavedRequest.takes g.settings.alwaysSave (w.session n) = false ∧
        (g.after w c).slot n = w.slot n := by
  obtain ⟨mandatory, channel, rfl, done⟩ := h.call
  obtain rfl := h.session
  obtain ⟨other, reaches⟩ := reaches_of_challenged done
  obtain ⟨b, taken, slot, -, save, hs⟩ := exists_of_reaches named other reaches
  have same : SavedRequest.takes g.settings.alwaysSave b =
      SavedRequest.takes g.settings.alwaysSave (w.session (w.sessionFor q)) :=
    SavedRequest.takes_of_slot slot
  obtain ⟨yes, -⟩ | ⟨no, rfl⟩ := SavedRequest.slot_of_save save
  · exact .inl ⟨⟨mandatory, channel, rfl, reaches⟩, other, same.symm.trans yes⟩
  · have left : (g.after w (.call (.validate mandatory) q channel)).store.session?
        (w.sessionFor q) = some (Csrf.ensure w.tokens taken).session := hs
    refine .inr ⟨same.symm.trans no, ?_⟩
    rw [World.slot_of_session? left, (Csrf.ensure_slot ..).1, slot]

/-- A callback that logs in goes to the request whose slot its session holds. -/
theorem Arrives.location_eq (fresh : w.Fresh) (arrives : Arrives g (g.run w es) c n location)
    (held : p.slot? = some ((g.run w es).slot n)) : location = .text p.url := by
  obtain ⟨mandatory, r, channel, result, status, rfl, own, done, sent⟩ := arrives.call
  obtain ⟨m, live, rfl⟩ := target_of_authenticated done sent
  obtain rfl := Option.some.inj (live.symm.trans own)
  obtain ⟨id, -, -, found⟩ := World.live?_eq_some.1 live
  obtain ⟨s, hs, -⟩ :=
    session?_of_issuedIds ((named_run (named_of_fresh fresh) es).of_find? found)
  rw [World.slot_of_session? hs] at held
  rw [World.session_of_session? hs]
  exact (filed_run fresh es m s hs).target held r

/-- Where saving is forced, the browser goes to the request that was saved last. -/
theorem location_of_forced (fresh : w.Fresh) (forced : g.settings.alwaysSave = true)
    (challenged : Challenged g (g.run w pre) c n q)
    (arrives : Arrives g (g.run w (pre ++ c :: post)) d n location) :
    location = .text q.url ↔ ∃ p, LastSaved g (g.run w pre) (c :: post) n p ∧ p.url = q.url := by
  have named := named_run (g := g) (named_of_fresh fresh) pre
  have goes : ∀ p, LastSaved g (g.run w pre) (c :: post) n p → location = .text p.url := by
    intro p last
    refine arrives.location_eq fresh ?_
    rw [run_append]
    exact last.slot named
  constructor
  · intro same
    obtain saves | ⟨full, -⟩ := challenged.saves named
    · obtain ⟨p, last⟩ := exists_lastSaved saves post
      have text : Attribute.text p.url = .text q.url := (goes p last).symm.trans same
      exact ⟨p, last, by simpa using text⟩
    · rw [SavedRequest.takes, forced, Bool.or_true] at full
      cases full
  · rintro ⟨p, last, same⟩
    rw [goes p last, same]

/-- Where saving is not forced, the browser goes to the request unless another address is saved. -/
theorem location_of_unforced (fresh : w.Fresh) (unforced : g.settings.alwaysSave = false)
    (challenged : Challenged g (g.run w pre) c n q)
    (arrives : Arrives g (g.run w (pre ++ c :: post)) d n location) :
    location = .text q.url ↔
      ((g.run w pre).slot n).uri = none ∨ ((g.run w pre).slot n).uri = some (.text q.url) := by
  have named := named_run (g := g) (named_of_fresh fresh) pre
  obtain ⟨old, nobody⟩ := challenged.settled named
  -- The slot is full after the challenge, and stays as it is.
  have stays : ∀ p : Request, p.slot? = some ((g.after (g.run w pre) c).slot n) →
      location = .text p.url := by
    intro p held
    refine arrives.location_eq fresh ?_
    rw [run_append, run_cons, slot_of_full unforced old nobody]
    · exact held
    · rw [Request.uri_of_slot? held, Attribute.present_text]
      exact Option.some_ne_none _
  have takes : SavedRequest.takes g.settings.alwaysSave ((g.run w pre).session n) =
      (Attribute.present ((g.run w pre).slot n).uri).isNone := by
    rw [SavedRequest.takes, unforced, Bool.or_false]
    rfl
  obtain empty | ⟨p, held⟩ := (filed_run (g := g) fresh pre).slot n
  · obtain saves | ⟨full, -⟩ := challenged.saves named
    · exact iff_of_true (stays q (saves.slot named)) (.inl (by rw [empty]))
    · rw [takes, empty] at full
      cases full
  · have full : ((g.run w pre).slot n).uri = some (.text p.url) := Request.uri_of_slot? held
    rw [full, Attribute.present_text] at takes
    obtain saves | ⟨-, kept⟩ := challenged.saves named
    · cases takes.symm.trans saves.takes
    · rw [stays p (kept ▸ held), full]
      simp

/-- **Where the browser goes after a login.**  Take any run from an empty store in which a request
is challenged in a session, and after that a callback that logs in in this session.  The callback
sends the browser to the request in exactly these cases: saving is forced, and the request that was
saved last in the session since the challenge has its address; or saving is not forced, and the
session held no address before the challenge, or the very same one. -/
theorem location_eq_iff (fresh : w.Fresh) (challenged : Challenged g (g.run w pre) c n q)
    (arrives : Arrives g (g.run w (pre ++ c :: post)) d n location) :
    location = .text q.url ↔
      if g.settings.alwaysSave then
        ∃ p, LastSaved g (g.run w pre) (c :: post) n p ∧ p.url = q.url
      else
        ((g.run w pre).slot n).uri = none ∨ ((g.run w pre).slot n).uri = some (.text q.url) := by
  cases forced : g.settings.alwaysSave with
  | true =>
    rw [if_pos rfl]
    exact location_of_forced fresh forced challenged arrives
  | false =>
    rw [if_neg Bool.false_ne_true]
    exact location_of_unforced fresh forced challenged arrives

/-- After its first login in a small world the browser goes to the page that it asked for. -/
theorem location_of_smallLogin :
    let g := smallGate true
    let w := smallWorld none
    let page := smallRequest "/page" "" none
    let asked := Event.call (.validate true) page .fresh
    let back := Event.call (.validate true)
      (smallRequest "/j_security_check" "code=abc&state=token" (some "first")) .fresh
    w.Fresh ∧ Challenged g (g.run w []) asked 0 page ∧
      Arrives g (g.run w ([] ++ asked :: [])) back 0 (.text "http://app/page") ∧
      (Attribute.text "http://app/page" = .text page.url ↔
        if g.settings.alwaysSave then
          ∃ p, LastSaved g (g.run w []) (asked :: []) 0 p ∧ p.url = page.url
        else ((g.run w []).slot 0).uri = none ∨
          ((g.run w []).slot 0).uri = some (.text page.url)) := by
  intro g w page asked back
  have challenged : Challenged g (g.run w []) asked 0 page :=
    ⟨⟨true, .fresh, rfl, by decide +kernel⟩, by decide +kernel⟩
  have arrives : Arrives g (g.run w ([] ++ asked :: [])) back 0 (.text "http://app/page") :=
    ⟨true, _, .fresh, smallResult, some 303, rfl, by decide +kernel, by decide +kernel,
      by decide +kernel⟩
  exact ⟨smallWorld_fresh none, challenged, arrives,
    location_eq_iff (smallWorld_fresh none) challenged arrives⟩

/-- A login, a logout, and a challenge for another page in the session of the login. -/
def secondFlow : List Event :=
  [.call (.validate true) (smallRequest "/first" "" none) .fresh,
    .call (.validate true) (smallRequest "/j_security_check" "code=abc&state=token" (some "first"))
      .fresh,
    .call .logout (smallRequest "/first" "" (some "second")) .fresh]

/-- A page that was asked for before an earlier login, and never since, is gone to after the next
login, although another page was asked for. -/
theorem location_of_earlier_flow :
    let g := smallGate true
    let w := smallWorld none
    ¬ ∀ (pre post : List Event) (c d : Event) (n : Serial) (q : Submission) (location : Attribute),
      (∀ before e between p, pre = before ++ e :: between →
        ¬ Challenged g (g.run w before) e n p) →
      Challenged g (g.run w pre) c n q → Arrives g (g.run w (pre ++ c :: post)) d n location →
      location = .text q.url := by
  intro g w claim
  let page := smallRequest "/second" "" (some "second")
  let asked := Event.call (.validate true) page .fresh
  let back := Event.call (.validate true)
    (smallRequest "/j_security_check" "code=abc&state=token" (some "second")) .fresh
  have first : ∀ before e between p, secondFlow = before ++ e :: between →
      ¬ Challenged g (g.run w before) e 1 p := by
    intro before e between p split challenged
    obtain ⟨mandatory, channel, rfl, done⟩ := challenged.call
    have own := challenged.session
    -- The first event is in another session, the second a callback, and the third no decision.
    rcases before with _ | ⟨_, _ | ⟨_, _ | ⟨_, before⟩⟩⟩
    · cases split
      exact absurd own (by decide +kernel)
    · cases split
      exact absurd done (by decide +kernel)
    · cases split
    · have long := congrArg List.length split
      simp only [secondFlow, List.length_append, List.length_cons, List.length_nil] at long
      omega
  have challenged : Challenged g (g.run w secondFlow) asked 1 page :=
    ⟨⟨true, .fresh, rfl, by decide +kernel⟩, by decide +kernel⟩
  have arrives :
      Arrives g (g.run w (secondFlow ++ asked :: [])) back 1 (.text "http://app/first") :=
    ⟨true, _, .fresh, smallResult, some 303, rfl, by decide +kernel, by decide +kernel,
      by decide +kernel⟩
  have goes := claim secondFlow [] asked back 1 page _ first challenged arrives
  revert goes
  decide +kernel

end Gate
end LoginGate
