/-
# Where a login comes from

A session that holds a login was issued by a callback that signed in, and the token that this
callback had to bring was put by a challenge into its session, or into a session that was renewed
into it.  `History` says so of all sessions after a run, and every event keeps it.

| relation | says |
| --- | --- |
| `SignsIn` | the event is a callback that signs in, and the session it issues holds the login |
| `PutsToken` | the event is a challenge that gives a session its token |
| `Carries` | in a run the token was put into the session, or into one renewed into it |
-/

import LoginGate.Proofs.Persistence
import Mathlib.Data.List.Induction

namespace LoginGate

/-- The session of a serial has a token. -/
def World.HasToken (w : World) (n : Serial) (token : String) : Prop :=
  (w.store.session? n).bind Csrf.token? = some (.text token)

namespace Gate

/-- An event is a callback that signs in, and the session that it issues holds the login. -/
structure SignsIn (g : Gate) (w : World) (c : Event) (x : SignIn) : Prop where
  call : ∃ mandatory q channel, c = .call (.validate mandatory) q channel ∧ x.At g w q
  issued : (g.after w c).store.issuedIds[x.next]? = some x.newId
  holds : (g.after w c).Holds x.next x.result

/-- An event is a challenge, sent or broken off while it was sent, that gives a session its
token. -/
structure PutsToken (g : Gate) (w : World) (c : Event) (n : Serial) (token : String) : Prop where
  call : ∃ mandatory q channel, c = .call (.validate mandatory) q channel ∧
    Challenging (.validate mandatory) q channel (g.visit w (.validate mandatory) q channel).1
  before : (w.store.session? n).bind Csrf.token? = none
  after : (g.after w c).HasToken n token

/-- In a run from a world a challenge put a token into a session, or into one that was renewed into
it after that. -/
inductive Carries (g : Gate) (w : World) : List Event → Serial → String → Prop
  | put {pre post : List Event} {c : Event} {n : Serial} {token : String}
      (puts : PutsToken g (g.run w pre) c n token) : Carries g w (pre ++ c :: post) n token
  | renewed {pre post : List Event} {c : Event} {x : SignIn} {token : String}
      (signsIn : SignsIn g (g.run w pre) c x) (earlier : Carries g w pre x.session token) :
      Carries g w (pre ++ c :: post) x.next token

/-- Every login that a session holds after a run goes back to a callback, and every token to a
challenge. -/
structure History (g : Gate) (w : World) (es : List Event) : Prop where
  login : ∀ n result, (g.run w es).Holds n result →
    ∃ pre c post x, es = pre ++ c :: post ∧ SignsIn g (g.run w pre) c x ∧
      Carries g w pre x.session x.token ∧ x.next = n ∧ x.result = result
  token : ∀ n token, (g.run w es).HasToken n token → Carries g w es n token

variable {g : Gate} {w : World} {e : Errand} {q : Submission} {channel : Channel}
  {n m : Serial} {result : AuthResult} {es : List Event} {token : String}

/-- A token that a session carries is carried when the run goes on. -/
theorem Carries.append (h : Carries g w es n token) (fs : List Event) :
    Carries g w (es ++ fs) n token := by
  cases h with
  | put puts =>
    rw [List.append_assoc, List.cons_append]
    exact .put puts
  | renewed signsIn earlier =>
    rw [List.append_assoc, List.cons_append]
    exact .renewed signsIn earlier

/-- A session that has a token is given no other one. -/
theorem ensure_of_token {tokens : Supply} {s : Session} {a : Attribute}
    (h : Csrf.token? s = some a) : (Csrf.ensure tokens s).session = s := by
  rw [Csrf.ensure, h]

/-- A token that is in a session after a call was there before it, or the call is a challenge that
put it there, or a callback that signed in and took it over. -/
theorem Leaves.hasToken {r : Except Fault (Option Outcome)} {s : Session}
    (h : Leaves g w e q channel r m s) (held : Csrf.token? s = some (.text token)) :
    w.HasToken m token ∨
      (Challenging e q channel r ∧ (w.store.session? m).bind Csrf.token? = none) ∨
      ∃ x : SignIn, x.At g w q ∧ (∃ mandatory, e = .validate mandatory) ∧ m = x.next ∧
        w.HasToken x.session token ∧ s.authenticated = some (.result x.result) ∧
        s.id = x.newId := by
  cases h with
  | kept old => exact .inl (by rw [World.HasToken, old]; exact held)
  | forgotten old => exact .inl (by rw [World.HasToken, old]; exact held)
  | restored old => exact .inl (by rw [World.HasToken, old]; exact held)
  | @challenged a b after challenging old unheld save =>
    cases before : Csrf.token? a with
    | none => exact .inr (.inl ⟨challenging, by rw [old]; exact before⟩)
    | some t =>
      have same : Csrf.token? after = Csrf.token? a := by
        rw [Csrf.token?, (SavedRequest.save_keeps save).2.2]
        obtain ⟨rfl, -⟩ | rfl := unheld <;> rfl
      rw [ensure_of_token (same.trans before), same] at held
      exact .inl (by rw [World.HasToken, old]; exact held)
  | begun _ _ source =>
    obtain ⟨a, old, ⟨rfl, -⟩ | rfl⟩ | ⟨-, id, rfl⟩ := source
    · exact .inl (by rw [World.HasToken, old]; exact held)
    · exact .inl (by rw [World.HasToken, old]; exact held)
    · cases held
  | blank => cases held
  | opened challenging new save =>
    refine .inr (.inl ⟨challenging, ?_⟩)
    rw [SessionStore.session?, new, List.getElem?_length]
    rfl
  | @renewed a x signsIn call new next old =>
    exact .inr (.inr ⟨x, signsIn, call, next, by rw [World.HasToken, old]; exact held, rfl, rfl⟩)

/-- A session that a callback issued, with its login. -/
theorem signsIn_of_leaves {mandatory : Bool} {x : SignIn} {s : Session} (signsIn : x.At g w q)
    (hs : (g.visit w (.validate mandatory) q channel).2.world.store.session? x.next = some s)
    (held : s.authenticated = some (.result x.result)) (id : s.id = x.newId) :
    SignsIn g w (.call (.validate mandatory) q channel) x := by
  refine ⟨⟨mandatory, q, channel, rfl, signsIn⟩, ?_, s, hs, held⟩
  rw [SessionStore.issuedIds, List.getElem?_map]
  rw [SessionStore.session?] at hs
  rw [after, hs, ← id]
  rfl

/-- Before anything happened nobody is logged in, and there is no token. -/
theorem history_nil (fresh : w.Fresh) : History g w [] := by
  have none : ∀ n, w.store.session? n = none := by simp [SessionStore.session?, fresh.store_eq.1]
  refine ⟨fun n result h => ?_, fun n token h => ?_⟩
  · obtain ⟨s, hs, -⟩ := h
    cases (none n).symm.trans hs
  · rw [run_nil, World.HasToken, none] at h
    cases h

/-- One event more keeps the history of all sessions. -/
theorem History.concat (h : History g w es) (c : Event) : History g w (es ++ [c]) := by
  have split : es ++ [c] = es ++ c :: [] := rfl
  -- Whatever leaves the store alone adds nothing to a history but itself.
  have same (hc : (g.after (g.run w es) c).store = (g.run w es).store) :
      History g w (es ++ [c]) := by
    refine ⟨fun n result held => ?_, fun n token held => ?_⟩
    · rw [run_concat, World.Holds, hc] at held
      obtain ⟨pre, d, post, x, rfl, rest⟩ := h.login n result held
      exact ⟨pre, d, post ++ [c], x, by simp, rest⟩
    · rw [run_concat, World.HasToken, hc] at held
      exact (h.token n token held).append [c]
  cases c with
  | tick => exact same rfl
  | wall => exact same rfl
  | add => exact same rfl
  | revoke => exact same rfl
  | call e q channel =>
    refine ⟨fun n result held => ?_, fun n token held => ?_⟩
    · rw [run_concat] at held
      obtain ⟨s, hs, held⟩ := held
      obtain old | ⟨x, signsIn, ⟨mandatory, rfl⟩, rfl, -, rfl, id⟩ := (visit_leaves hs).login held
      · obtain ⟨pre, d, post, x, rfl, rest⟩ := h.login n result old
        exact ⟨pre, d, post ++ [.call e q channel], x, by simp, rest⟩
      · exact ⟨es, _, [], x, split, signsIn_of_leaves signsIn hs held id,
          h.token _ _ signsIn.token, rfl, rfl⟩
    · rw [run_concat, World.HasToken, Option.bind_eq_some_iff] at held
      obtain ⟨s, hs, held⟩ := held
      obtain old | ⟨challenging, before⟩ | ⟨x, signsIn, ⟨mandatory, rfl⟩, rfl, old, login, id⟩ :=
        (visit_leaves hs).hasToken held
      · exact (h.token n token old).append [.call e q channel]
      · obtain ⟨mandatory, rfl⟩ := challenging.call
        exact .put ⟨⟨mandatory, q, channel, rfl, challenging⟩, before,
          Option.bind_eq_some_iff.2 ⟨s, hs, held⟩⟩
      · exact .renewed (signsIn_of_leaves signsIn hs login id)
          (h.token x.session token old)

/-- **Every login and every token has a history,** after any run from an empty store. -/
theorem history_run (fresh : w.Fresh) (es : List Event) : History g w es := by
  induction es using List.reverseRecOn with
  | nil => exact history_nil fresh
  | append_singleton es c ih => exact ih.concat c

/-! ## Soundness -/

/-- Since a sign-in, which left the world `u`, its session held the login before and after every
event, and no logout of the session came to an end. -/
def Unbroken (g : Gate) (u : World) (x : SignIn) (since : List Event) : Prop :=
  ∀ mid rest, since = mid ++ rest → (g.run u mid).Holds x.next x.result ∧
    ∀ q channel more, rest = .call .logout q channel :: more → q.sessionId = some x.newId →
      (g.visit (g.run u mid) .logout q channel).1 ≠ .ok none

/-- Right after its sign-in a session holds the login. -/
theorem unbroken_nil {x : SignIn} (held : w.Holds x.next x.result) : Unbroken g w x [] := by
  intro mid rest split
  obtain ⟨rfl, rfl⟩ := List.append_eq_nil_iff.1 split.symm
  refine ⟨held, fun q channel more logout => ?_⟩
  cases logout

/-- A session that is live and holds its login at the end was never logged out on the way. -/
theorem unbroken_concat {x : SignIn} (named : w.store.Named) (steady : Steady w.now es)
    (nodup : (g.run w es).store.issuedIds.Nodup) (old : x.next < w.store.sessions.length)
    (given : x.newId ≠ "")
    (live : (g.run w es).store.find? (g.run w es).now x.newId = some x.next)
    (other : e ≠ .logout) (held : (g.run w (es ++ [.call e q channel])).Holds x.next x.result) :
    Unbroken g w x (es ++ [.call e q channel]) := by
  intro mid rest split
  have later : x.next < (g.run w mid).store.sessions.length := old.trans_le (run_length w mid)
  rw [split, run_append] at held
  refine ⟨holds_before_run later held, ?_⟩
  rintro q' channel' more rfl own done
  obtain rfl | ⟨more, c, rfl⟩ := List.eq_nil_or_concat more
  · obtain ⟨-, last⟩ := List.append_inj' split rfl
    exact other (Event.call.inj (List.cons.inj last).1).1
  · -- The logout came before the last call, and the session was live then too.
    rw [List.concat_eq_append, ← List.cons_append, ← List.append_assoc] at split
    obtain ⟨rfl, -⟩ := List.append_inj' split rfl
    rw [run_append] at live nodup
    have before := find?_before_run (named_run named mid) (steady_run steady) nodup later live
    have loses : (g.after (g.run w mid) (.call .logout q' channel')).Holds x.next x.result :=
      holds_before_run (later.trans_le (after_length ..)) held
    exact not_holds_of_logout done own given before loses

/-- **Nobody is found logged in without having signed in.**  Take any run from an empty store in
which no id is issued twice and the clock is never set back.  If its last call answers
`authenticated`, some call of the run is a callback that signed in: it came with a code and with the
token that a challenge before it had put into its session, or into one renewed into it; the code
logged in the identity that is answered; and the session was renewed to the id that the request
carries after the last call.  Since then the session held the login without a break, and no logout
of it came to an end. -/
theorem signsIn_of_authenticated {sent : Bool} (fresh : w.Fresh) (steady : Steady w.now es)
    (nodup : (g.run w (es ++ [.call e q channel])).store.issuedIds.Nodup)
    (h : (g.visit (g.run w es) e q channel).1 = .ok (some (.authenticated result sent))) :
    ∃ pre c post x, es ++ [.call e q channel] = pre ++ c :: post ∧
      SignsIn g (g.run w pre) c x ∧ Carries g w pre x.session x.token ∧ x.result = result ∧
      (g.visit (g.run w es) e q channel).2.request.sessionId = some x.newId ∧
      Unbroken g (g.after (g.run w pre) c) x post := by
  have history := history_run (g := g) fresh es
  have named := named_of_fresh fresh
  cases visit_grants h with
  | @signIn x signsIn call same carried issued holds =>
    obtain ⟨mandatory, rfl⟩ := call
    exact ⟨es, _, [], x, rfl, ⟨⟨mandatory, q, channel, rfl, signsIn⟩, issued, holds⟩,
      history.token _ _ signsIn.token, same, carried, unbroken_nil holds⟩
  | @held id n own given found holds valid same still =>
    obtain ⟨pre, c, post, x, rfl, signsIn, carries, rfl, rfl⟩ := history.login n result holds
    have split :
        pre ++ c :: post ++ [.call e q channel] = pre ++ c :: (post ++ [.call e q channel]) :=
      List.append_assoc ..
    have live := SessionStore.find?_of_get found
    have ids := (named_run (g := g) named (pre ++ c :: post)).of_find? live
    rw [run_append, run_cons] at live ids
    rw [split, run_append, run_cons] at nodup
    have issued := run_ids (g := g) (g.after (g.run w pre) c) post
    -- The session was found under the id that the callback issued: ids of sessions never change.
    obtain rfl : id = x.newId := by
      obtain ⟨more, hmore⟩ := issued
      have hlt := (List.getElem?_eq_some_iff.1 signsIn.issued).1
      rw [← hmore, List.getElem?_append_left hlt, signsIn.issued] at ids
      exact (Option.some.inj ids).symm
    have old : x.next < (g.after (g.run w pre) c).store.sessions.length := by
      rw [← SessionStore.length_issuedIds]
      exact (List.getElem?_eq_some_iff.1 signsIn.issued).1
    have other : e ≠ .logout := by
      obtain ⟨-, -, -, -, -, -, ⟨rfl, -⟩ | ⟨rfl, -⟩⟩ := decides_of_authenticated h <;> nofun
    refine ⟨pre, c, post ++ [.call e q channel], x, split, signsIn, carries, rfl, same, ?_⟩
    refine unbroken_concat (named_after (named_run named pre) c) ?_ ?_ old given live other ?_
    · exact steady_after (steady_run steady)
    · rw [run_append] at nodup
      exact (run_ids _ _).sublist.nodup nodup
    · rw [run_concat, ← run_cons, ← run_append]
      exact still

/-- The page that was asked for at first is answered after a login in a small world, and the login
goes back to the callback before it. -/
theorem signsIn_of_smallLogin :
    let g := smallGate true
    let w := smallWorld none
    let page := smallRequest "/page" "" (some "second")
    let final := Event.call (.validate true) page .fresh
    w.Fresh ∧ Steady w.now smallLogin ∧
      (g.run w (smallLogin ++ [final])).store.issuedIds.Nodup ∧
      (g.visit (g.run w smallLogin) (.validate true) page .fresh).1 =
        .ok (some (.authenticated smallResult false)) ∧
      ∃ pre c post x, smallLogin ++ [final] = pre ++ c :: post ∧ SignsIn g (g.run w pre) c x ∧
        Carries g w pre x.session x.token ∧ x.result = smallResult ∧
        (g.visit (g.run w smallLogin) (.validate true) page .fresh).2.request.sessionId =
          some x.newId ∧
        Unbroken g (g.after (g.run w pre) c) x post := by
  intro g w page final
  have steady : Steady w.now smallLogin := trivial
  have nodup : (g.run w (smallLogin ++ [final])).store.issuedIds.Nodup := by decide +kernel
  have answer : (g.visit (g.run w smallLogin) (.validate true) page .fresh).1 =
      .ok (some (.authenticated smallResult false)) := by decide +kernel
  exact ⟨smallWorld_fresh none, steady, nodup, answer,
    signsIn_of_authenticated (smallWorld_fresh none) steady nodup answer⟩

end Gate
end LoginGate
