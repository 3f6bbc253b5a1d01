/-
# Session ids in the address

A session id is trusted only if it came in a cookie.  With an id that stands in the address nobody
is let in, and no attribute of a session changes, but for one call that does not ask where its id
came from: a logout drops the login of the session.

| call | what it does with an id from the address |
| --- | --- |
| `prepare` | looks the session up and reads it |
| `validate` | decides by the address, or refuses before the session is looked up |
| `resolve` | the same |
| `logout` | looks the session up and drops its login |
-/

import LoginGate.Proofs.Effects

namespace LoginGate

/-- Some part of a login is cached in the session. -/
def Session.HoldsLogin (a : Session) : Prop :=
  a.authenticated ≠ none ∨ a.claims ≠ none ∨ a.response ≠ none

/-- Forgetting a login changes the sessions that hold one. -/
theorem Session.forget_ne_iff (a : Session) : a.forget ≠ a ↔ a.HoldsLogin := by
  rw [HoldsLogin, ← not_iff_not, not_not]
  constructor
  · intro same
    have none : a.authenticated = none ∧ a.claims = none ∧ a.response = none := by
      rw [← same]
      exact ⟨rfl, rfl, rfl⟩
    simp [none]
  · simp only [not_or, not_not]
    rintro ⟨authenticated, claims, response⟩
    cases a
    simp_all [forget]

/-- Changing a session leaves the sessions as they are only if it leaves the one as it is. -/
theorem SessionStore.modify_eq_iff {s : SessionStore} {n : Serial} {f : Session → Session} :
    (s.modify n f).sessions = s.sessions ↔ ∀ a, s.session? n = some a → f a = a := by
  constructor
  · intro same a ha
    have after := session?_modify_self (f := f) ha
    rw [session?_of_sessions same, ha] at after
    exact (Option.some.inj after).symm
  · intro same
    refine List.ext_getElem? fun m => ?_
    change (s.modify n f).session? m = s.session? m
    cases hm : (s.modify n f).session? m with
    | none =>
      have past := List.getElem?_eq_none_iff.1 hm
      rw [modify, List.length_modify] at past
      exact (List.getElem?_eq_none_iff.2 past).symm
    | some b =>
      obtain ⟨old, -⟩ | ⟨rfl, a, ha, rfl⟩ := of_session?_modify hm
      · exact old.symm
      · rw [ha, same a ha]

namespace Gate

open Step (Finds)

variable {g : Gate} {w : World} {e : Errand} {q : Request} {channel : Channel} {n : Serial}
  {v u : Visit}

/-- A logout finds the live session `n`, and a login is cached there. -/
structure DropsLogin (w : World) (e : Errand) (q : Request) (n : Serial) : Prop where
  call : e = .logout
  found : ∃ id, q.sessionId = some id ∧ id ≠ "" ∧ (w.store.get w.now id).1 = .ok (some n)
  held : ∃ a, w.store.session? n = some a ∧ a.HoldsLogin

/-- Looking for the session of a request leaves what the sessions hold. -/
theorem sessions_of_finds {x : Except Fault (Option Serial)} (h : Finds v x u) :
    u.world.store.sessions = v.world.store.sessions := by
  obtain ⟨s, rfl, same, -⟩ := h.exists_store
  exact same

/-- The session that a request names is found in one way. -/
theorem eq_of_finds {x : Except Fault (Option Serial)} (h : Finds v x u)
    (found : ∃ id, v.request.sessionId = some id ∧ id ≠ "" ∧
      (v.world.store.get v.world.now id).1 = .ok (some n)) : x = .ok (some n) := by
  obtain ⟨id, named, given, found⟩ := found
  cases h with
  | nobody none =>
    have gone := (none id named).resolve_left given
    exact absurd (found.symm.trans gone) nofun
  | found named' _ found' =>
    cases named.symm.trans named'
    rw [found'] at found
    rw [Except.ok.inj found]
  | broken named' found' =>
    cases named.symm.trans named'
    rw [found'] at found
    cases found

/-- A logout that finds a session forgets the login there. -/
theorem LogsOut.sessions_eq {r : Except Fault Unit} (h : LogsOut v r u)
    (found : ∃ id, v.request.sessionId = some id ∧ id ≠ "" ∧
      (v.world.store.get v.world.now id).1 = .ok (some n)) :
    u.world.store.sessions = (v.world.store.modify n Session.forget).sessions := by
  cases h with
  | unfound finds => cases eq_of_finds finds found
  | nobody finds => cases eq_of_finds finds found
  | @forgotten m u finds =>
    obtain rfl := Option.some.inj (Except.ok.inj (eq_of_finds finds found))
    change u.world.store.sessions.modify m Session.forget = _
    rw [sessions_of_finds finds]
    rfl

/-- A logout that finds no session with a login leaves what the sessions hold. -/
theorem LogsOut.sessions_kept {r : Except Fault Unit} (h : LogsOut v r u)
    (nowhere : ∀ n, ¬ DropsLogin v.world .logout v.request n) :
    u.world.store.sessions = v.world.store.sessions := by
  cases h with
  | unfound finds => exact sessions_of_finds finds
  | nobody finds => exact sessions_of_finds finds
  | @forgotten n u finds =>
    refine Eq.trans ?_ (sessions_of_finds finds)
    change u.world.store.sessions.modify n Session.forget = u.world.store.sessions
    refine SessionStore.modify_eq_iff.2 fun a ha => ?_
    by_contra changes
    refine nowhere n ⟨rfl, ?_, a, finds_session? finds n ▸ ha, a.forget_ne_iff.1 changes⟩
    cases finds with
    | found named given found => exact ⟨_, named, given, congrArg Prod.fst found⟩

/-- A decision lets nobody in and leaves what the sessions hold. -/
structure Harmless (v : Visit) (r : Except Fault Outcome) (u : Visit) : Prop where
  sessions : u.world.store.sessions = v.world.store.sessions
  nobody : ∀ o, r = .ok o → o.isAuthenticated = false

/-- A decision on a request with a session id from the address is harmless. -/
theorem Decides.harmless {mandatory : Bool} {r : Except Fault Outcome}
    (url : v.request.sessionFromUrl = true) (h : Decides g mandatory v r u) :
    Harmless v r u := by
  cases h with
  | deferred => exact ⟨rfl, fun o done => Except.ok.inj done ▸ rfl⟩
  | urlSession _ _ ends =>
    refine ⟨congrArg (fun w => w.store.sessions) ends.world_eq, fun o done => ?_⟩
    obtain refused | ⟨fault, broken⟩ := ends.result
    · exact Except.ok.inj (done.symm.trans refused) ▸ rfl
    · exact absurd (done.symm.trans broken) nofun
  | unfound _ cookie => exact absurd (url.symm.trans cookie) nofun
  | callback _ cookie => exact absurd (url.symm.trans cookie) nofun
  | protect _ _ cookie => exact absurd (url.symm.trans cookie) nofun

/-- A resolution whose session id stands in the address does no harm. -/
theorem Resolves.harmless {r : Except Fault Outcome} (url : v.request.sessionFromUrl = true)
    (h : Resolves g v r u) : Harmless v r u := by
  cases h with
  | callback => exact ⟨rfl, fun o done => Except.ok.inj done ▸ rfl⟩
  | @decided r w other decides =>
    have harmless := Decides.harmless (v := { v with channel := .deferred }) url decides
    refine ⟨harmless.sessions, fun o done => ?_⟩
    cases r with
    | error => cases done
    | ok p =>
      obtain rfl := Except.ok.inj done
      rw [unsent, harmless.nobody p rfl]
      rfl

/-- What a harmless decision answers is no login. -/
theorem Harmless.not_authenticated {r : Except Fault Outcome} {o : Outcome} (h : Harmless v r u)
    (done : r.map some = .ok (some o)) : o.isAuthenticated = false := by
  cases r with
  | error => cases done
  | ok p => exact h.nobody o (congrArg Except.ok (Option.some.inj (Except.ok.inj done)))

/-- **A session id from the address lets nobody in,** in any state of the gate, by any call.  It
changes what a session holds in one case alone: a logout finds a session in which a login is cached,
and drops the login. -/
theorem url_session_harmless_iff (g : Gate) (w : World) (e : Errand) {q : Request}
    (url : q.sessionFromUrl = true) (channel : Channel) :
    (∀ o, (g.visit w e q channel).1 = .ok (some o) → o.isAuthenticated = false) ∧
      ((g.visit w e q channel).2.world.store.sessions = w.store.sessions ↔
        ∀ n, ¬ DropsLogin w e q n) ∧
      ∀ n, DropsLogin w e q n → (g.visit w e q channel).2.world.store.sessions =
        (w.store.modify n Session.forget).sessions := by
  have visits := visit_visits g w e q channel
  generalize (g.visit w e q channel).1 = r at visits ⊢
  generalize (g.visit w e q channel).2 = u at visits ⊢
  -- No other call than a logout drops a login.
  have other : e ≠ .logout → u.world.store.sessions = w.store.sessions →
      (u.world.store.sessions = w.store.sessions ↔ ∀ n, ¬ DropsLogin w e q n) ∧
        ∀ n, DropsLogin w e q n →
          u.world.store.sessions = (w.store.modify n Session.forget).sessions := fun stays same =>
    ⟨⟨fun _ n drops => stays drops.call, fun _ => same⟩, fun n drops => absurd drops.call stays⟩
  cases visits with
  | prepare h =>
    cases h with
    | unfound finds => exact ⟨nofun, other nofun (sessions_of_finds finds)⟩
    | found finds => exact ⟨nofun, other nofun (sessions_of_finds finds)⟩
  | validate h =>
    have harmless := h.harmless url
    exact ⟨fun o done => harmless.not_authenticated done, other nofun harmless.sessions⟩
  | resolve h =>
    have harmless := h.harmless url
    exact ⟨fun o done => harmless.not_authenticated done, other nofun harmless.sessions⟩
  | @logout r _ h =>
    have drops : ∀ n, DropsLogin w .logout q n →
        u.world.store.sessions = (w.store.modify n Session.forget).sessions := fun n drops =>
      h.sessions_eq drops.found
    refine ⟨?_, ⟨fun same n drop => ?_, h.sessions_kept⟩, drops⟩
    · intro o done
      cases r <;> cases done
    · obtain ⟨a, ha, held⟩ := drop.held
      have stays := SessionStore.modify_eq_iff.1 ((drops n drop).symm.trans same)
      exact a.forget_ne_iff.2 held (stays a ha)

/-- The request of a visitor who gives a session id in the address. -/
def addressed (sessionId : Option String) : Request :=
  { smallRequest "/page" "" sessionId with sessionFromUrl := true }

/-- With the id of a login in the address nobody is let in, and the login stays in its session. -/
theorem url_session_refused_small :
    let g := smallGate true
    let w := g.run (smallWorld none) smallLogin
    let q := addressed (some "second")
    q.sessionFromUrl = true ∧
      (g.visit w (.validate true) q .fresh).1 = .ok (some (.failed "session_id_from_url")) ∧
      (g.visit w (.validate true) q .fresh).2.world.store.sessions = w.store.sessions := by
  intro g w q
  have harmless := url_session_harmless_iff g w (.validate true) (q := q) rfl .fresh
  exact ⟨rfl, by decide +kernel, harmless.2.1.2 fun n drops => absurd drops.call nofun⟩

/-- A logout with the id of a login in the address drops the login. -/
theorem url_session_logs_out :
    ¬ ∀ (g : Gate) (w : World) (es : List Event) (e : Errand) (q : Request) (channel : Channel),
      w.Fresh → q.sessionFromUrl = true →
      (g.visit (g.run w es) e q channel).2.world.store.sessions =
        (g.run w es).store.sessions := by
  intro claim
  exact absurd (claim (smallGate true) (smallWorld none) smallLogin .logout
    (addressed (some "second")) .fresh (smallWorld_fresh none) rfl) (by decide +kernel)

end Gate
end LoginGate
