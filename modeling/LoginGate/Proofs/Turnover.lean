/-
# What an event does to the leases

An event looks for the session that its request names, and may issue one after that.  `Handles`
lists what this makes of the pools; the sessions themselves, which an event may change besides, are
left open.

| constructor | the pools are those after |
| --- | --- |
| `kept` | nothing |
| `sought` | looking for a session |
| `created` | a challenge that starts a session |
| `refused` | a callback whose session could not be issued again |
| `renewed` | a callback that signs in |
-/

import LoginGate.Proofs.Pools
import LoginGate.Proofs.Origin

namespace LoginGate

/-- The stores have the same pools and the same ids to come. -/
structure SessionStore.Alike (s t : SessionStore) : Prop where
  pool : ∀ name, t.pool name = s.pool name
  ids : t.ids = s.ids

namespace SessionStore.Alike

variable {s t u : SessionStore} {n : Serial}

/-- A store has its own pools and ids to come. -/
theorem refl (s : SessionStore) : s.Alike s :=
  ⟨fun _ => rfl, rfl⟩

/-- Stores alike one after the other are alike. -/
theorem trans (h : s.Alike t) (h' : t.Alike u) : s.Alike u :=
  ⟨fun name => (h'.pool name).trans (h.pool name), h'.ids.trans h.ids⟩

/-- Changing a session leaves the pools. -/
theorem modify (f : Session → Session) (s : SessionStore) (n : Serial) : s.Alike (s.modify n f) :=
  ⟨fun name => by cases name <;> rfl, rfl⟩

end SessionStore.Alike

namespace Gate

open Step (Ends Finds)

variable {g : Gate} {v u : Visit} {w : World} {c : Event} {mandatory : Bool} {n : Serial}
  {session : Option Serial} {r : Except Fault Outcome} {e : Errand} {q : Submission}
  {channel : Channel}

/-- The pools after an event are those of a store. -/
inductive Handles (g : Gate) (w : World) (c : Event) : SessionStore → Prop
  | kept : Handles g w c w.store
  | sought {e : Errand} {q : Submission} {channel : Channel} {id : String}
      (call : c = .call e q channel) (named : q.sessionId = some id) :
      Handles g w c (w.store.get w.now id).2
  | created {mandatory : Bool} {q : Submission} {channel : Channel}
      (call : c = .call (.validate mandatory) q channel) (other : isCallback q.uri = false)
      (nobody : w.live? q = none) : Handles g w c (w.store.create w.now).store
  | refused {mandatory : Bool} {q : Submission} {channel : Channel} {id : String} {n : Serial}
      {fault : CapacityFault} (call : c = .call (.validate mandatory) q channel)
      (named : q.sessionId = some id)
      (result : ((w.store.get w.now id).2.renew w.now n).result = .error fault) :
      Handles g w c ((w.store.get w.now id).2.renew w.now n).store
  | renewed {x : SignIn} (signsIn : SignsIn g w c x) :
      Handles g w c ((w.store.get w.now x.oldId).2.renew w.now x.session).store

/-- The pools that an event leaves in a store are those of one that it handles. -/
def HandlesTo (g : Gate) (w : World) (c : Event) (t : SessionStore) : Prop :=
  ∃ s, Handles g w c s ∧ s.Alike t

/-- An event may leave the pools as they are. -/
theorem HandlesTo.kept : HandlesTo g w c w.store :=
  ⟨_, .kept, .refl _⟩

/-- What is done to the sessions besides leaves what an event makes of the pools. -/
theorem HandlesTo.trans {s t : SessionStore} (h : HandlesTo g w c s) (same : s.Alike t) :
    HandlesTo g w c t := by
  obtain ⟨s', handles, same'⟩ := h
  exact ⟨s', handles, same'.trans same⟩

/-! ## Parts of a decision that leave the pools -/

/-- Changing a session touches no pool. -/
theorem changed_alike (n : Serial) (f : Session → Session) (v : Visit) :
    v.world.store.Alike (changed n f v).world.store :=
  .modify f v.world.store n

/-- Putting a saved request back touches no pool. -/
theorem replayed_alike (n : Serial) (v : Visit) :
    v.world.store.Alike (replayed n v).world.store := by
  unfold replayed
  split
  · exact .refl _
  · exact changed_alike n _ v

/-- Dropping a login touches no pool: the session stays live. -/
theorem Unheld.alike (h : Unheld g v session u) : v.world.store.Alike u.world.store := by
  cases h with
  | nobody => exact .refl _
  | empty => exact .refl _
  | revoked => exact changed_alike _ _ v

/-- A challenge in a session touches no pool. -/
theorem Challenges.alike (h : Challenges g n v r u) : v.world.store.Alike u.world.store := by
  cases h with
  | unsaved => exact changed_alike n _ v
  | saved _ left issue sends =>
    subst left issue
    rw [sends.world_eq]
    exact (changed_alike n _ v).trans (.modify _ _ n)

/-! ## Parts that issue a session -/

/-- A login that comes to nothing leaves the pools, or those that refused to issue the session. -/
theorem LogsIn.alike {x : Credentials} {o : Except Fault (Option (AuthResult × Serial))}
    (h : LogsIn g x n v o u) (nobody : ∀ y, o ≠ .ok (some y)) :
    v.world.store.Alike u.world.store ∨
      (∃ fault, (v.world.store.renew v.world.now n).result = .error fault) ∧
        (v.world.store.renew v.world.now n).store.Alike u.world.store := by
  cases h with
  | broken => exact .inl (.refl _)
  | refused => exact .inl (.refl _)
  | untimed => exact .inl (.refl _)
  | unissued _ _ issue => exact .inr ⟨⟨_, issue⟩, .refl _⟩
  | renewed => exact absurd rfl (nobody _)

/-- A login that comes to an end leaves the pools after a renewal. -/
theorem LogsIn.alike_of_ok {x : Credentials} {y : AuthResult × Serial}
    (h : LogsIn g x n v (.ok (some y)) u) :
    (v.world.store.renew v.world.now n).store.Alike u.world.store := by
  cases h with
  | renewed => exact .modify _ _ _

/-- What finding the session of a request does to the pools. -/
theorem finds_handles {found : Except Fault (Option Serial)}
    (request : v.request = q) (call : c = .call e q channel) (h : Finds v found u) :
    HandlesTo g v.world c u.world.store := by
  cases h with
  | nobody => exact .kept
  | @found id n s named _ h =>
    have sought := Handles.sought (g := g) (w := v.world) call (request ▸ named)
    rw [h] at sought
    exact ⟨_, sought, .refl _⟩
  | @broken id fault s named h =>
    have sought := Handles.sought (g := g) (w := v.world) call (request ▸ named)
    rw [h] at sought
    exact ⟨_, sought, .refl _⟩

/-- Redeeming a code has looked for its session, and renews it where the login came to somebody. -/
theorem Redeems.handles {id code : String} {s : SessionStore}
    (request : v.request = q)
    (call : c = .call (.validate mandatory) q channel)
    (left : (g.after v.world c).store = u.world.store)
    (callback : isCallback v.request.uri = true) (named : v.request.sessionId = some id)
    (found : v.world.store.get v.world.now id = (.ok (some n), s))
    (given : v.request.parameter "code" = some code)
    (state : Csrf.accepts? (v.session n) (v.request.parameter "state") = some true)
    (h : Redeems g code n (v.withStore s) r u) : HandlesTo g v.world c u.world.store := by
  have store : (v.world.store.get v.world.now id).2 = s := by rw [found]
  have sought : Handles g v.world c s := store ▸ .sought call (request ▸ named)
  have refused : ∀ fault, (s.renew v.world.now n).result = .error fault →
      Handles g v.world c (s.renew v.world.now n).store := by
    rw [← store]
    exact fun fault result => .refused call (request ▸ named) result
  have nobody : ∀ {x : Credentials} {o : Except Fault (Option (AuthResult × Serial))} {y : Visit},
      LogsIn g x n (v.withStore s) o y → (∀ z, o ≠ .ok (some z)) →
      HandlesTo g v.world c y.world.store := by
    intro x o y login none
    obtain same | ⟨⟨fault, result⟩, same⟩ := login.alike none
    · exact ⟨_, sought, same⟩
    · exact ⟨_, refused fault result, same⟩
  cases h with
  | broken login => exact nobody login (by simp)
  | refused login ends =>
    rw [ends.world_eq]
    exact nobody login (by simp)
  | @redeemed result m y _ _ login ends =>
    have same := login.alike_of_ok
    obtain ⟨x, signsIn, rfl, rfl, rfl, new, sessions, -⟩ :=
      signsIn_of_redeemed callback named found given state login
    obtain rfl : x.oldId = id := Option.some.inj (signsIn.named.symm.trans named)
    have last := SessionStore.modify_last sessions SavedRequest.arrive
    have issued : (g.after v.world c).store.session? x.next =
        some (SavedRequest.arrive (((v.session x.session).withId x.newId).cache x.result)) := by
      rw [left, ends.world_eq, SessionStore.session?, new]
      exact (congrArg (·[v.world.store.sessions.length]?) last).trans List.getElem?_concat_length
    subst call
    have renewed := Handles.renewed (signsIn_of_leaves (request ▸ signsIn) issued rfl rfl)
    rw [store] at renewed
    rw [ends.world_eq]
    exact ⟨_, renewed, same.trans (.modify _ _ _)⟩

/-- A callback has looked for its session, and may renew it. -/
theorem Answers.handles (request : v.request = q)
    (call : c = .call (.validate mandatory) q channel)
    (left : (g.after v.world c).store = u.world.store) {w' : Visit}
    (callback : isCallback v.request.uri = true) (finds : Finds v (.ok session) w')
    (h : Answers g w' session r u) : HandlesTo g v.world c u.world.store := by
  have found := finds_handles (g := g) request call finds
  cases h with
  | noCode _ ends => rwa [ends.world_eq]
  | noSession _ ends => rwa [ends.world_eq]
  | unreadable => exact found
  | wrongState _ _ ends => rwa [ends.world_eq]
  | redeemed given state redeems =>
    rw [finds_session finds] at state
    cases finds with
    | found named _ looked =>
      exact redeems.handles request call left callback named looked given state

/-- A request for a page has looked for its session, and may start one. -/
theorem Protects.handles (request : v.request = q) (call : c = .call e q channel)
    (own : v.channel.isDeferred = false → e = .validate mandatory) {w' : Visit}
    (other : isCallback v.request.uri = false) (finds : Finds v (.ok session) w')
    (h : Protects g w' session r u) : HandlesTo g v.world c u.world.store := by
  have live := live?_of_finds finds
  have found := finds_handles (g := g) request call finds
  cases h with
  | held => exact found.trans (replayed_alike _ w')
  | unreadable => exact found
  | passed unheld => exact found.trans unheld.alike
  | challenged unheld _ challenges => exact found.trans (unheld.alike.trans challenges.alike)
  | unissued sendable =>
    cases finds with
    | nobody =>
      rw [own sendable] at call
      exact ⟨_, .created call (request ▸ other) (request ▸ live), .refl _⟩
  | started sendable _ _ left challenges =>
    subst left
    cases finds with
    | nobody =>
      rw [own sendable] at call
      exact ⟨_, .created call (request ▸ other) (request ▸ live), challenges.alike⟩

/-- A decision of a request that can be answered, or is the callback, is one of a call that may
answer. -/
theorem Decides.handles (request : v.request = q) (call : c = .call e q channel)
    (left : (g.after v.world c).store = u.world.store)
    (own : v.channel.isDeferred = false ∨ isCallback v.request.uri = true → e = .validate mandatory)
    (h : Decides g mandatory v r u) : HandlesTo g v.world c u.world.store := by
  cases h with
  | deferred => exact .kept
  | urlSession _ _ ends =>
    rw [ends.world_eq]
    exact .kept
  | unfound _ _ finds => exact finds_handles request call finds
  | callback callback _ finds answers =>
    rw [own (.inr callback)] at call
    exact answers.handles request call left callback finds
  | protect _ other _ finds protects =>
    exact protects.handles request call (fun sendable => own (.inl sendable)) other finds

/-- **A call touches the pools in one of the ways listed.** -/
theorem Visits.handles {o : Except Fault (Option Outcome)}
    (request : v.request = q) (call : c = .call e q channel)
    (left : (g.after v.world c).store = u.world.store)
    (h : Visits g v e o u) : HandlesTo g v.world c u.world.store := by
  cases h with
  | prepare h =>
    cases h with
    | unfound finds => exact finds_handles request call finds
    | found finds =>
      have found := finds_handles (g := g) request call finds
      exact found
  | validate h => exact h.handles request call left fun _ => rfl
  | resolve h =>
    cases h with
    | callback => exact .kept
    | @decided r w' other decides =>
      have left : (g.after v.world c).store = w'.world.store := left
      have silent : Channel.deferred.isDeferred = false ∨ isCallback v.request.uri = true →
          Errand.resolve = .validate true := by simp [Channel.isDeferred, other]
      have decided :=
        Decides.handles (v := { v with channel := .deferred }) request call left silent decides
      exact decided
  | logout h =>
    cases h with
    | unfound finds => exact finds_handles request call finds
    | nobody finds => exact finds_handles request call finds
    | forgotten finds => exact (finds_handles request call finds).trans (changed_alike _ _ _)

/-- **The pools after an event** are those that one of the listed ways leaves. -/
theorem handlesTo_after (g : Gate) (w : World) (c : Event) :
    HandlesTo g w c (g.after w c).store := by
  cases c with
  | call e q channel => exact (visit_visits g w e q channel).handles rfl rfl rfl
  | tick => exact .kept
  | wall => exact .kept
  | add => exact .kept
  | revoke => exact .kept

/-- What every operation on a pool keeps every event keeps. -/
theorem pools_after {P : Pool → Prop} (stable : Pool.Stable P w.now)
    (h : ∀ b, P (w.store.pool b)) (c : Event) (b : PoolName) :
    P ((g.after w c).store.pool b) := by
  obtain ⟨s, handles, same⟩ := handlesTo_after g w c
  rw [same.pool b]
  have sought := fun id => SessionStore.get_of_stable stable h id
  cases handles with
  | kept => exact h b
  | sought => exact sought _ b
  | created => exact (w.store.create_issuing w.now).of_stable stable h b
  | refused => exact SessionStore.renew_of_stable stable (sought _) _ b
  | renewed => exact SessionStore.renew_of_stable stable (sought _) _ b

end Gate
end LoginGate
