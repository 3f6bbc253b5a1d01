/-
# What a call changes

A call changes nothing but the store, the tokens and the answers to come.  `World.Evolves` says what
stays, and it holds of every part of a decision, of a decision, and of a call.  `Visits` says how a
call ends, by the relation of its kind.

| stays | as it was |
| --- | --- |
| users, both clocks | the same |
| tokens | some may be drawn |
| sessions | the ids of those issued before |
| leases | each is new or goes back to one before |
-/

import LoginGate.Proofs.Run

namespace LoginGate

/-- The world after a step of a visit: the users, the clocks and the ids of the sessions issued
before are as they were, and tokens were only drawn. -/
structure World.Evolves (w u : World) : Prop where
  users : u.users = w.users
  now : u.now = w.now
  wall : u.wall = w.wall
  tokens : u.tokens.given <:+ w.tokens.given
  store : w.store.Evolves w.now u.store

namespace World.Evolves

variable {w u x : World}

/-- Nothing changed. -/
theorem refl (w : World) : w.Evolves w :=
  ⟨rfl, rfl, rfl, List.suffix_rfl, .refl w.now w.store⟩

/-- A world that is the same evolved from it. -/
theorem of_eq (h : u = w) : w.Evolves u :=
  h ▸ refl w

/-- A world evolves where its store does and the rest stays. -/
theorem of_store {s : SessionStore} (h : w.store.Evolves w.now s) :
    w.Evolves { w with store := s } :=
  ⟨rfl, rfl, rfl, List.suffix_rfl, h⟩

/-- Steps one after the other are a step. -/
theorem trans (h : w.Evolves u) (h' : u.Evolves x) : w.Evolves x :=
  ⟨h'.users.trans h.users, h'.now.trans h.now, h'.wall.trans h.wall, h'.tokens.trans h.tokens,
    h.store.trans (h.now ▸ h'.store)⟩

end World.Evolves

namespace Supply

/-- The tokens that are left after one was drawn are the last ones of those before. -/
theorem draw_given (s : Supply) : s.draw.2.given <:+ s.given := by
  unfold draw
  split
  · rename_i h
    exact h ▸ List.suffix_cons ..
  · exact List.suffix_rfl

end Supply

namespace Csrf

/-- Ensuring a token draws one or none. -/
theorem ensure_tokens (tokens : Supply) (s : Session) :
    (ensure tokens s).tokens.given <:+ tokens.given := by
  unfold ensure
  split
  · exact List.suffix_rfl
  · exact Supply.draw_given tokens

end Csrf

namespace Step

variable {v w : Visit} {f : Channel → Except ChannelFault Channel} {o : Outcome}
  {r : Except Fault Outcome} {found : Except Fault (Option Serial)}

/-- The end of a decision writes a record and a response, but changes nothing of the world. -/
theorem Ends.world_eq (h : Ends f o v r w) : w.world = v.world := by
  cases h <;> rfl

/-- A write to the channel ends with the outcome or with a fault. -/
theorem Ends.result (h : Ends f o v r w) : r = .ok o ∨ ∃ fault, r = .error fault := by
  cases h with
  | taken => exact .inl rfl
  | failed => exact .inr ⟨_, rfl⟩

/-- Looking for the session of a request changes leases alone. -/
theorem Finds.exists_store (h : Finds v found w) :
    ∃ s, w = v.withStore s ∧ s.sessions = v.world.store.sessions ∧
      v.world.store.Evolves v.world.now s := by
  cases h with
  | nobody => exact ⟨_, rfl, rfl, .refl ..⟩
  | @found id n s named given h =>
    have same := SessionStore.sessions_get v.world.store v.world.now id
    have evolves := SessionStore.get_evolves v.world.store v.world.now id
    rw [h] at same evolves
    exact ⟨s, rfl, same, evolves⟩
  | @broken id fault s named h =>
    have same := SessionStore.sessions_get v.world.store v.world.now id
    have evolves := SessionStore.get_evolves v.world.store v.world.now id
    rw [h] at same evolves
    exact ⟨s, rfl, same, evolves⟩

end Step
namespace SavedRequest

variable {always : Bool} {q : Request} {s after begun : Session}

/-- A request that is saved is written, or else the session takes none. -/
theorem save_cases (h : save always q s = .ok after) :
    (takes always s = true ∧ ∃ method, q.method.wide? = some method ∧ after = write q method s) ∨
      takes always s = false ∧ after = s := by
  unfold save at h
  cases taken : takes always s with
  | false =>
    rw [taken] at h
    exact .inr ⟨rfl, (Except.ok.inj h).symm⟩
  | true =>
    rw [taken, if_pos rfl] at h
    cases shown : q.method.wide? with
    | none =>
      rw [shown] at h
      cases h
    | some method =>
      rw [shown] at h
      exact .inl ⟨rfl, method, rfl, (Except.ok.inj h).symm⟩

/-- Saving a request writes nothing beside it. -/
theorem save_keeps (h : save always q s = .ok after) :
    after.id = s.id ∧ after.authenticated = s.authenticated ∧ after.csrfToken = s.csrfToken := by
  obtain ⟨-, method, -, rfl⟩ | ⟨-, rfl⟩ := save_cases h <;> exact ⟨rfl, rfl, rfl⟩

/-- Saving breaks off where the method is no text, and then the address is all that it wrote. -/
theorem save_eq_error (h : save always q s = .error begun) :
    q.method.wide? = none ∧ begun = { s with uri := some (.text q.url) } := by
  unfold save at h
  split at h
  · split at h
    · cases h
    · rename_i shape
      exact ⟨shape, (Except.error.inj h).symm⟩
  · cases h

end SavedRequest

/-- Making a token writes nothing beside it. -/
theorem Csrf.ensure_keeps (tokens : Supply) (s : Session) :
    (ensure tokens s).session.id = s.id ∧
      (ensure tokens s).session.authenticated = s.authenticated := by
  unfold ensure
  split <;> exact ⟨rfl, rfl⟩

/-- The session of a serial that was issued. -/
theorem Visit.session_of_session? {v : Visit} {n : Serial} {a : Session}
    (h : v.world.store.session? n = some a) : v.session n = a := by
  rw [Visit.session, h, Option.getD_some]

namespace Gate

open Step (Ends Finds)

variable {g : Gate} {v u w : Visit} {n : Serial} {session : Option Serial}
  {r : Except Fault Outcome}

/-! ## What evolves -/

/-- A session that is changed keeps its id, so the world evolves. -/
theorem changed_evolves {f : Session → Session}
    (h : ∀ a, v.world.store.session? n = some a → (f a).id = a.id) :
    v.world.Evolves (changed n f v).world :=
  .of_store (SessionStore.modify_evolves h)

/-- Redeeming a code uses up answers and leaves the store as it is. -/
theorem asked_evolves (a : LoginAttempt) (v : Visit) : v.world.Evolves (asked a v).world :=
  ⟨rfl, rfl, rfl, List.suffix_rfl, .refl ..⟩

/-- Putting a saved request back changes a session but not its id. -/
theorem replayed_evolves (n : Serial) (v : Visit) : v.world.Evolves (replayed n v).world := by
  unfold replayed
  split
  · exact .refl _
  · exact changed_evolves (v := v) fun _ _ => rfl

/-- A request without a login held changes nothing but the store and the tokens. -/
theorem Unheld.evolves (h : Unheld g v session u) : v.world.Evolves u.world := by
  cases h with
  | nobody => exact .refl _
  | empty => exact .refl _
  | revoked => exact changed_evolves (v := v) fun _ _ => rfl

/-- A redirect to the provider changes nothing of the world. -/
theorem Sends.world_eq {i : IssuedToken} (h : Sends g i v r w) : w.world = v.world := by
  cases h with
  | tokenless => rfl
  | unaddressed => rfl
  | sent _ _ ends => exact ends.world_eq

/-- A session that is given a token keeps its id. -/
theorem marked_evolves (n : Serial) (v : Visit) :
    v.world.Evolves (marked n (Csrf.ensure v.world.tokens (v.session n)) v).world := by
  refine ⟨rfl, rfl, rfl, Csrf.ensure_tokens .., SessionStore.modify_evolves fun a ha => ?_⟩
  rw [(Csrf.ensure_keeps ..).1, Visit.session_of_session? ha]

/-- A challenge changes nothing but the store and the tokens. -/
theorem Challenges.evolves (h : Challenges g n v r w) : v.world.Evolves w.world := by
  cases h with
  | unsaved save =>
    obtain ⟨-, rfl⟩ := SavedRequest.save_eq_error save
    refine changed_evolves fun a ha => ?_
    rw [Visit.session_of_session? ha]
  | saved save left issue sends =>
    subst left issue
    refine .trans (changed_evolves fun a ha => ?_)
      ((marked_evolves ..).trans (.of_eq sends.world_eq))
    rw [(SavedRequest.save_keeps save).1, Visit.session_of_session? ha]

/-- A decision on a request that is no callback changes nothing but the store and the tokens. -/
theorem Protects.evolves (h : Protects g v session r w) : v.world.Evolves w.world := by
  cases h with
  | held => exact replayed_evolves _ v
  | unreadable => exact .refl _
  | passed unheld => exact unheld.evolves
  | challenged unheld _ challenges => exact unheld.evolves.trans challenges.evolves
  | unissued => exact .of_store (SessionStore.create_evolves ..)
  | started _ _ _ left challenges =>
    subst left
    exact (World.Evolves.of_store (SessionStore.create_evolves ..)).trans challenges.evolves

/-- The world of a login that went on in a new session evolved, if the store did. -/
theorem renewed_evolves {i : Issue} {m : Serial} {result : AuthResult}
    (h : v.world.store.Evolves v.world.now i.store) :
    v.world.Evolves (renewed i m result v).world :=
  .of_store (h.trans (SessionStore.modify_evolves fun _ _ => rfl))

/-- A login changes nothing but the store and the answers to come. -/
theorem LogsIn.evolves {c : Credentials} {r : Except Fault (Option (AuthResult × Serial))}
    (h : LogsIn g c n v r w) : v.world.Evolves w.world := by
  cases h with
  | broken => exact asked_evolves ..
  | refused => exact asked_evolves ..
  | untimed => exact asked_evolves ..
  | unissued =>
    exact (asked_evolves ..).trans (.of_store (SessionStore.renew_evolves v.world.store ..))
  | renewed =>
    exact (asked_evolves ..).trans (renewed_evolves (SessionStore.renew_evolves v.world.store ..))

/-- Redeeming a code changes nothing but the store and the answers to come. -/
theorem Redeems.evolves {code : String} (h : Redeems g code n v r w) :
    v.world.Evolves w.world := by
  cases h with
  | broken login => exact login.evolves
  | refused login ends => exact login.evolves.trans (.of_eq ends.world_eq)
  | @redeemed result m u w r login ends =>
    have arrives : u.world.Evolves (changed m SavedRequest.arrive u).world :=
      changed_evolves fun _ _ => rfl
    exact login.evolves.trans (arrives.trans (.of_eq ends.world_eq))

/-- A callback changes nothing but the store and the answers to come. -/
theorem Answers.evolves (h : Answers g v session r w) : v.world.Evolves w.world := by
  cases h with
  | noCode _ ends => exact .of_eq ends.world_eq
  | noSession _ ends => exact .of_eq ends.world_eq
  | unreadable => exact .refl _
  | wrongState _ _ ends => exact .of_eq ends.world_eq
  | redeemed _ _ redeems => exact redeems.evolves

/-- Looking for the session of a request changes its lease alone. -/
theorem finds_evolves {found : Except Fault (Option Serial)} (h : Finds v found w) :
    v.world.Evolves w.world := by
  obtain ⟨s, rfl, -, evolves⟩ := h.exists_store
  exact .of_store evolves

/-- **A decision changes nothing but the store, the tokens and the answers to come,** however it
ends. -/
theorem Decides.evolves {mandatory : Bool} (h : Decides g mandatory v r w) :
    v.world.Evolves w.world := by
  cases h with
  | deferred => exact .refl _
  | urlSession _ _ ends => exact .of_eq ends.world_eq
  | unfound _ _ finds => exact finds_evolves finds
  | callback _ _ finds answers => exact (finds_evolves finds).trans answers.evolves
  | protect _ _ _ finds protects => exact (finds_evolves finds).trans protects.evolves

/-- Preparing a request changes nothing but the store. -/
theorem Prepares.evolves {r : Except Fault Bool} (h : Prepares v r w) :
    v.world.Evolves w.world := by
  cases h with
  | unfound finds => exact finds_evolves finds
  | found finds =>
    have found := finds_evolves finds
    exact found

/-- A logout changes nothing but the store. -/
theorem LogsOut.evolves {r : Except Fault Unit} (h : LogsOut v r w) : v.world.Evolves w.world := by
  cases h with
  | unfound finds => exact finds_evolves finds
  | nobody finds => exact finds_evolves finds
  | @forgotten n u finds =>
    have forgets : u.world.Evolves (changed n Session.forget u).world :=
      changed_evolves fun _ _ => rfl
    exact (finds_evolves finds).trans forgets

/-- A resolution changes nothing but the store. -/
theorem Resolves.evolves (h : Resolves g v r w) : v.world.Evolves w.world := by
  cases h with
  | callback => exact .refl _
  | decided _ decides => exact decides.evolves

/-! ## Calls -/

/-- How a call ends. -/
inductive Visits (g : Gate) (v : Visit) :
    Errand → Except Fault (Option Outcome) → Visit → Prop
  | prepare {r : Except Fault Bool} {w : Visit} (h : Prepares v r w) :
      Visits g v .prepare (r.map fun _ => none) w
  | validate {mandatory : Bool} {r : Except Fault Outcome} {w : Visit}
      (h : Decides g mandatory v r w) : Visits g v (.validate mandatory) (r.map some) w
  | resolve {r : Except Fault Outcome} {w : Visit} (h : Resolves g v r w) :
      Visits g v .resolve (r.map some) w
  | logout {r : Except Fault Unit} {w : Visit} (h : LogsOut v r w) :
      Visits g v .logout (r.map fun _ => none) w

/-- A step whose value is mapped leaves what the step leaves. -/
theorem on_map {α β : Type} (f : α → β) (s : Step α) (v : Visit) :
    (do pure (f (← s)) : Step β).on v = ((s.on v).1.map f, (s.on v).2) := by
  rw [Step.on_bind]
  rcases s.on v with ⟨fault | a, w⟩ <;> rfl

/-- A call ends by the relation of its kind. -/
theorem visit_visits (g : Gate) (w : World) (e : Errand) (q : Request) (channel : Channel) :
    Visits g { world := w, request := q, channel } e (g.visit w e q channel).1
      (g.visit w e q channel).2 := by
  unfold visit
  cases e with
  | prepare =>
    rw [Errand.step, on_map fun _ => none]
    exact .prepare (prepare_prepares _)
  | validate mandatory =>
    rw [Errand.step, on_map some]
    exact .validate (validate_decides ..)
  | resolve =>
    rw [Errand.step, on_map some]
    exact .resolve (resolve_resolves ..)
  | logout =>
    have h := logout_logsOut { world := w, request := q, channel }
    rw [Errand.step, on_map fun _ => none]
    exact .logout h

/-- **A call changes nothing but the store, the tokens and the answers to come,** whichever it
is. -/
theorem Visits.evolves {e : Errand} {r : Except Fault (Option Outcome)} (h : Visits g v e r w) :
    v.world.Evolves w.world := by
  cases h with
  | prepare h => exact h.evolves
  | validate h => exact h.evolves
  | resolve h => exact h.evolves
  | logout h => exact h.evolves

/-- **A call only adds to the world:** the users, the time and the ids issued before it stay, and
every lease after it is new or goes back to one before it. -/
theorem visit_evolves (g : Gate) (w : World) (e : Errand) (q : Request) (channel : Channel) :
    w.Evolves (g.visit w e q channel).2.world :=
  (visit_visits g w e q channel).evolves

/-- A call takes no time. -/
@[simp] theorem now_after_call (g : Gate) (w : World) (e : Errand) (q : Submission)
    (channel : Channel) : (g.after w (.call e q channel)).now = w.now :=
  (visit_evolves g w e q channel).now

end Gate
end LoginGate
