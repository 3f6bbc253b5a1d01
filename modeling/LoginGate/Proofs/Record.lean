/-
# What a session holds between calls

The attributes of a session are written by several parts, each of which touches its own.  `Shaped`
is what every one of them keeps; that a session with a request or a login has a token does not hold
between saving a request and making its token, and is `Consistent` after both.

| attributes | rule |
| --- | --- |
| `authenticated`, `claims`, `response` | all there, of one login, or none |
| `uri`, `method` | both there or none |
| `post` | only beside an address and the method `POST` |
| `destination` | only the saved address, and never beside a login |
| `csrfToken` | a text that is not empty; there is one beside an address or a login |

Putting a request back removes its address and not the destination.  It asks for a login, and there
is no destination beside a login.
-/

import LoginGate.Proofs.Effects

namespace LoginGate

/-- The attributes of a session agree with each other. -/
structure Session.Shaped (s : Session) : Prop where
  login : (s.authenticated = none ∧ s.claims = none ∧ s.response = none) ∨
    ∃ r, s.authenticated = some (.result r) ∧ s.claims = some (.fields r.claims) ∧
      s.response = some (.fields r.response)
  uri : s.uri = none ↔ s.method = none
  post : s.post ≠ none → s.uri ≠ none ∧ s.method = some (.text "POST")
  destination : ∀ d, s.destination = some d → s.uri = some d
  loggedIn : s.authenticated ≠ none → s.destination = none
  token : ∀ a, s.csrfToken = some a → ∃ t, t ≠ "" ∧ a = .text t

/-- The attributes of a session agree, and a session with a saved request or a login is guarded by a
token. -/
structure Session.Consistent (s : Session) : Prop extends s.Shaped where
  guarded : s.uri ≠ none ∨ s.authenticated ≠ none → ∃ t, t ≠ "" ∧ s.csrfToken = some (.text t)

/-- All sessions are consistent, and no token to come is empty. -/
structure World.Sound (w : World) : Prop where
  tokens : "" ∉ w.tokens.given
  sessions : ∀ n s, w.store.session? n = some s → s.Consistent

namespace Series

/-- No name of a series is empty. -/
theorem name_ne_empty (s : Series) (n : Nat) : s.name n ≠ "" := by
  have h : s.digits n ≠ [] := by simp [digits, Nat.toDigits_ne_nil]
  simp [name, h]

end Series

/-- No token that is drawn is empty, if none of those given is. -/
theorem Supply.draw_ne_empty {s : Supply} (h : "" ∉ s.given) : s.draw.1 ≠ "" := by
  unfold draw
  split
  · rename_i name r given
    rintro rfl
    exact h (given ▸ List.mem_cons_self)
  · exact s.series.name_ne_empty (s.made + 1)

namespace Session

variable {s after : Session} {tokens : Supply} {always : Bool} {q : Request}

/-- A session that shows no login has none. -/
theorem Shaped.authenticated_eq_none (h : s.Shaped)
    (empty : Attribute.present s.authenticated = none) : s.authenticated = none :=
  Session.authenticated_eq_none (h.login.imp And.left fun ⟨r, login, _⟩ => ⟨r, login⟩) empty

/-- An empty session is consistent. -/
theorem consistent_empty (id : String) : Consistent { id } :=
  ⟨⟨.inl ⟨rfl, rfl, rfl⟩, by simp, by simp, by simp, by simp, by simp⟩, by simp⟩

/-- A session that loses its login stays consistent. -/
theorem Consistent.forget (h : s.Consistent) : s.forget.Consistent :=
  { login := .inl ⟨rfl, rfl, rfl⟩, uri := h.uri, post := h.post, destination := h.destination
    loggedIn := fun login => absurd rfl login, token := h.token
    guarded := fun held => h.guarded (.inl (held.resolve_right fun login => login rfl)) }

/-- A saved request may be taken out of a session that is logged in. -/
theorem Consistent.drop (h : s.Consistent) (login : s.authenticated ≠ none) :
    (SavedRequest.drop s).Consistent :=
  { login := h.login, uri := by simp [SavedRequest.drop], post := by simp [SavedRequest.drop]
    destination := fun d held => by
      have none : s.destination = none := h.loggedIn login
      exact absurd (none.symm.trans held) (by simp)
    loggedIn := h.loggedIn, token := h.token
    guarded := fun _ => h.guarded (.inr login) }

/-- Saving a request keeps a session without a login in shape. -/
theorem Shaped.save (h : s.Shaped) (nobody : s.authenticated = none)
    (save : SavedRequest.save always q s = .ok after) :
    after.Shaped ∧ after.authenticated = none := by
  obtain ⟨-, method, hm, rfl⟩ | ⟨-, rfl⟩ := SavedRequest.save_cases save
  · refine ⟨{ login := h.login, uri := by simp [SavedRequest.write], post := fun held => ?_
              destination := fun d held => held, loggedIn := fun login => absurd nobody login
              token := h.token }, nobody⟩
    have posted : q.isFormPost = true := by
      by_contra other
      simp [SavedRequest.write, other] at held
    have upper : Text.upperWide method = "POST" := by
      simp only [Request.isFormPost, hm, Option.any_some, Bool.and_eq_true, beq_iff_eq] at posted
      exact posted.1
    exact ⟨by simp [SavedRequest.write], by simp [SavedRequest.write, upper]⟩
  · exact ⟨h, nobody⟩

/-- A session in shape is consistent once it has a token. -/
theorem Shaped.ensure (h : s.Shaped) (fresh : "" ∉ tokens.given) :
    (Csrf.ensure tokens s).session.Consistent := by
  unfold Csrf.ensure
  split
  · rename_i a held
    obtain ⟨held, -⟩ := Option.filter_eq_some_iff.1 held
    obtain ⟨t, ht, rfl⟩ := h.token a held
    exact { h with guarded := fun _ => ⟨t, ht, held⟩ }
  · have ht := Supply.draw_ne_empty fresh
    exact { h with
      token := fun a held => ⟨_, ht, (Option.some.inj held).symm⟩
      guarded := fun _ => ⟨_, ht, rfl⟩ }

/-- A session with a token is consistent after a login in it. -/
theorem Consistent.signIn (h : s.Consistent) {token : String}
    (held : Csrf.token? s = some (.text token)) (id : String) (r : AuthResult) :
    (SavedRequest.arrive ((s.withId id).cache r)).Consistent := by
  obtain ⟨held, -⟩ := Option.filter_eq_some_iff.1 held
  obtain ⟨t, ht, same⟩ := h.token _ held
  exact
    { login := .inr ⟨r, rfl, rfl, rfl⟩, uri := h.uri, post := h.post, destination := by
        simp [SavedRequest.arrive]
      loggedIn := fun _ => rfl, token := h.token
      guarded := fun _ => ⟨t, ht, held.trans (congrArg some same)⟩ }

end Session

namespace Gate

variable {g : Gate} {w : World}

/-- What a call leaves of a session is consistent, if the world was sound. -/
theorem Leaves.consistent {e : Errand} {q : Submission} {channel : Channel}
    {r : Except Fault (Option Outcome)} {m : Serial} {s : Session}
    (h : Leaves g w e q channel r m s) (sound : w.Sound) : s.Consistent := by
  cases h with
  | kept old => exact sound.sessions m _ old
  | forgotten old => exact (sound.sessions m _ old).forget
  | restored old login =>
    refine (sound.sessions m _ old).drop fun nobody => ?_
    rw [nobody] at login
    cases login
  | @challenged a b after challenging old unheld save =>
    have before := sound.sessions m a old
    obtain ⟨shaped, nobody⟩ : b.Shaped ∧ b.authenticated = none := by
      obtain ⟨rfl, empty⟩ | rfl := unheld
      · exact ⟨before.toShaped, before.authenticated_eq_none empty⟩
      · exact ⟨before.forget.toShaped, rfl⟩
    exact (shaped.save nobody save).1.ensure sound.tokens
  | begun _ shape => exact absurd shape q.wide?_ne_none
  | blank new id => exact Session.consistent_empty id
  | @opened id sessionId after challenging new save =>
    exact ((Session.consistent_empty id).save rfl save).1.ensure sound.tokens
  | @renewed a x signsIn call new next old =>
    have held : Csrf.token? a = some (.text x.token) := by simpa [old] using signsIn.token
    exact (sound.sessions _ a old).signIn held x.newId x.result

/-- One event keeps every session consistent. -/
theorem sound_after (sound : w.Sound) (e : Event) : (g.after w e).Sound := by
  cases e with
  | call e q channel =>
    have evolves := visit_evolves g w e q channel
    exact ⟨fun mem => sound.tokens (evolves.tokens.subset mem), fun n s hs =>
      (visit_leaves hs).consistent sound⟩
  | tick => exact ⟨sound.tokens, sound.sessions⟩
  | wall => exact ⟨sound.tokens, sound.sessions⟩
  | add => exact ⟨sound.tokens, sound.sessions⟩
  | revoke => exact ⟨sound.tokens, sound.sessions⟩

/-- A run leaves a sound world. -/
theorem sound_run (sound : w.Sound) (es : List Event) : (g.run w es).Sound :=
  run_of_after (P := World.Sound) (fun _ c h => sound_after h c) sound es

/-- A world that was just set up is sound. -/
theorem sound_of_fresh (fresh : w.Fresh) (tokens : "" ∉ w.tokens.given) : w.Sound :=
  ⟨tokens, sessions_of_fresh fresh⟩

/-- **Between calls every session is consistent:** after any run from an empty store, whether its
calls came to an end or broke off, if no token that is drawn is empty. -/
theorem consistent_of_mem_run (fresh : w.Fresh) (tokens : "" ∉ w.tokens.given) (es : List Event)
    {s : Session} (mem : s ∈ (g.run w es).store.sessions) : s.Consistent := by
  obtain ⟨n, hs⟩ := List.getElem?_of_mem mem
  exact (sound_run (sound_of_fresh fresh tokens) es).sessions n s hs

/-- After a login in a small world the session that holds the login is consistent. -/
theorem consistent_of_smallLogin :
    (smallWorld none).Fresh ∧ "" ∉ (smallWorld none).tokens.given ∧
      ∃ s ∈ ((smallGate true).run (smallWorld none) smallLogin).store.sessions,
        s.authenticated.isSome = true ∧ s.Consistent := by
  have tokens : "" ∉ (smallWorld none).tokens.given := by decide
  have held : ((smallGate true).run (smallWorld none) smallLogin).store.sessions.any
      (fun s => s.authenticated.isSome) = true := by decide +kernel
  obtain ⟨s, mem, login⟩ := List.any_eq_true.1 held
  exact ⟨smallWorld_fresh none, tokens, s, mem, login,
    consistent_of_mem_run (smallWorld_fresh none) tokens smallLogin mem⟩

end Gate
end LoginGate
