/-
# What a session holds of a saved request

Three attributes of a session hold the saved request: its slot.  An event makes one of four things
of the slot of a session, and between two requests that are saved in it nothing else is ever written
there.

| `SlotAfter` | the slot |
| --- | --- |
| `kept` | is as it was |
| `taken` | is empty, and the session is logged in |
| `saved` | holds the request of the event |
| `renewed` | is that of the session which was renewed into this one |

`Session.Filed` is what every event keeps of a session: whatever its slot holds was written for one
request, and the destination is the saved address.
-/

import LoginGate.Proofs.Origin

namespace LoginGate

/-- What a session holds of a saved request. -/
structure Slot where
  uri : Option Attribute := none
  method : Option Attribute := none
  post : Option Attribute := none
  deriving DecidableEq, Repr

/-- The slot of a session. -/
def Session.slot (s : Session) : Slot :=
  ⟨s.uri, s.method, s.post⟩

/-- The slot that saving a request writes; none where the method is no text. -/
def Request.slot? (q : Request) : Option Slot :=
  q.method.wide?.map fun method =>
    { uri := some (.text q.url)
      method := some (.wide (Text.upperWide method))
      post := if q.isFormPost then some (.form (q.form.getD [])) else none }

/-- The slot that a request writes holds its address. -/
theorem Request.uri_of_slot? {q : Request} {slot : Slot} (h : q.slot? = some slot) :
    slot.uri = some (.text q.url) := by
  obtain ⟨method, -, rfl⟩ := Option.map_eq_some_iff.1 h
  rfl

namespace World

/-- The session of a serial, an empty one where there is none. -/
def session (w : World) (n : Serial) : Session :=
  (w.store.session? n).getD { id := "" }

/-- The slot of the session of a serial. -/
def slot (w : World) (n : Serial) : Slot :=
  (w.session n).slot

variable {w : World} {n : Serial} {s : Session}

/-- The session of a serial that was issued. -/
theorem session_of_session? (h : w.store.session? n = some s) : w.session n = s := by
  rw [session, h, Option.getD_some]

/-- Where no session was issued there is an empty one to read. -/
theorem session_of_length_le (h : w.store.sessions.length ≤ n) : w.session n = { id := "" } := by
  rw [session, SessionStore.session?, List.getElem?_eq_none h, Option.getD_none]

/-- The saved request of a session that was issued. -/
theorem slot_of_session? (h : w.store.session? n = some s) : w.slot n = s.slot := by
  rw [slot, session_of_session? h]

/-- Worlds with the same session at a serial have the same saved request there. -/
theorem slot_congr {u : World} (h : u.store.session? n = w.store.session? n) :
    u.slot n = w.slot n := by
  rw [slot, slot, session, session, h]

/-- Where no session was issued no request is saved. -/
theorem slot_of_length_le (h : w.store.sessions.length ≤ n) : w.slot n = {} := by
  rw [slot, session_of_length_le h]
  rfl

end World

/-- A token that is drawn leaves the saved request and the destination alone. -/
theorem Csrf.ensure_slot (tokens : Supply) (s : Session) :
    (ensure tokens s).session.slot = s.slot ∧
      (ensure tokens s).session.destination = s.destination := by
  unfold ensure
  split <;> exact ⟨rfl, rfl⟩

namespace SavedRequest

variable {always : Bool} {q : Request} {s after : Session}

/-- A request is saved where the session takes it, and nothing changes where it does not. -/
theorem slot_of_save (h : save always q s = .ok after) :
    takes always s = true ∧ q.slot? = some after.slot ∧
        after.destination = some (.text q.url) ∨
      takes always s = false ∧ after = s := by
  obtain ⟨taken, method, text, rfl⟩ | full := save_cases h
  · exact .inl ⟨taken, by rw [Request.slot?, text]; rfl, rfl⟩
  · exact .inr full

/-- Whether a session takes a request is told from its slot. -/
theorem takes_of_slot {t : Session} (h : s.slot = t.slot) : takes always s = takes always t := by
  have uri : s.uri = t.uri := congrArg Slot.uri h
  rw [takes, takes, uri]

end SavedRequest

namespace Gate

/-- An event saves a request in a session: a challenge of the request came as far as that, and the
session took the request. -/
structure Saves (g : Gate) (w : World) (c : Event) (n : Serial) (q : Submission) : Prop where
  call : ∃ mandatory channel, c = .call (.validate mandatory) q channel ∧
    Reaches w q (g.visit w (.validate mandatory) q channel).1 n
  other : isCallback q.uri = false
  takes : SavedRequest.takes g.settings.alwaysSave (w.session n) = true

/-- What an event makes of the slot of the session `m`. -/
inductive SlotAfter (g : Gate) (w : World) (c : Event) (m : Serial) : Slot → Prop
  | kept : SlotAfter g w c m (w.slot m)
  | taken {result : AuthResult} (login : w.Holds m result) : SlotAfter g w c m {}
  | saved {q : Submission} {slot : Slot} (saves : Saves g w c m q) (written : q.slot? = some slot) :
      SlotAfter g w c m slot
  | renewed {x : SignIn} (signsIn : SignsIn g w c x) (next : m = x.next)
      (new : m = w.store.sessions.length) : SlotAfter g w c m (w.slot x.session)

variable {g : Gate} {w : World} {c : Event} {m n : Serial} {p : Request} {q : Submission}
  {s : Session}
  {es : List Event} {result : AuthResult}

/-- **The slot of a session after an event** is what the event made of it in one of four ways. -/
theorem slotAfter (g : Gate) (w : World) (c : Event) (m : Serial) :
    SlotAfter g w c m ((g.after w c).slot m) := by
  have same (hc : (g.after w c).store = w.store) : SlotAfter g w c m ((g.after w c).slot m) := by
    have kept : (g.after w c).slot m = w.slot m := World.slot_congr (by rw [hc])
    exact kept ▸ .kept
  cases c with
  | tick => exact same rfl
  | wall => exact same rfl
  | add => exact same rfl
  | revoke => exact same rfl
  | call e q channel =>
    cases hm : (g.visit w e q channel).2.world.store.session? m with
    | none =>
      -- A session that is not there after the call was not there before.
      have beyond : (g.after w (.call e q channel)).store.sessions.length ≤ m :=
        List.getElem?_eq_none_iff.1 hm
      have kept : (g.after w (.call e q channel)).slot m = w.slot m := by
        rw [World.slot_of_length_le beyond,
          World.slot_of_length_le ((after_length w (.call e q channel)).trans beyond)]
      exact kept ▸ .kept
    | some s =>
      have hm' : (g.after w (.call e q channel)).store.session? m = some s := hm
      rw [World.slot_of_session? hm']
      cases visit_leaves hm with
      | kept old => exact World.slot_of_session? old ▸ .kept
      | @forgotten a old =>
        have kept : a.forget.slot = w.slot m := (World.slot_of_session? old).symm
        exact kept ▸ .kept
      | @restored a result old login =>
        exact .taken ⟨a, old, (Option.filter_eq_some_iff.1 login).1⟩
      | @challenged a b taken challenging old unheld save reaches =>
        rw [(Csrf.ensure_slot ..).1]
        have before : b.slot = w.slot m := by
          rw [World.slot_of_session? old]
          obtain ⟨rfl, -⟩ | rfl := unheld <;> rfl
        obtain ⟨takes, written, -⟩ | ⟨-, rfl⟩ := SavedRequest.slot_of_save save
        · obtain ⟨mandatory, rfl⟩ := challenging.call
          refine .saved ⟨⟨mandatory, channel, rfl, reaches⟩, challenging.other, ?_⟩ written
          rw [← SavedRequest.takes_of_slot before]
          exact takes
        · exact before ▸ .kept
      | begun _ shape => exact absurd shape q.wide?_ne_none
      | blank new id =>
        have kept : ({ id } : Session).slot = w.slot m :=
          (World.slot_of_length_le new.ge).symm
        exact kept ▸ .kept
      | @opened id sessionId taken challenging new save reaches =>
        rw [(Csrf.ensure_slot ..).1]
        have empty : w.session m = { id := "" } := World.session_of_length_le new.ge
        obtain ⟨takes, written, -⟩ | ⟨full, -⟩ := SavedRequest.slot_of_save save
        · obtain ⟨mandatory, rfl⟩ := challenging.call
          refine .saved ⟨⟨mandatory, channel, rfl, reaches⟩, challenging.other, ?_⟩ written
          rw [empty]
          exact takes
        · cases full
      | @renewed a x signsIn call new next old =>
        obtain ⟨mandatory, rfl⟩ := call
        have copied : (SavedRequest.arrive ((a.withId x.newId).cache x.result)).slot =
            w.slot x.session := (World.slot_of_session? old).symm
        rw [copied]
        subst next
        exact .renewed (signsIn_of_leaves signsIn hm rfl rfl) rfl new

/-! ## Challenges -/

/-- A visit of a request whose challenge begins in the session `n`: the session is there, without a
login, and the request names it. -/
structure Enters (v : Visit) (n : Serial) (u : Visit) : Prop where
  session : ∃ b, u.world.store.session? n = some b ∧ b.slot = v.world.slot n ∧
    Attribute.present b.authenticated = none
  request : ∃ id, u.request = { v.request with sessionId := some id } ∧
    u.world.store.issuedIds[n]? = some id
  channel : u.channel = v.channel
  tokens : u.world.tokens = v.world.tokens
  sendable : v.channel.isDeferred = false

variable {v u : Visit} {w' : Visit} {r : Except Fault Outcome} {mandatory : Bool}
  {channel : Channel} {session : Option Serial}

/-- A challenge in a session that the request names begins in that session. -/
theorem enters_of_found {x : Visit} (named : v.world.store.Named)
    (sendable : x.channel.isDeferred = false)
    (finds : Step.Finds v (.ok (some n)) x) (unheld : Unheld g x (some n) u) : Enters v n u := by
  have evolves := (finds_evolves finds).trans unheld.evolves
  cases finds with
  | @found id n s own given found =>
    have same := SessionStore.sessions_get v.world.store v.world.now id
    rw [found] at same
    have issued := named.of_find? (SessionStore.find?_of_get (congrArg Prod.fst found))
    obtain ⟨a, ha, -⟩ := session?_of_issuedIds issued
    have ha' : s.session? n = some a := SessionStore.session?_of_sessions same n ▸ ha
    have request : ∃ id, v.request = { v.request with sessionId := some id } ∧
        u.world.store.issuedIds[n]? = some id :=
      ⟨id, by rw [← own], SessionStore.issued_mono evolves.store.ids issued⟩
    cases unheld with
    | empty h =>
      rw [Visit.session_of_session? ha'] at h
      exact ⟨⟨a, ha', (World.slot_of_session? ha).symm, h⟩, request, rfl, rfl, sendable⟩
    | revoked =>
      have forgotten := SessionStore.session?_modify_self (f := Session.forget) ha'
      exact ⟨⟨a.forget, forgotten, (World.slot_of_session? ha).symm, rfl⟩, request, rfl, rfl,
        sendable⟩

/-- A challenge of a request that names no live session begins in a new one. -/
theorem enters_of_created {log : List LogRecord} (sendable : v.channel.isDeferred = false)
    (issue : (v.world.store.create v.world.now).result = .ok n)
    (left : u =
      { v.withStore (v.world.store.create v.world.now).store with
        request :=
          { v.request with sessionId := some ((v.world.store.create v.world.now).store.idOf n) }
        log }) : Enters v n u := by
  subst left
  obtain ⟨result, sessions⟩ | ⟨result, -⟩ := SessionStore.create_issues v.world.store v.world.now
  · rename_i id
    obtain rfl := Except.ok.inj (issue.symm.trans result)
    have last : (v.world.store.create v.world.now).store.session? v.world.store.sessions.length =
        some { id } := by
      rw [SessionStore.session?, sessions, List.getElem?_concat_length]
      rfl
    refine ⟨⟨{ id }, last, ?_, rfl⟩, ⟨_, rfl, ?_⟩, rfl, rfl, sendable⟩
    · rw [World.slot_of_length_le le_rfl]
      rfl
    · have idOf :
          (v.world.store.create v.world.now).store.idOf v.world.store.sessions.length = id := by
        rw [SessionStore.idOf, last]
        rfl
      rw [SessionStore.issuedIds, List.getElem?_map, idOf]
      exact congrArg (Option.map Session.id) last
  · cases issue.symm.trans result

/-- A callback never challenges. -/
theorem Answers.ne_challenged {session : Option Serial} {v u : Visit} {o : Except Fault Outcome}
    (h : Answers g v session o u) : o ≠ .ok .challenged := by
  have other : ∀ {o' : Outcome}, (o = .ok o' ∨ ∃ fault, o = .error fault) → o' ≠ .challenged →
      o ≠ .ok .challenged := by
    rintro o' (rfl | ⟨fault, rfl⟩) ne
    · exact fun same => ne (Except.ok.inj same)
    · nofun
  cases h with
  | noCode _ ends => exact other ends.result nofun
  | noSession _ ends => exact other ends.result nofun
  | unreadable => nofun
  | wrongState _ _ ends => exact other ends.result nofun
  | redeemed _ _ redeems =>
    cases redeems with
    | broken => nofun
    | refused _ ends => exact other ends.result nofun
    | redeemed _ ends => exact other ends.result nofun

/-- A request that is challenged is no callback, and its session stands in no address. -/
theorem reaches_of_challenged
    (h : (g.visit w (.validate mandatory) p channel).1 = .ok (some .challenged)) :
    isCallback p.uri = false ∧
      Reaches w p (g.visit w (.validate mandatory) p channel).1 (w.sessionFor p) := by
  have visits := visit_visits g w (.validate mandatory) p channel
  generalize (g.visit w (.validate mandatory) p channel).1 = o at h visits ⊢
  generalize (g.visit w (.validate mandatory) p channel).2 = u at visits
  cases visits with
  | @validate _ r u decides =>
    cases r with
    | error => cases h
    | ok o =>
      obtain rfl := Option.some.inj (Except.ok.inj h)
      generalize hr : (Except.ok Outcome.challenged : Except Fault Outcome) = r at decides
      cases decides with
      | deferred => cases hr
      | urlSession _ _ ends =>
        obtain rfl | ⟨fault, rfl⟩ := ends.result <;> cases hr
      | unfound => cases hr
      | callback _ _ _ answers => exact absurd hr.symm answers.ne_challenged
      | protect _ other cookie =>
        subst hr
        exact ⟨other, cookie, rfl, .inl rfl⟩

/-- A decision that reaches the session `n` with a challenge takes the course of one in it. -/
theorem Decides.challenges (h : Decides g mandatory v r w') (named : v.world.store.Named)
    (other : isCallback v.request.uri = false)
    (reaches : Reaches v.world v.request (r.map some) n) :
    ∃ u, Enters v n u ∧ Challenges g n u r w' := by
  have result : r = .ok .challenged ∨ ∃ fault, r = .error fault ∧ fault.isLate = true := by
    cases r with
    | ok o => simpa [Except.map] using reaches.result
    | error fault => simpa [Except.map] using reaches.result
  have own := reaches.session
  cases h with
  | deferred => simp at result
  | urlSession _ url => exact absurd (url.symm.trans reaches.cookie) (by simp)
  | unfound _ _ finds =>
    cases finds with
    | broken => simp [Fault.isLate] at result
  | callback callback => exact absurd (callback.symm.trans other) (by simp)
  | protect _ _ _ finds protects =>
    have live := live?_of_finds finds
    rw [World.sessionFor, live] at own
    cases protects with
    | held => simp at result
    | unreadable => simp [Fault.isLate] at result
    | passed => simp at result
    | challenged unheld sendable challenges =>
      obtain rfl : n = _ := own
      exact ⟨_, enters_of_found named sendable finds unheld, challenges⟩
    | unissued => simp [Fault.isLate] at result
    | @started m _ _ _ sendable issue _ left challenges =>
      cases finds with
      | nobody =>
        obtain ⟨number, -⟩ | ⟨refused, -⟩ :=
          SessionStore.create_issues v.world.store v.world.now
        · obtain rfl : n = m := own.trans (Except.ok.inj (number.symm.trans issue))
          exact ⟨_, enters_of_created sendable issue left, challenges⟩
        · cases issue.symm.trans refused

/-- A challenge that comes as far as to save its request leaves it in its session, with a token. -/
theorem Challenges.exists_saved {v u : Visit} {r : Except Fault Outcome} {b : Session}
    (h : Challenges g n v r u) (late : ∀ fault, r = .error fault → fault.isLate = true)
    (there : v.world.store.session? n = some b) :
    ∃ taken, SavedRequest.save g.settings.alwaysSave v.request b = .ok taken ∧
      u.world.store.session? n = some (Csrf.ensure v.world.tokens taken).session := by
  cases h with
  | unsaved => exact absurd (late _ rfl) nofun
  | @saved taken x _ i _ save left issue sends =>
    subst left issue
    have saved : (changed n (fun _ => taken) v).world.store.session? n = some taken :=
      SessionStore.session?_modify_self there
    rw [Visit.session_of_session? there] at save
    refine ⟨taken, save, ?_⟩
    rw [sends.world_eq, Visit.session_of_session? saved]
    exact SessionStore.session?_modify_self saved

/-- **What a challenge leaves of its session:** the request is saved in it, if the session took it,
it has a token, and nobody is logged in. -/
theorem exists_of_reaches (named : w.store.Named) (other : isCallback p.uri = false)
    (reaches : Reaches w p (g.visit w (.validate mandatory) p channel).1 n) :
    ∃ b after, b.slot = w.slot n ∧ Attribute.present b.authenticated = none ∧
      SavedRequest.save g.settings.alwaysSave p b = .ok after ∧
      (g.visit w (.validate mandatory) p channel).2.world.store.session? n =
        some (Csrf.ensure w.tokens after).session := by
  have visits := visit_visits g w (.validate mandatory) p channel
  generalize (g.visit w (.validate mandatory) p channel).1 = o at reaches visits
  generalize (g.visit w (.validate mandatory) p channel).2 = u at visits ⊢
  cases visits with
  | @validate _ r u decides =>
    obtain ⟨x, enters, challenges⟩ := decides.challenges named other reaches
    obtain ⟨b, hb, slot, nobody⟩ := enters.session
    obtain ⟨id, request, -⟩ := enters.request
    have late : ∀ fault, r = .error fault → fault.isLate = true := by
      rintro fault rfl
      simpa [Except.map] using reaches.result
    obtain ⟨after, save, left⟩ := challenges.exists_saved late hb
    rw [request] at save
    rw [enters.tokens] at left
    exact ⟨b, after, slot, nobody, save, left⟩

/-- A request that is saved in a session is what its slot holds then. -/
theorem Saves.slot (named : w.store.Named) (h : Saves g w c n q) :
    q.slot? = some ((g.after w c).slot n) := by
  obtain ⟨mandatory, channel, rfl, reaches⟩ := h.call
  obtain ⟨b, taken, slot, -, save, hs⟩ := exists_of_reaches named h.other reaches
  have takes : SavedRequest.takes g.settings.alwaysSave b = true :=
    (SavedRequest.takes_of_slot slot).trans h.takes
  obtain ⟨-, written, -⟩ | ⟨full, -⟩ := SavedRequest.slot_of_save save
  · have left : (g.after w (.call (.validate mandatory) q channel)).store.session? n =
        some (Csrf.ensure w.tokens taken).session := hs
    rw [World.slot_of_session? left, (Csrf.ensure_slot ..).1]
    exact written
  · exact absurd (takes.symm.trans full) nofun

/-- Nobody is logged in in a session after a challenge in it. -/
theorem not_holds_of_reaches (named : w.store.Named) (other : isCallback p.uri = false)
    (reaches : Reaches w p (g.visit w (.validate mandatory) p channel).1 n) (result : AuthResult) :
    ¬ (g.visit w (.validate mandatory) p channel).2.world.Holds n result := by
  rintro ⟨s, hs, held⟩
  obtain ⟨b, taken, -, nobody, save, hs'⟩ := exists_of_reaches named other reaches
  obtain rfl := Option.some.inj (hs.symm.trans hs')
  rw [(Csrf.ensure_keeps ..).2, (SavedRequest.save_keeps save).2.1] at held
  rw [held] at nobody
  cases nobody

/-! ## Runs -/

/-- No event of a run saves a request in the session. -/
def Unsaved (g : Gate) (w : World) (es : List Event) (n : Serial) : Prop :=
  ∀ pre c post q, es = pre ++ c :: post → ¬ Saves g (g.run w pre) c n q

/-- The request that a run saved last in a session. -/
def LastSaved (g : Gate) (w : World) (es : List Event) (n : Serial) (q : Submission) : Prop :=
  ∃ pre c post, es = pre ++ c :: post ∧ Saves g (g.run w pre) c n q ∧
    Unsaved g (g.after (g.run w pre) c) post n

/-- What was saved last in a run was saved last in any run that ends with it. -/
theorem LastSaved.prepend (pre : List Event) (h : LastSaved g (g.run w pre) es n q) :
    LastSaved g w (pre ++ es) n q := by
  obtain ⟨mid, c, post, rfl, saves, quiet⟩ := h
  refine ⟨pre ++ mid, c, post, by rw [List.append_assoc], ?_⟩
  rw [run_append]
  exact ⟨saves, quiet⟩

/-- A run that saves a request in a session saves one last. -/
theorem exists_lastSaved {w : World} {c : Event} {q : Submission} (h : Saves g w c n q)
    (es : List Event) : ∃ p, LastSaved g w (c :: es) n p := by
  by_cases quiet : Unsaved g (g.after w c) es n
  · exact ⟨q, [], c, es, rfl, h, quiet⟩
  · simp only [Unsaved, not_forall, not_not] at quiet
    obtain ⟨pre, d, post, q', rfl, later⟩ := quiet
    obtain ⟨p, last⟩ := exists_lastSaved later post
    exact ⟨p, LastSaved.prepend (w := w) (c :: pre) last⟩
termination_by es.length

/-- Where nobody is logged in, only saving a request writes to the slot of a session. -/
theorem slot_after (old : n < w.store.sessions.length) (nobody : ∀ result, ¬ w.Holds n result)
    (quiet : ∀ q, ¬ Saves g w c n q) : (g.after w c).slot n = w.slot n := by
  have after := slotAfter g w c n
  generalize (g.after w c).slot n = slot at after
  cases after with
  | kept => rfl
  | taken login => exact absurd login (nobody _)
  | saved saves => exact absurd saves (quiet _)
  | renewed _ _ new => exact absurd new old.ne

/-- A session without a login is never logged in later: a login goes on in a new session. -/
theorem not_holds_after (old : n < w.store.sessions.length)
    (nobody : ∀ result, ¬ w.Holds n result) (c : Event) (result : AuthResult) :
    ¬ (g.after w c).Holds n result := by
  intro held
  have held : (g.run w [c]).Holds n result := held
  exact nobody result (holds_before_run old held)

/-- In a session without a login nothing but a challenge touches the saved request. -/
theorem slot_of_unsaved (old : n < w.store.sessions.length)
    (nobody : ∀ result, ¬ w.Holds n result) (quiet : Unsaved g w es n) :
    (g.run w es).slot n = w.slot n := by
  induction es generalizing w with
  | nil => rfl
  | cons c es ih =>
    have first : (g.after w c).slot n = w.slot n :=
      slot_after old nobody fun q => quiet [] c es q rfl
    refine (ih (old.trans_le (after_length w c)) (not_holds_after old nobody c) ?_).trans first
    intro pre d post q split
    have quiet := quiet (c :: pre) d post q (by rw [split]; rfl)
    exact quiet

/-- A slot that is full keeps what it holds, unless saving is forced. -/
theorem slot_of_full (unforced : g.settings.alwaysSave = false)
    (old : n < w.store.sessions.length) (nobody : ∀ result, ¬ w.Holds n result)
    (full : Attribute.present (w.slot n).uri ≠ none) : (g.run w es).slot n = w.slot n := by
  induction es generalizing w with
  | nil => rfl
  | cons c es ih =>
    have first : (g.after w c).slot n = w.slot n := by
      refine slot_after old nobody fun q saves => ?_
      have takes := saves.takes
      rw [SavedRequest.takes, unforced, Bool.or_false, Option.isNone_iff_eq_none] at takes
      exact full takes
    rw [run_cons, ih (old.trans_le (after_length w c)) (not_holds_after old nobody c)
      (first ▸ full), first]

/-- A request is saved in a session that is there afterwards. -/
theorem lt_of_saves (named : w.store.Named) (h : Saves g w c n q) :
    n < (g.after w c).store.sessions.length := by
  obtain ⟨mandatory, channel, rfl, reaches⟩ := h.call
  obtain ⟨b, taken, -, -, -, hs⟩ := exists_of_reaches named h.other reaches
  exact SessionStore.lt_of_session? hs

/-- **The slot of a session holds the request that was saved last in it,** as long as nobody logged
in. -/
theorem LastSaved.slot (named : w.store.Named) (h : LastSaved g w es n q) :
    q.slot? = some ((g.run w es).slot n) := by
  obtain ⟨pre, c, post, rfl, saves, quiet⟩ := h
  have named := named_run (g := g) named pre
  have nobody : ∀ result, ¬ (g.after (g.run w pre) c).Holds n result := by
    obtain ⟨mandatory, channel, rfl, reaches⟩ := saves.call
    exact not_holds_of_reaches named saves.other reaches
  rw [run_append, run_cons, slot_of_unsaved (lt_of_saves named saves) nobody quiet]
  exact saves.slot named

/-! ## What is filed in a session -/

end Gate

/-- A session files what it saves: its slot is empty or was written for one request, the destination
is the saved address, and there is none beside a login. -/
structure Session.Filed (s : Session) : Prop where
  slot : s.slot = {} ∨ ∃ q : Request, q.slot? = some s.slot
  destination : ∀ d, s.destination = some d → s.uri = some d
  login : s.authenticated = none ∨ ∃ r, s.authenticated = some (.result r)
  loggedIn : s.authenticated ≠ none → s.destination = none

namespace Session

variable {s after : Session}

/-- An empty session has no login and no saved request. -/
theorem filed_empty (id : String) : Filed { id } :=
  ⟨.inl rfl, nofun, .inl rfl, fun login => absurd rfl login⟩

/-- A session that loses its login stays filed. -/
theorem Filed.forget (h : s.Filed) : s.forget.Filed :=
  ⟨h.slot, h.destination, .inl rfl, fun login => absurd rfl login⟩

/-- A session whose saved request is put back stays filed, if it holds a login. -/
theorem Filed.drop (h : s.Filed) (login : s.authenticated ≠ none) :
    (SavedRequest.drop s).Filed := by
  refine ⟨.inl rfl, fun d held => ?_, h.login, h.loggedIn⟩
  have none : s.destination = none := h.loggedIn login
  exact absurd (none.symm.trans held) nofun

/-- A session without a login that takes a request stays filed: what it has is that request. -/
theorem Filed.save {always : Bool} {q : Request} (h : s.Filed) (nobody : s.authenticated = none)
    (save : SavedRequest.save always q s = .ok after) : after.Filed := by
  have login : after.authenticated = none := (SavedRequest.save_keeps save).2.1.trans nobody
  obtain ⟨-, written, destination⟩ | ⟨-, rfl⟩ := SavedRequest.slot_of_save save
  · refine ⟨.inr ⟨q, written⟩, fun d held => ?_, .inl login, fun held => absurd login held⟩
    obtain ⟨method, -, slot⟩ := Option.map_eq_some_iff.1 written
    rw [destination] at held
    exact (congrArg Slot.uri slot).symm.trans held
  · exact h

/-- A session that is given a token stays filed. -/
theorem Filed.ensure (h : s.Filed) (tokens : Supply) : (Csrf.ensure tokens s).session.Filed := by
  unfold Csrf.ensure
  split
  · exact h
  · exact ⟨h.slot, h.destination, h.login, h.loggedIn⟩

/-- The session that a login goes on in stays filed, with the saved request of the old one. -/
theorem Filed.signIn (h : s.Filed) (id : String) (r : AuthResult) :
    (SavedRequest.arrive ((s.withId id).cache r)).Filed :=
  ⟨h.slot, nofun, .inr ⟨r, rfl⟩, fun _ => rfl⟩

end Session

/-- Every session files what it saves. -/
def World.Filed (w : World) : Prop :=
  ∀ n s, w.store.session? n = some s → s.Filed

/-- A saved request is empty, or is all that is kept of one request. -/
theorem World.Filed.slot {w : World} (filed : w.Filed) (n : Serial) :
    w.slot n = {} ∨ ∃ q : Request, q.slot? = some (w.slot n) := by
  cases hs : w.store.session? n with
  | none => exact .inl (World.slot_of_length_le (List.getElem?_eq_none_iff.1 hs))
  | some s =>
    rw [World.slot_of_session? hs]
    exact (filed n s hs).slot

namespace Gate

variable {g : Gate} {w : World} {s : Session}

/-- What a call leaves of a session is filed, if all sessions were. -/
theorem Leaves.filed {e : Errand} {q : Submission} {channel : Channel}
    {r : Except Fault (Option Outcome)} {m : Serial} (h : Leaves g w e q channel r m s)
    (filed : w.Filed) : s.Filed := by
  cases h with
  | kept old => exact filed m _ old
  | forgotten old => exact (filed m _ old).forget
  | restored old login =>
    refine (filed m _ old).drop fun nobody => ?_
    rw [nobody] at login
    cases login
  | @challenged a b after challenging old unheld save =>
    have before := filed m a old
    obtain ⟨rfl, empty⟩ | rfl := unheld
    · exact (before.save (Session.authenticated_eq_none before.login empty) save).ensure _
    · exact (before.forget.save rfl save).ensure _
  | begun _ shape => exact absurd shape q.wide?_ne_none
  | blank new id => exact Session.filed_empty id
  | opened challenging new save => exact ((Session.filed_empty _).save rfl save).ensure _
  | renewed signsIn call new next old => exact (filed _ _ old).signIn _ _

/-- No event mixes what is saved of two requests. -/
theorem filed_after (filed : w.Filed) (c : Event) : (g.after w c).Filed :=
  sessions_after filed (fun h => h.filed filed) c

/-- After any run from an empty store every session files what it saves. -/
theorem filed_run (fresh : w.Fresh) (es : List Event) : (g.run w es).Filed :=
  run_of_after (P := World.Filed) (fun _ c h => filed_after h c) (sessions_of_fresh fresh) es

end Gate
end LoginGate
