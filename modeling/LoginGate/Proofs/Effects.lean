/-
# What a call leaves

`Leaves` lists what a call can make of a session; a login in a session is written by one constructor
alone, and so is a token.

| constructor | the session |
| --- | --- |
| `kept` | is as it was |
| `forgotten` | lost its login |
| `restored` | lost its saved request, which is put back |
| `challenged` | took the request and has a token |
| `begun` | took the address of a request whose method is no text, or is new and took it |
| `blank` | is new and empty |
| `opened` | is new, took the request and has a token |
| `renewed` | is new and goes on where another one stopped, logged in |
-/

import LoginGate.Proofs.Evolution

namespace LoginGate

namespace SessionStore

variable {s : SessionStore} {n m : Serial} {a : Session}

/-- A session after one was changed is another one as it was, or the changed one. -/
theorem of_session?_modify {f : Session → Session} (h : (s.modify n f).session? m = some a) :
    s.session? m = some a ∧ m ≠ n ∨ m = n ∧ ∃ b, s.session? n = some b ∧ a = f b := by
  simp only [session?, modify, List.getElem?_modify] at h ⊢
  obtain ⟨b, hb, rfl⟩ := Option.map_eq_some_iff.1 h
  by_cases he : n = m
  · subst he
    exact .inr ⟨rfl, b, hb, by simp⟩
  · exact .inl ⟨by simpa [he] using hb, Ne.symm he⟩

/-- The session that was changed. -/
theorem session?_modify_self {f : Session → Session} (h : s.session? n = some a) :
    (s.modify n f).session? n = some (f a) := by
  rw [session?] at h
  rw [session?, modify, List.getElem?_modify_eq, h]
  rfl

/-- A session after one was issued is one of those before, or the new one. -/
theorem of_session?_append {t : SessionStore} {b : Session}
    (sessions : t.sessions = s.sessions ++ [b]) (h : t.session? m = some a) :
    s.session? m = some a ∨ m = s.sessions.length ∧ a = b := by
  rw [session?, sessions] at h
  obtain hlt | hle := Nat.lt_or_ge m s.sessions.length
  · rw [List.getElem?_append_left hlt] at h
    exact .inl h
  · rw [List.getElem?_append_right hle, List.getElem?_singleton] at h
    split at h
    · rename_i last
      exact .inr ⟨Nat.le_antisymm (Nat.sub_eq_zero_iff_le.1 last) hle, (Option.some.inj h).symm⟩
    · cases h

/-- A session that was there before another one was issued stays as it was. -/
theorem session?_of_append {t : SessionStore} {b : Session}
    (sessions : t.sessions = s.sessions ++ [b]) (old : m < s.sessions.length)
    (h : t.session? m = some a) : s.session? m = some a := by
  obtain h | ⟨new, -⟩ := of_session?_append sessions h
  · exact h
  · exact absurd new old.ne

/-- A session stands at a serial below their number. -/
theorem lt_of_session? (h : s.session? m = some a) : m < s.sessions.length :=
  (List.getElem?_eq_some_iff.1 h).1

/-- Changing the session issued last changes nothing but it. -/
theorem modify_last {t : SessionStore} {b : Session} (sessions : t.sessions = s.sessions ++ [b])
    (f : Session → Session) : (t.modify s.sessions.length f).sessions = s.sessions ++ [f b] := by
  simp [modify, sessions, List.modify_eq_take_drop]

/-- Stores with the same sessions have the same one at each serial. -/
theorem session?_of_sessions {t : SessionStore} (h : t.sessions = s.sessions) (m : Serial) :
    t.session? m = s.session? m := by
  rw [session?, session?, h]

end SessionStore

/-- Where nothing but a login is ever cached, a session without one has an empty cache. -/
theorem Session.authenticated_eq_none {s : Session}
    (h : s.authenticated = none ∨ ∃ r, s.authenticated = some (.result r))
    (empty : Attribute.present s.authenticated = none) : s.authenticated = none := by
  obtain none | ⟨r, login⟩ := h
  · exact none
  · rw [login] at empty
    cases empty

/-- A state that is accepted is the token of its session. -/
theorem Csrf.eq_of_accepts? {s : Session} {state : Option String}
    (h : accepts? s state = some true) :
    ∃ token, token? s = some (.text token) ∧ state = some token := by
  unfold accepts? at h
  split at h
  · rename_i token text held
    obtain ⟨t, shown, same⟩ := Option.map_eq_some_iff.1 h
    obtain rfl := Attribute.eq_text_of_text? shown
    exact ⟨t, held, by simpa using (eq_of_beq same).symm⟩
  · cases h

namespace World

/-- The live session that a request names. -/
def live? (w : World) (q : Request) : Option Serial :=
  (q.sessionId.filter fun id => !id.isEmpty).bind (w.store.find? w.now)

/-- The session that a challenge of a request is kept in: the live one that it names, else the next
one to be issued. -/
def sessionFor (w : World) (q : Request) : Serial :=
  (w.live? q).getD w.store.sessions.length

/-- A request names a live session where its id is not empty and finds one. -/
theorem live?_eq_some {w : World} {q : Request} {n : Serial} :
    w.live? q = some n ↔
      ∃ id, q.sessionId = some id ∧ id ≠ "" ∧ w.store.find? w.now id = some n := by
  simp [live?, Option.bind_eq_some_iff, Option.filter_eq_some_iff, and_assoc]

end World

/-- A fault of a challenge that comes after its request was saved, while the redirect is made or
sent. -/
def Fault.isLate : Fault → Bool
  | .channel _ | .endpointShape | .tokenShape => true
  | _ => false

namespace Gate

open Step (Finds)

variable {g : Gate} {v u w : Visit} {n : Serial} {session : Option Serial}
  {r : Except Fault Outcome}

/-- The session that is found is the live one that the request names. -/
theorem live?_of_finds (h : Finds v (.ok session) u) : v.world.live? v.request = session := by
  generalize hr : (Except.ok session : Except Fault (Option Serial)) = found at h
  cases h with
  | nobody none =>
    obtain rfl := Except.ok.inj hr
    cases live : v.world.live? v.request with
    | none => rfl
    | some n =>
      obtain ⟨id, named, given, found⟩ := World.live?_eq_some.1 live
      have gone := (none id named).resolve_left given
      obtain done | ⟨fault, done⟩ := SessionStore.get_of_find? found <;> simp [done] at gone
  | found named given found =>
    obtain rfl := Except.ok.inj hr
    exact World.live?_eq_some.2
      ⟨_, named, given, SessionStore.find?_of_get (congrArg Prod.fst found)⟩
  | broken => cases hr

/-- A callback that signs a browser in. -/
structure SignIn where
  /-- The session that the callback names, and the one that it is renewed into. -/
  session : Serial
  next : Serial
  /-- The ids of the two sessions. -/
  oldId : String
  newId : String
  code : String
  token : String
  result : AuthResult

/-- A callback with a code signs in: the state that came with it is the token of its session, the
code logs somebody in, and the session is renewed. -/
structure SignIn.At (x : SignIn) (g : Gate) (w : World) (q : Request) : Prop where
  callback : isCallback q.uri = true
  named : q.sessionId = some x.oldId
  found : (w.store.get w.now x.oldId).1 = .ok (some x.session)
  code : q.parameter "code" = some x.code
  state : q.parameter "state" = some x.token
  token : (w.store.session? x.session).bind Csrf.token? = some (.text x.token)
  login : (g.service.login w.users w.wall w.replies
    { code := x.code, redirectUri := q.callbackUrl }).result = .ok (some x.result.identity)
  renewal : ((w.store.get w.now x.oldId).2.renew w.now x.session).result = .ok x.next
  newId : ((w.store.get w.now x.oldId).2.renew w.now x.session).store.idOf x.next = x.newId

/-- A challenge that was sent, or that broke off on the way. -/
structure Challenging (e : Errand) (q : Request) (channel : Channel)
    (r : Except Fault (Option Outcome)) : Prop where
  call : ∃ mandatory, e = .validate mandatory
  other : isCallback q.uri = false
  sendable : channel.isDeferred = false
  result : r = .ok (some .challenged) ∨ ∃ fault, r = .error fault

/-- A challenge that came as far as to save its request in the session `m`, or to find that one is
saved there. -/
structure Reaches (w : World) (q : Request) (r : Except Fault (Option Outcome)) (m : Serial) :
    Prop where
  cookie : q.sessionFromUrl = false
  session : m = w.sessionFor q
  result : r = .ok (some .challenged) ∨ ∃ fault, r = .error fault ∧ fault.isLate = true

/-- What a call leaves of the session `m`. -/
inductive Leaves (g : Gate) (w : World) (e : Errand) (q : Request) (channel : Channel)
    (r : Except Fault (Option Outcome)) (m : Serial) : Session → Prop
  | kept {a : Session} (old : w.store.session? m = some a) : Leaves g w e q channel r m a
  | forgotten {a : Session} (old : w.store.session? m = some a) :
      Leaves g w e q channel r m a.forget
  | restored {a : Session} {result : AuthResult} (old : w.store.session? m = some a)
      (login : Attribute.present a.authenticated = some (.result result)) :
      Leaves g w e q channel r m (SavedRequest.drop a)
  | challenged {a b after : Session} (challenging : Challenging e q channel r)
      (old : w.store.session? m = some a)
      (unheld : b = a ∧ Attribute.present a.authenticated = none ∨ b = a.forget)
      (save : SavedRequest.save g.settings.alwaysSave q b = .ok after)
      (reaches : Reaches w q r m) :
      Leaves g w e q channel r m (Csrf.ensure w.tokens after).session
  | begun {b : Session} (challenging : Challenging e q channel r) (shape : q.method.wide? = none)
      (source : (∃ a, w.store.session? m = some a ∧
          (b = a ∧ Attribute.present a.authenticated = none ∨ b = a.forget)) ∨
        m = w.store.sessions.length ∧ ∃ id, b = { id }) :
      Leaves g w e q channel r m { b with uri := some (.text q.url) }
  | blank (new : m = w.store.sessions.length) (id : String) : Leaves g w e q channel r m { id }
  | opened {id : String} {sessionId : Option String} {after : Session}
      (challenging : Challenging e q channel r) (new : m = w.store.sessions.length)
      (save : SavedRequest.save g.settings.alwaysSave { q with sessionId } { id } = .ok after)
      (reaches : Reaches w q r m) :
      Leaves g w e q channel r m (Csrf.ensure w.tokens after).session
  | renewed {a : Session} {x : SignIn} (signsIn : x.At g w q)
      (call : ∃ mandatory, e = .validate mandatory) (new : m = w.store.sessions.length)
      (next : m = x.next) (old : w.store.session? x.session = some a) :
      Leaves g w e q channel r m (SavedRequest.arrive ((a.withId x.newId).cache x.result))

variable {m : Serial} {a b : Session} {mandatory : Bool}

/-- A redirect to the provider is a challenge, or breaks off after the session was written. -/
theorem Sends.result (h : Sends g i v r w) :
    r = .ok .challenged ∨ ∃ fault, r = .error fault ∧ fault.isLate = true := by
  cases h with
  | tokenless => exact .inr ⟨_, rfl, rfl⟩
  | unaddressed => exact .inr ⟨_, rfl, rfl⟩
  | sent _ _ ends =>
    cases ends with
    | taken => exact .inl rfl
    | failed => exact .inr ⟨_, rfl, rfl⟩

/-- A challenge ends as one, or breaks off. -/
theorem Challenges.result (h : Challenges g n v r w) :
    r = .ok .challenged ∨ ∃ fault, r = .error fault := by
  cases h with
  | unsaved => exact .inr ⟨_, rfl⟩
  | saved _ _ _ sends => exact sends.result.imp_right fun ⟨fault, h, _⟩ => ⟨fault, h⟩

/-- A challenge changes its own session alone: it saves the request and makes a token, or breaks off
after the address. -/
theorem Challenges.of_session? (h : Challenges g n v r w)
    (hm : w.world.store.session? m = some a) :
    v.world.store.session? m = some a ∨
      m = n ∧ ∃ b, v.world.store.session? n = some b ∧
        (v.request.method.wide? = none ∧ a = { b with uri := some (.text v.request.url) } ∨
          (r = .ok .challenged ∨ ∃ fault, r = .error fault ∧ fault.isLate = true) ∧
          ∃ after, SavedRequest.save g.settings.alwaysSave v.request b = .ok after ∧
            a = (Csrf.ensure v.world.tokens after).session) := by
  cases h with
  | unsaved save =>
    obtain ⟨shape, rfl⟩ := SavedRequest.save_eq_error save
    obtain ⟨hm, -⟩ | ⟨rfl, b, hb, rfl⟩ := SessionStore.of_session?_modify hm
    · exact .inl hm
    · rw [Visit.session_of_session? hb]
      exact .inr ⟨rfl, b, hb, .inl ⟨shape, rfl⟩⟩
  | @saved taken u w i r save left issue sends =>
    subst left issue
    rw [sends.world_eq] at hm
    obtain ⟨hm, ne⟩ | ⟨rfl, c, hc, rfl⟩ := SessionStore.of_session?_modify hm
    · obtain ⟨hm, -⟩ | ⟨rfl, -⟩ := SessionStore.of_session?_modify hm
      · exact .inl hm
      · exact absurd rfl ne
    · obtain ⟨-, ne⟩ | ⟨-, b, hb, rfl⟩ := SessionStore.of_session?_modify hc
      · exact absurd rfl ne
      · rw [Visit.session_of_session? hb] at save
        refine .inr ⟨rfl, b, hb, .inr ⟨sends.result, c, save, ?_⟩⟩
        rw [Visit.session_of_session? hc]
        rfl

/-- Letting go of a login changes its own session alone. -/
theorem Unheld.of_session? (h : Unheld g v (some n) u) (hm : u.world.store.session? m = some b) :
    v.world.store.session? m = some b ∧ (m = n → Attribute.present b.authenticated = none) ∨
      m = n ∧ ∃ a, v.world.store.session? n = some a ∧ b = a.forget := by
  cases h with
  | empty h =>
    refine .inl ⟨hm, fun same => ?_⟩
    subst same
    rwa [Visit.session_of_session? hm] at h
  | revoked =>
    obtain ⟨hm, ne⟩ | h := SessionStore.of_session?_modify hm
    · exact .inl ⟨hm, fun same => absurd same ne⟩
    · exact .inr h

/-- A challenge is sent or breaks off. -/
theorem challenging_of_challenges (sendable : v.channel.isDeferred = false)
    (other : isCallback v.request.uri = false) (h : Challenges g n u r w) :
    Challenging (.validate mandatory) v.request v.channel (r.map some) := by
  refine ⟨⟨mandatory, rfl⟩, other, sendable, ?_⟩
  obtain rfl | ⟨fault, rfl⟩ := h.result
  · exact .inl rfl
  · exact .inr ⟨fault, rfl⟩

/-- A call that challenges, or breaks off late, reaches the session that its request is kept in. -/
theorem reaches_of_result (cookie : v.request.sessionFromUrl = false)
    (own : m = v.world.sessionFor v.request)
    (result : r = .ok .challenged ∨ ∃ fault, r = .error fault ∧ fault.isLate = true) :
    Reaches v.world v.request (r.map some) m := by
  refine ⟨cookie, own, ?_⟩
  obtain rfl | ⟨fault, rfl, late⟩ := result
  · exact .inl rfl
  · exact .inr ⟨fault, rfl, late⟩

variable {e : Errand} {q : Request} {channel : Channel} {o : Except Fault (Option Outcome)}
  {s t : SessionStore}

/-- A store with an empty session more, its leases aside. -/
theorem leaves_of_append {x : World} {id : String} (same : s.sessions = x.store.sessions)
    (sessions : t.sessions = s.sessions ++ [({ id } : Session)]) (hm : t.session? m = some a) :
    Leaves g x e q channel o m a := by
  obtain hm | ⟨new, rfl⟩ := SessionStore.of_session?_append sessions hm
  · exact .kept (SessionStore.session?_of_sessions same m ▸ hm)
  · exact .blank (same ▸ new) id

/-- What a request without a login held makes of a session, by constructor. -/
theorem Unheld.leaves (same : s.sessions = v.world.store.sessions)
    (h : Unheld g (v.withStore s) session u) (hm : u.world.store.session? m = some a) :
    Leaves g v.world e q channel o m a := by
  have old : ∀ m, s.session? m = v.world.store.session? m := SessionStore.session?_of_sessions same
  cases session with
  | none =>
    cases h
    exact .kept (old m ▸ hm)
  | some n =>
    obtain ⟨hm, -⟩ | ⟨rfl, b, hb, rfl⟩ := h.of_session? hm
    · exact .kept (old m ▸ hm)
    · exact .forgotten (old m ▸ hb)

/-- What a request for a page makes of a session, by constructor. -/
theorem Protects.leaves (same : s.sessions = v.world.store.sessions)
    (other : isCallback v.request.uri = false) (cookie : v.request.sessionFromUrl = false)
    (live : v.world.live? v.request = session) (h : Protects g (v.withStore s) session r w)
    (hm : w.world.store.session? m = some a) :
    Leaves g v.world (.validate mandatory) v.request v.channel (r.map some) m a := by
  have old : ∀ m, s.session? m = v.world.store.session? m := SessionStore.session?_of_sessions same
  cases h with
  | @held n result h valid log =>
    have hm : (replayed n (v.withStore s)).world.store.session? m = some a := hm
    unfold replayed at hm
    split at hm
    · exact .kept (old m ▸ hm)
    · obtain ⟨hm, -⟩ | ⟨rfl, b, hb, rfl⟩ := SessionStore.of_session?_modify hm
      · exact .kept (old m ▸ hm)
      · rw [Visit.session_of_session? hb] at h
        exact .restored (old m ▸ hb) h
  | unreadable => exact .kept (old m ▸ hm)
  | @passed session u unheld =>
    have hm : u.world.store.session? m = some a := hm
    exact unheld.leaves same hm
  | @challenged n u w r unheld sendable challenges =>
    have request : u.request = v.request := by cases unheld <;> rfl
    have tokens : u.world.tokens = v.world.tokens := by cases unheld <;> rfl
    have challenging : Challenging (.validate mandatory) v.request v.channel (r.map some) :=
      challenging_of_challenges sendable other challenges
    obtain hm | ⟨rfl, b, hb, ⟨shape, rfl⟩ | ⟨result, taken, save, rfl⟩⟩ := challenges.of_session? hm
    · exact unheld.leaves same hm
    · rw [request] at shape ⊢
      obtain ⟨hb, empty⟩ | ⟨-, c, hc, rfl⟩ := unheld.of_session? hb
      · exact .begun challenging shape (.inl ⟨b, old m ▸ hb, .inl ⟨rfl, empty rfl⟩⟩)
      · exact .begun challenging shape (.inl ⟨c, old m ▸ hc, .inr rfl⟩)
    · have reaches : Reaches v.world v.request (r.map some) m :=
        reaches_of_result cookie (by rw [World.sessionFor, live, Option.getD_some]) result
      rw [request] at save
      rw [tokens]
      obtain ⟨hb, empty⟩ | ⟨-, c, hc, rfl⟩ := unheld.of_session? hb
      · exact .challenged challenging (old m ▸ hb) (.inl ⟨rfl, empty rfl⟩) save reaches
      · exact .challenged challenging (old m ▸ hc) (.inr rfl) save reaches
  | unissued sendable issue log =>
    obtain ⟨result, -⟩ | ⟨-, sessions⟩ := SessionStore.create_issues s v.world.now
    · exact absurd (issue.symm.trans result) (by simp)
    · exact leaves_of_append same sessions hm
  | started sendable issue _ left challenges =>
    subst left
    obtain ⟨result, sessions⟩ | ⟨result, -⟩ := SessionStore.create_issues s v.world.now
    · obtain rfl := Except.ok.inj (issue.symm.trans result)
      have challenging : Challenging (.validate mandatory) v.request v.channel (r.map some) :=
        challenging_of_challenges sendable other challenges
      obtain hm | ⟨rfl, b, hb, taking⟩ := challenges.of_session? hm
      · exact leaves_of_append same sessions hm
      · -- The session that takes the request is the new one, which was empty.
        obtain hm | ⟨new, rfl⟩ := SessionStore.of_session?_append sessions hb
        · exact absurd (SessionStore.lt_of_session? hm) (Nat.lt_irrefl _)
        obtain ⟨shape, rfl⟩ | ⟨result, taken, save, rfl⟩ := taking
        · exact .begun challenging shape (.inr ⟨same ▸ rfl, _, rfl⟩)
        · have own : s.sessions.length = v.world.sessionFor v.request := by
            rw [World.sessionFor, live, Option.getD_none, same]
          exact .opened challenging (same ▸ rfl) save (reaches_of_result cookie own result)
    · exact absurd (issue.symm.trans result) (by simp)

/-- Looking for a session leaves what every session holds. -/
theorem finds_session? {x : Except Fault (Option Serial)} (h : Finds v x u) (m : Serial) :
    u.world.store.session? m = v.world.store.session? m := by
  obtain ⟨s, rfl, same, -⟩ := h.exists_store
  exact SessionStore.session?_of_sessions same m

/-- Looking for a session leaves what is read of each of them. -/
theorem finds_session {x : Except Fault (Option Serial)} (h : Finds v x u) (n : Serial) :
    u.session n = v.session n := by
  rw [Visit.session, finds_session? h, Visit.session]

/-- **A login that a callback leads to is a sign-in**, which leaves the session that it was renewed
into logged in. -/
theorem signsIn_of_redeemed {s : SessionStore} {id code : String} {result : AuthResult}
    (callback : isCallback v.request.uri = true) (named : v.request.sessionId = some id)
    (found : v.world.store.get v.world.now id = (.ok (some n), s))
    (given : v.request.parameter "code" = some code)
    (state : Csrf.accepts? (v.session n) (v.request.parameter "state") = some true)
    (login : LogsIn g { code, redirectUri := v.request.callbackUrl } n (v.withStore s)
      (.ok (some (result, m))) u) :
    ∃ x : SignIn, x.At g v.world v.request ∧ x.session = n ∧ x.next = m ∧ x.result = result ∧
      m = v.world.store.sessions.length ∧
      u.world.store.sessions = v.world.store.sessions ++
        [((v.session n).withId x.newId).cache result] ∧
      u.request = { v.request with sessionId := some x.newId } ∧ u.channel = v.channel := by
  obtain ⟨token, held, same⟩ := Csrf.eq_of_accepts? state
  have sessions := SessionStore.sessions_get v.world.store v.world.now id
  rw [found] at sessions
  obtain ⟨a, ha⟩ : ∃ a, v.world.store.session? n = some a := by
    cases ha : v.world.store.session? n with
    | none => simp [Visit.session, ha, Csrf.token?, Attribute.truthy] at held
    | some a => exact ⟨a, rfl⟩
  rw [Visit.session_of_session? ha] at held ⊢
  cases login with
  | @renewed identity seconds m done time issue log =>
    cases SessionStore.renew_issues s v.world.now n with
    | refused refused => exact absurd (issue.symm.trans refused) (by simp)
    | @issued newId number last =>
      obtain rfl := Except.ok.inj (issue.symm.trans number)
      rw [SessionStore.session?_of_sessions sessions, ha, Option.getD_some] at last
      have idOf : (s.renew v.world.now n).store.idOf s.sessions.length = newId := by
        simp [SessionStore.idOf, SessionStore.session?, last, Session.withId]
      let x : SignIn :=
        { session := n, next := s.sessions.length, oldId := id, newId, code, token
          result := resultOf identity
            (g.attemptOf { code, redirectUri := v.request.callbackUrl } (v.withStore s)).credentials
            seconds }
      have signsIn : x.At g v.world v.request :=
        { callback, named, found := by rw [found], code := given, state := same
          token := by rw [ha]; exact held
          login := done
          renewal := by rw [found]; exact number
          newId := by rw [found]; exact idOf }
      refine ⟨x, signsIn, rfl, rfl, rfl, by rw [sessions], ?_, ?_, rfl⟩
      · rw [← sessions]
        exact SessionStore.modify_last last _
      · exact congrArg (fun i => { v.request with sessionId := some i }) idOf

/-- What a login that came to nothing makes of a session: what it was, or a new one that is
empty. -/
theorem LogsIn.leaves {c : Credentials} {r : Except Fault (Option (AuthResult × Serial))}
    (same : s.sessions = v.world.store.sessions) (h : LogsIn g c n (v.withStore s) r w)
    (nobody : ∀ x, r ≠ .ok (some x)) (hm : w.world.store.session? m = some a) :
    Leaves g v.world e q channel o m a := by
  have old : ∀ m, s.session? m = v.world.store.session? m := SessionStore.session?_of_sessions same
  cases h with
  | broken => exact .kept (old m ▸ hm)
  | refused => exact .kept (old m ▸ hm)
  | untimed => exact .kept (old m ▸ hm)
  | unissued _ _ issue =>
    obtain ⟨result, -⟩ | ⟨-, sessions⟩ := SessionStore.renew_issues s v.world.now n
    · exact absurd (issue.symm.trans result) (by simp)
    · exact leaves_of_append same sessions hm
  | renewed => exact absurd rfl (nobody _)

/-- What redeeming a code makes of a session, by constructor. -/
theorem Redeems.leaves {id code : String} (callback : isCallback v.request.uri = true)
    (named : v.request.sessionId = some id)
    (found : v.world.store.get v.world.now id = (.ok (some n), s))
    (given : v.request.parameter "code" = some code)
    (state : Csrf.accepts? (v.session n) (v.request.parameter "state") = some true)
    (h : Redeems g code n (v.withStore s) r w) (hm : w.world.store.session? m = some a) :
    Leaves g v.world (.validate mandatory) v.request v.channel o m a := by
  have same : s.sessions = v.world.store.sessions := by
    have sessions := SessionStore.sessions_get v.world.store v.world.now id
    rwa [found] at sessions
  cases h with
  | broken login => exact login.leaves same (by simp) hm
  | refused login ends =>
    rw [ends.world_eq] at hm
    exact login.leaves same (by simp) hm
  | redeemed login ends =>
    obtain ⟨x, signsIn, rfl, next, rfl, new, sessions, -⟩ :=
      signsIn_of_redeemed callback named found given state login
    rw [ends.world_eq] at hm
    have last := SessionStore.modify_last sessions SavedRequest.arrive
    rw [← new] at last
    obtain hm | ⟨rfl, rfl⟩ := SessionStore.of_session?_append last hm
    · exact .kept hm
    · obtain ⟨b, hb, -⟩ := Option.bind_eq_some_iff.1 signsIn.token
      rw [Visit.session_of_session? hb]
      exact .renewed signsIn ⟨mandatory, rfl⟩ rfl (new.symm.trans next.symm) hb

/-- What a callback makes of a session, by constructor. -/
theorem Answers.leaves {x : Option Serial} (finds : Finds v (.ok x) u)
    (callback : isCallback v.request.uri = true) (h : Answers g u x r w)
    (hm : w.world.store.session? m = some a) :
    Leaves g v.world (.validate mandatory) v.request v.channel (r.map some) m a := by
  cases h with
  | noCode _ ends =>
    rw [ends.world_eq, finds_session? finds] at hm
    exact .kept hm
  | noSession _ ends =>
    rw [ends.world_eq, finds_session? finds] at hm
    exact .kept hm
  | unreadable =>
    rw [finds_session? finds] at hm
    exact .kept hm
  | wrongState _ _ ends =>
    rw [ends.world_eq, finds_session? finds] at hm
    exact .kept hm
  | redeemed given state redeems =>
    rw [finds_session finds] at state
    cases finds with
    | found named _ found => exact redeems.leaves callback named found given state hm

/-- What a decision makes of a session, by constructor. -/
theorem Decides.leaves (h : Decides g mandatory v r w) (hm : w.world.store.session? m = some a) :
    Leaves g v.world (.validate mandatory) v.request v.channel (r.map some) m a := by
  cases h with
  | deferred => exact .kept hm
  | urlSession _ _ ends =>
    rw [ends.world_eq] at hm
    exact .kept hm
  | unfound _ _ finds =>
    obtain ⟨s, rfl, same, -⟩ := finds.exists_store
    exact .kept (SessionStore.session?_of_sessions same m ▸ hm)
  | callback callback _ finds answers => exact answers.leaves finds callback hm
  | protect _ other cookie finds protects =>
    have live := live?_of_finds finds
    obtain ⟨s, rfl, same, -⟩ := finds.exists_store
    exact protects.leaves same other cookie live hm

/-- **What a call makes of a session,** by constructor. -/
theorem Visits.leaves {e : Errand} {r : Except Fault (Option Outcome)} (h : Visits g v e r w)
    (hm : w.world.store.session? m = some a) :
    Leaves g v.world e v.request v.channel r m a := by
  cases h with
  | prepare h =>
    cases h with
    | unfound finds => exact .kept (finds_session? finds m ▸ hm)
    | found finds => exact .kept (finds_session? finds m ▸ hm)
  | validate h => exact h.leaves hm
  | resolve h =>
    cases h with
    | callback => exact .kept hm
    | decided other decides =>
      cases decides.leaves hm with
      | kept old => exact .kept old
      | forgotten old => exact .forgotten old
      | restored old login => exact .restored old login
      | challenged challenging => exact absurd challenging.sendable (by simp [Channel.isDeferred])
      | begun challenging => exact absurd challenging.sendable (by simp [Channel.isDeferred])
      | blank new id => exact .blank new id
      | opened challenging => exact absurd challenging.sendable (by simp [Channel.isDeferred])
      | renewed signsIn => exact absurd (other.symm.trans signsIn.callback) (by simp)
  | logout h =>
    cases h with
    | unfound finds => exact .kept (finds_session? finds m ▸ hm)
    | nobody finds => exact .kept (finds_session? finds m ▸ hm)
    | forgotten finds =>
      obtain ⟨hm, -⟩ | ⟨rfl, b, hb, rfl⟩ := SessionStore.of_session?_modify hm
      · exact .kept (finds_session? finds m ▸ hm)
      · exact .forgotten (finds_session? finds m ▸ hb)

/-- **Every session after a call** is what the call left of it in one of the listed ways. -/
theorem visit_leaves {w : World} {e : Errand} {q : Request} {channel : Channel}
    (hm : (g.visit w e q channel).2.world.store.session? m = some a) :
    Leaves g w e q channel (g.visit w e q channel).1 m a :=
  (visit_visits g w e q channel).leaves hm

/-- What every call leaves of the sessions, every event leaves. -/
theorem sessions_after {P : Session → Prop} {w : World}
    (start : ∀ n s, w.store.session? n = some s → P s)
    (leaves : ∀ {e} {q : Submission} {channel r n s}, Leaves g w e q channel r n s → P s)
    (c : Event) :
    ∀ n s, (g.after w c).store.session? n = some s → P s := by
  cases c with
  | call => exact fun n s hs => leaves (visit_leaves hs)
  | tick => exact start
  | wall => exact start
  | add => exact start
  | revoke => exact start

/-- There is no session yet in an empty store. -/
theorem sessions_of_fresh {P : Session → Prop} {w : World} (fresh : w.Fresh) :
    ∀ n s, w.store.session? n = some s → P s := by
  intro n s hs
  rw [SessionStore.session?, fresh.store_eq.1] at hs
  cases hs

/-! ## Sessions that a call leaves alone

Of the sessions issued before, a call changes the one alone that its request names. -/

/-- A request for a page leaves every session but its own. -/
theorem Protects.frame (old : m < v.world.store.sessions.length) (other : session ≠ some m)
    (h : Protects g v session r w) (hm : w.world.store.session? m = some a) :
    v.world.store.session? m = some a := by
  have unheld : ∀ {n : Serial} {u : Visit}, session = some n → Unheld g v (some n) u →
      u.world.store.session? m = some a → v.world.store.session? m = some a := by
    intro n u same unheld hm
    obtain ⟨hm, -⟩ | ⟨rfl, -⟩ := unheld.of_session? hm
    · exact hm
    · exact absurd same other
  cases h with
  | @held n =>
    have hm : (replayed n v).world.store.session? m = some a := hm
    unfold replayed at hm
    split at hm
    · exact hm
    · obtain ⟨hm, -⟩ | ⟨rfl, -⟩ := SessionStore.of_session?_modify hm
      · exact hm
      · exact absurd rfl other
  | unreadable => exact hm
  | @passed session u left =>
    have hm : u.world.store.session? m = some a := hm
    cases session with
    | none =>
      cases left
      exact hm
    | some n => exact unheld rfl left hm
  | challenged left _ challenges =>
    obtain hm | ⟨rfl, -⟩ := challenges.of_session? hm
    · exact unheld rfl left hm
    · exact absurd rfl other
  | unissued _ issue =>
    obtain ⟨result, -⟩ | ⟨-, sessions⟩ := v.world.store.create_issues v.world.now
    · exact absurd (issue.symm.trans result) nofun
    · exact SessionStore.session?_of_append sessions old hm
  | started _ issue _ left challenges =>
    subst left
    obtain ⟨result, sessions⟩ | ⟨result, -⟩ := v.world.store.create_issues v.world.now
    · obtain rfl := Except.ok.inj (issue.symm.trans result)
      obtain hm | ⟨rfl, -⟩ := challenges.of_session? hm
      · exact SessionStore.session?_of_append sessions old hm
      · exact absurd old (Nat.lt_irrefl _)
    · exact absurd (issue.symm.trans result) nofun

/-- A login leaves every session that was there before, its own included. -/
theorem LogsIn.frame {c : Credentials} {x : Except Fault (Option (AuthResult × Serial))}
    (old : m < v.world.store.sessions.length) (h : LogsIn g c n v x w)
    (hm : w.world.store.session? m = some a) : v.world.store.session? m = some a := by
  have issues := v.world.store.renew_issues v.world.now n
  cases h with
  | broken => exact hm
  | refused => exact hm
  | untimed => exact hm
  | unissued _ _ issue =>
    obtain ⟨result, -⟩ | ⟨-, sessions⟩ := issues
    · exact absurd (issue.symm.trans result) nofun
    · exact SessionStore.session?_of_append sessions old hm
  | renewed _ _ issue =>
    obtain ⟨result, sessions⟩ | ⟨result, -⟩ := issues
    · obtain rfl := Except.ok.inj (issue.symm.trans result)
      exact SessionStore.session?_of_append (SessionStore.modify_last sessions _) old hm
    · exact absurd (issue.symm.trans result) nofun

/-- The session that a login is renewed into is the next one. -/
theorem LogsIn.serial_eq {c : Credentials} {result : AuthResult}
    (h : LogsIn g c n v (.ok (some (result, m))) w) : m = v.world.store.sessions.length := by
  cases h with
  | renewed _ _ issue =>
    obtain ⟨number, -⟩ | ⟨refused, -⟩ := v.world.store.renew_issues v.world.now n
    · exact Except.ok.inj (issue.symm.trans number)
    · exact absurd (issue.symm.trans refused) nofun

/-- A callback leaves every session that was there before. -/
theorem Answers.frame (old : m < v.world.store.sessions.length) (h : Answers g v session r w)
    (hm : w.world.store.session? m = some a) : v.world.store.session? m = some a := by
  cases h with
  | noCode _ ends => rwa [ends.world_eq] at hm
  | noSession _ ends => rwa [ends.world_eq] at hm
  | unreadable => exact hm
  | wrongState _ _ ends => rwa [ends.world_eq] at hm
  | redeemed _ _ redeems =>
    cases redeems with
    | broken login => exact login.frame old hm
    | refused login ends =>
      rw [ends.world_eq] at hm
      exact login.frame old hm
    | redeemed login ends =>
      rw [ends.world_eq] at hm
      obtain ⟨hm, -⟩ | ⟨new, -⟩ := SessionStore.of_session?_modify hm
      · exact login.frame old hm
      · exact absurd (new.trans login.serial_eq) old.ne

/-- A decision leaves every session but the live one that the request names. -/
theorem Decides.frame (old : m < v.world.store.sessions.length)
    (other : v.world.live? v.request ≠ some m) (h : Decides g mandatory v r w)
    (hm : w.world.store.session? m = some a) : v.world.store.session? m = some a := by
  have found : ∀ {x : Option Serial} {u : Visit}, Finds v (.ok x) u →
      m < u.world.store.sessions.length := by
    intro x u finds
    obtain ⟨s, rfl, same, -⟩ := finds.exists_store
    exact same ▸ old
  cases h with
  | deferred => exact hm
  | urlSession _ _ ends => rwa [ends.world_eq] at hm
  | unfound _ _ finds => rwa [finds_session? finds] at hm
  | callback _ _ finds answers =>
    rw [← finds_session? finds]
    exact answers.frame (found finds) hm
  | protect _ _ _ finds protects =>
    rw [← finds_session? finds]
    exact protects.frame (found finds) (live?_of_finds finds ▸ other) hm

/-- **A call leaves every session but the live one that its request names.** -/
theorem Visits.frame {e : Errand} {o : Except Fault (Option Outcome)}
    (old : m < v.world.store.sessions.length) (other : v.world.live? v.request ≠ some m)
    (h : Visits g v e o w) (hm : w.world.store.session? m = some a) :
    v.world.store.session? m = some a := by
  cases h with
  | prepare h =>
    cases h with
    | unfound finds => exact finds_session? finds m ▸ hm
    | found finds => exact finds_session? finds m ▸ hm
  | validate h => exact h.frame old other hm
  | resolve h =>
    cases h with
    | callback => exact hm
    | decided _ decides =>
      exact Decides.frame (v := { v with channel := .deferred }) old other decides hm
  | logout h =>
    cases h with
    | unfound finds => exact finds_session? finds m ▸ hm
    | nobody finds => exact finds_session? finds m ▸ hm
    | forgotten finds =>
      obtain ⟨hm, -⟩ | ⟨rfl, -⟩ := SessionStore.of_session?_modify hm
      · exact finds_session? finds m ▸ hm
      · exact absurd (live?_of_finds finds) other

/-- **Of the sessions issued before a call** the one alone that the request names can change. -/
theorem visit_session?_of_ne {w : World} {e : Errand} {q : Request} {channel : Channel}
    (old : m < w.store.sessions.length) (other : w.live? q ≠ some m) :
    (g.visit w e q channel).2.world.store.session? m = w.store.session? m := by
  have later := old.trans_le (visit_evolves g w e q channel).store.length_le
  obtain ⟨a, ha⟩ : ∃ a, (g.visit w e q channel).2.world.store.session? m = some a :=
    ⟨_, List.getElem?_eq_getElem later⟩
  rw [ha]
  exact ((visit_visits g w e q channel).frame old other ha).symm

end Gate
end LoginGate
