/-
# A form that is submitted without a login is submitted after it

The body of a `POST` that is challenged is read as a form and saved in the session.  The session is
renewed by the callback and goes on with what it holds.  A `GET` of the same address then reaches
the application as the `POST`, with a body that is read as the same form; the one after that does
not.

| the browser | the session it has then |
| --- | --- |
| submits the form, and is challenged | holds the form and waits for a login |
| comes back with the state and a code | holds the form and the login |
| asks for the address | holds the login, the form is put back |
| asks for it again | the same, nothing is put back |

Between these requests whatever else may happen, as long as no request names the session.
-/

import LoginGate.Proofs.Addressed
import LoginGate.Proofs.Completion
import LoginGate.Proofs.Passage

namespace LoginGate

/-! ## Ids are not blank -/

/-- Nothing blank is drawn where nothing blank was given. -/
theorem Supply.not_gives_blank {s : Supply} (filled : "" ∉ s.given) : ¬ s.Gives "" := by
  rintro (given | ⟨n, -, blank⟩)
  · exact filled given
  · exact s.series.name_ne_empty n blank.symm

namespace SessionStore

variable {s : SessionStore} {now : Instant}

/-- No id is blank, neither of those issued nor of those to come. -/
structure Filled (s : SessionStore) : Prop where
  issued : "" ∉ s.issuedIds
  coming : ¬ s.ids.Gives ""

/-- A session that is issued is not issued under a blank id. -/
theorem Filled.issue (h : s.Filled) {t : SessionStore}
    (ids : t.ids = (s.ids.drawFree (s.liveIds now)).2)
    (issued : t.issuedIds = s.issuedIds ++ [(s.ids.drawFree (s.liveIds now)).1]) : t.Filled := by
  refine ⟨fun blank => ?_, fun blank => ?_⟩
  · rw [issued, List.mem_append, List.mem_singleton] at blank
    obtain old | drawn := blank
    · exact h.issued old
    · exact h.coming (drawn ▸ s.ids.gives_drawFree _)
  · rw [ids] at blank
    exact h.coming blank.of_drawFree

/-- The operations issue no blank id. -/
theorem filled_kept (now : Instant) : Kept Filled now where
  get {s} id h := by
    refine ⟨?_, ?_⟩
    · rw [issuedIds, sessions_get]
      exact h.issued
    · rw [ids_get]
      exact h.coming
  create {s} h := h.issue (s.ids_create now) (s.issuedIds_create now)
  renew {s} n h := h.issue (s.ids_renew now n) (s.issuedIds_renew now n)
  modify {s n f} same h := by
    have evolves : s.Evolves now (s.modify n f) := modify_evolves same
    refine ⟨?_, h.coming⟩
    have length : (s.modify n f).issuedIds.length = s.issuedIds.length := by
      simp [issuedIds, modify]
    rw [← evolves.ids.eq_of_length length.symm]
    exact h.issued

/-- The operations of the gate keep every lease under the id of its session. -/
theorem named_kept (now : Instant) : Kept Named now :=
  ⟨fun id h => h.evolves (get_evolves _ now id), fun h => h.evolves (create_evolves _ now),
    fun n h => h.evolves (renew_evolves _ now n),
    fun same h => h.evolves (show Evolves now _ _ from modify_evolves same)⟩

/-- Where no id to come is blank, none is issued yet. -/
theorem filled_of_make {ttl : Seconds} {capacity : Int} {ids : Supply}
    (made : make ttl capacity ids = .ok s) (filled : "" ∉ ids.given) : s.Filled := by
  have empty : s.sessions = [] := by
    unfold make at made
    split at made
    · cases made
    · rw [← Except.ok.inj made]
  refine ⟨?_, ?_⟩
  · rw [issuedIds, empty]
    exact List.not_mem_nil
  · rw [(pool_of_make made .pending).2.2]
    exact Supply.not_gives_blank filled

end SessionStore

/-! ## The session of a browser -/

/-- No call of a run names the session id. -/
def Silent (es : List Event) (id : String) : Prop :=
  ∀ e q channel, Event.call e q channel ∈ es → q.sessionId ≠ some id

/-- The session is found by its id, and once more right after that. -/
structure World.Lives (w : World) (id : String) (n : Serial) : Prop where
  given : id ≠ ""
  found : (w.store.get w.now id).1 = .ok (some n)
  again : ((w.store.get w.now id).2.get w.now id).1 = .ok (some n)

namespace Gate

variable {g : Gate} {w : World} {n : Serial} {a : Session} {es : List Event}

/-- A run issues no blank id. -/
theorem filled_run (h : w.store.Filled) (es : List Event) : (g.run w es).store.Filled :=
  run_of_after (P := fun w => w.store.Filled)
    (fun u c h => keeps_after (SessionStore.filled_kept u.now) h c) h es

/-- **A session that nobody names stays as it is.** -/
theorem session?_of_silent (named : w.store.Named) (there : w.store.session? n = some a)
    (silent : Silent es a.id) : (g.run w es).store.session? n = some a := by
  induction es generalizing w with
  | nil => exact there
  | cons c es ih =>
    refine ih (named_after named c) ?_ fun e q channel mem =>
      silent e q channel (List.mem_cons_of_mem c mem)
    cases c with
    | call e q channel =>
      have other : w.live? q ≠ some n := by
        intro live
        obtain ⟨id, names, -, found⟩ := World.live?_eq_some.1 live
        have own := (issuedIds_of_session? there).symm.trans (named.of_find? found)
        exact silent e q channel List.mem_cons_self (Option.some.inj own ▸ names)
      exact (visit_session?_of_ne (SessionStore.lt_of_session? there) other).trans there
    | tick => exact there
    | wall => exact there
    | add => exact there
    | revoke => exact there

end Gate

/-- The session holds a request and waits for a login with its token. -/
structure Session.Awaits (a : Session) (slot : Slot) (token : String) : Prop where
  slot : a.slot = slot
  token : Csrf.token? a = some (.text token)
  nobody : Attribute.present a.authenticated = none

/-- The slot of a form that was submitted to an address. -/
def Slot.ofForm (url : String) (f : Form) : Slot :=
  ⟨some (.wide url), some (.text "POST"), some (.form f)⟩

namespace Gate

open Step (Finds)

variable {g : Gate} {w : World} {v u : Visit} {n m : Serial} {a b : Session} {mandatory : Bool}
  {o : Outcome} {slot : Slot} {token : String}

/-- Looking for a session that lives finds it, and it lives on. -/
theorem finds_of_lives {id : String} {session : Option Serial} (lives : v.world.Lives id n)
    (named : v.request.sessionId = some id) (h : Finds v (.ok session) u) :
    session = some n ∧ u = v.withStore (v.world.store.get v.world.now id).2 := by
  have same := eq_of_finds h ⟨id, named, lives.given, lives.found⟩
  obtain rfl := Except.ok.inj same
  cases h with
  | found named' _ found =>
    obtain rfl := Option.some.inj (named.symm.trans named')
    exact ⟨rfl, by rw [found]⟩

/-- A request without a session that is sent somewhere, and needs a login, is challenged in a new
session, where it is saved. -/
theorem Decides.awaits (h : Decides g true v (.ok o) u) (sent : o.isSent = true)
    (nobody : v.request.sessionId = none) (cookie : v.request.sessionFromUrl = false)
    (other : isCallback v.request.uri = false)
    (page : g.settings.isErrorPage (some v.request.pathInContext) = false)
    (fresh : v.channel = .fresh) (filled : "" ∉ v.world.tokens.given)
    (written : v.request.slot? = some slot) :
    ∃ n a token url, u.world.store.session? n = some a ∧ a.Awaits slot token ∧
      u.request.sessionId = some a.id ∧ Challenge.url? g.provider v.request token = some url ∧
      u.channel = .buffered (some v.request.redirectStatus) (some (.wide url)) := by
  have sendable : v.channel.isDeferred = false := by rw [fresh]; rfl
  cases h with
  | deferred h => exact absurd (h.2.resolve_left nofun).1 (by simp [page])
  | urlSession _ url => exact absurd (url.symm.trans cookie) nofun
  | callback callback => exact absurd (callback.symm.trans other) nofun
  | protect _ _ _ finds protects =>
    cases finds with
    | found named => exact absurd (named.symm.trans nobody) nofun
    | nobody =>
      cases protects with
      | passed _ deferred => exact absurd (deferred.symm.trans sendable) nofun
      | @started n x _ _ _ issue _ left challenges =>
        obtain rfl | ⟨fault, broken⟩ :=
          challenges.result.imp_left fun same => Except.ok.inj same
        · have enters := enters_of_created sendable issue left
          obtain ⟨b, there, blank, empty⟩ := enters.session
          obtain ⟨id, request, issued⟩ := enters.request
          have last : n = v.world.store.sessions.length := by
            obtain ⟨number, -⟩ | ⟨refused, -⟩ := v.world.store.create_issues v.world.now
            · exact Except.ok.inj (issue.symm.trans number)
            · exact absurd (issue.symm.trans refused) nofun
          obtain ⟨token, url, held, kept, address, redirect⟩ :=
            challenges.sent (enters.tokens ▸ filled) there
          obtain ⟨taken, save, after⟩ := challenges.exists_saved nofun there
          have slots : taken.slot = slot := by
            rw [World.slot_of_length_le last.ge] at blank
            obtain ⟨-, same, -⟩ | ⟨full, -⟩ := SavedRequest.slot_of_save save
            · rw [request] at same
              exact Option.some.inj (same.symm.trans written)
            · rw [SavedRequest.takes_of_slot (t := { id := "" }) blank] at full
              cases full
          have own := (issuedIds_of_session? after).symm.trans
            (SessionStore.issued_mono challenges.evolves.store.ids issued)
          refine ⟨n, _, token, url, after, ⟨?_, ?_, ?_⟩, ?_, ?_, ?_⟩
          · rw [(Csrf.ensure_slot ..).1, slots]
          · exact (congrArg (Option.bind · Csrf.token?) after).symm.trans held
          · rw [(Csrf.ensure_keeps ..).2, (SavedRequest.save_keeps save).2.1]
            exact empty
          · rw [kept, request]
            exact own.symm
          · rw [request] at address
            exact address
          · rw [request, enters.channel, fresh] at redirect
            exact (Except.ok.inj redirect).symm
        · cases broken
/-- A login service that knows the code names who is logged in. -/
theorem LogsIn.identity_eq {c : Credentials} {identity : Identity} {result : AuthResult}
    (h : LogsIn g c n v (.ok (some (result, m))) u)
    (login : (g.attemptOf c v).result = .ok (some identity)) : result.identity = identity := by
  cases h with
  | renewed found => exact Option.some.inj (Except.ok.inj (found.symm.trans login))

/-- A callback with the token of its session and a code of somebody, if it is answered, renews the
session, which then holds the login. -/
theorem Decides.logsIn {id code : String} {t : SessionStore} {identity : Identity}
    (h : Decides g mandatory v (.ok o) u) (callback : isCallback v.request.uri = true)
    (cookie : v.request.sessionFromUrl = false) (named : v.request.sessionId = some id)
    (given : id ≠ "") (found : v.world.store.get v.world.now id = (.ok (some n), t))
    (brought : v.request.parameter "code" = some code)
    (state : v.request.parameter "state" = some token)
    (there : v.world.store.session? n = some a) (held : Csrf.token? a = some (.text token))
    (login : (g.service.login v.world.users v.world.wall v.world.replies
      { code, redirectUri := v.request.callbackUrl }).result = .ok (some identity)) :
    ∃ m newId result, u.world.store.session? m =
        some (SavedRequest.arrive ((a.withId newId).cache result)) ∧
      u.request = { v.request with sessionId := some newId } ∧ result.identity = identity := by
  have accepted : Csrf.accepts? (v.session n) (v.request.parameter "state") = some true := by
    rw [state]
    exact World.HasToken.accepts ((congrArg (Option.bind · Csrf.token?) there).trans held)
  have redeems := h.redeems callback cookie named given found brought accepted
  generalize done : (Except.ok o : Except Fault Outcome) = r at redeems
  cases redeems with
  | broken => cases done
  | refused refused =>
    cases refused with
    | refused none => exact absurd (none.symm.trans login) nofun
  | @redeemed result m x _ _ entered ends =>
    obtain ⟨signIn, -, -, -, -, last, sessions, request, -⟩ :=
      signsIn_of_redeemed callback named found brought accepted entered
    rw [Visit.session_of_session? there] at sessions
    have arrived := SessionStore.modify_last sessions SavedRequest.arrive
    refine ⟨m, signIn.newId, result, ?_, (request_of_ends ends).trans request,
      entered.identity_eq login⟩
    rw [ends.world_eq]
    change (x.world.store.modify m SavedRequest.arrive).sessions[m]? = _
    rw [last, arrived, List.getElem?_concat_length]

/-- A request that needs a login and whose session holds a valid one is authenticated, and what is
saved there is put back. -/
theorem Decides.held {r : Except Fault Outcome} {result : AuthResult} (h : Decides g true v r u)
    (found : ∃ id, v.request.sessionId = some id ∧ id ≠ "" ∧
      (v.world.store.get v.world.now id).1 = .ok (some n))
    (cookie : v.request.sessionFromUrl = false) (other : isCallback v.request.uri = false)
    (page : g.settings.isErrorPage (some v.request.pathInContext) = false)
    (there : v.world.store.session? n = some a)
    (login : Attribute.present a.authenticated = some (.result result))
    (valid : g.service.validates v.world.users result.identity = true) :
    r = .ok (.authenticated result false) ∧
      ∃ y, y.request = v.request ∧ y.world.store.session? n = some a ∧
        u.request = (replayed n y).request ∧ u.world = (replayed n y).world := by
  cases h with
  | deferred deferred => exact absurd (page.symm.trans (deferred.2.resolve_left nofun).1) nofun
  | urlSession _ url => exact absurd (url.symm.trans cookie) nofun
  | unfound _ _ finds => cases eq_of_finds finds found
  | callback callback => exact absurd (callback.symm.trans other) nofun
  | @protect _ y _ _ _ _ _ finds protects =>
    obtain rfl := Except.ok.inj (eq_of_finds finds found)
    have kept : y.world.store.session? n = some a := (finds_session? finds n).trans there
    have users : y.world.users = v.world.users := (finds_evolves finds).users
    have holds : Attribute.present (y.session n).authenticated = some (.result result) := by
      rw [Visit.session_of_session? kept]
      exact login
    have held : ∀ {x : Visit}, ¬ Unheld g y (some n) x := by
      intro x unheld
      cases unheld with
      | empty none => exact absurd (none.symm.trans holds) nofun
      | revoked other invalid =>
        cases other.symm.trans holds
        rw [users, valid] at invalid
        cases invalid
    cases protects with
    | held found =>
      cases found.symm.trans holds
      exact ⟨rfl, y, request_of_finds finds, kept, rfl, rfl⟩
    | unreadable found shape => exact absurd (Option.some.inj (found.symm.trans holds)) (shape _)
    | passed unheld => exact (held unheld).elim
    | challenged unheld => exact (held unheld).elim

/-- What is saved for the address of a request is put back. -/
theorem replayed_of_saved (there : v.world.store.session? n = some a)
    (uri : a.uri = some (.text v.request.url)) :
    replayed n v =
      { changed n SavedRequest.drop v with request := restore ⟨a.method, a.post⟩ v.request } := by
  rw [replayed, Visit.session_of_session? there, SavedRequest.restoration?, SavedRequest.isFor, uri,
    beq_self_eq_true, if_pos rfl]

/-- Where nothing is saved, nothing is put back. -/
theorem replayed_of_blank (there : v.world.store.session? n = some a) (blank : a.uri = none) :
    replayed n v = v := by
  rw [replayed, Visit.session_of_session? there, SavedRequest.restoration?, SavedRequest.isFor,
    blank]
  rfl

end Gate

namespace Guard

open Gate (Decides restore)
open Step (Finds)

variable {g : Gate} {c : Option String} {i j k : Inbound} {r s : Reception} {q p : Request}
  {response : Response} {id token : String} {w : World} {n : Serial} {a b : Session}

/-! ## What the browser is told -/

/-- After the response the browser has a session id: the response sets it, or the request came with
it. -/
def Carries (g : Gate) (i : Inbound) (response : Response) (id : String) : Prop :=
  cookieSession? i g.settings.cookieName = some id ∨
    ∃ path secure header, Cookie.write g.settings.cookieName id path secure = .ok header ∧
      header ∈ response.headers

/-- The response sends the browser to the provider, and tells it a state. -/
def Asks (g : Gate) (response : Response) (state : String) : Prop :=
  ∃ url query, response.headers.lookup "location" =
      some (Percent.encode Percent.isAddressMark url) ∧
    Challenge.Appends g.provider url query ∧ (Form.pairs query).lookup "state" = some state

/-- A session id that is not blank and not from the address reaches the browser. -/
theorem carries_of_sessionCookie {cookie : List (String × String)} {before after : Request}
    (known : requestOf g.settings.cookieName i.form? c i = .ok before)
    (url : before.sessionFromUrl = false) (filled : id ≠ "") (named : after.sessionId = some id)
    (set : sessionCookie g.settings.cookieName before after = .ok cookie) (sent : Response) :
    Carries g i (sent.withHeaders cookie) id := by
  obtain ⟨_, _, -, -, rfl⟩ := requestOf_eq_ok_iff.1 known
  have filled : id.isEmpty = false := by simpa [String.isEmpty_iff] using filled
  simp only [sessionCookie, named, filled, Bool.false_or] at set
  split at set
  · rename_i same
    have same := eq_of_beq same
    cases cookie? : cookieSession? i g.settings.cookieName with
    | some own =>
      rw [cookie?] at same
      exact .inl (cookie?.trans same)
    | none =>
      -- Without a cookie the id would stand in the address.
      dsimp only at url same
      rw [cookie?] at url same
      rw [Option.none_or] at same
      rw [same] at url
      cases url
  · cases written : Cookie.write g.settings.cookieName id
      (if after.context.isEmpty then "/" else after.context) (after.scheme == "https") with
    | error fault =>
      rw [written] at set
      cases set
    | ok header =>
      rw [written] at set
      obtain rfl := Except.ok.inj set
      exact .inr ⟨_, _, header, written, List.mem_append_right _ List.mem_cons_self⟩

/-! ## The form is submitted -/

/-- The gate sees the path below the mount behind it. -/
theorem uri_of_requestOf {name : String} {form : Option Form}
    (h : requestOf name form c i = .ok q) : q.uri = i.mount ++ i.pathInContext := by
  obtain ⟨_, _, -, -, rfl⟩ := requestOf_eq_ok_iff.1 h
  have filled : (i.mount ++ i.pathInContext).isEmpty = false := by
    have path := i.pathInContext_isEmpty
    simp_all [String.append_eq_empty_iff]
  dsimp only [Request.uri]
  rw [filled, if_neg Bool.false_ne_true]

/-- The path that is matched against the settings is the one below the mount. -/
theorem pathInContext_of_requestOf {name : String} {form : Option Form}
    (h : requestOf name form c i = .ok q) : q.pathInContext = i.pathInContext := by
  rw [Request.pathInContext, requestOf_eq_ok h, i.pathInContext_isEmpty, if_neg Bool.false_ne_true]

/-- A browser without a session submits a form to an address that needs a login, below a mount that
does not contain the callback path. -/
structure Submits (g : Gate) (i : Inbound) : Prop where
  form : i.submitsForm = true
  cookie : cookieSession? i g.settings.cookieName = none
  address : addressSession? i g.settings.cookieName = none
  guarded : g.settings.isProtected i.pathInContext = true
  page : g.settings.isErrorPage (some i.pathInContext) = false
  other : isCallback (i.mount ++ i.pathInContext) = false
  mount : ¬ callbackPath.toList <:+: i.mount.toList

/-- A form that is submitted names no session, and it is saved as a form. -/
theorem Submits.request (submits : Submits g i)
    (known : requestOf g.settings.cookieName i.form? c i = .ok q) :
    q.sessionId = none ∧ q.sessionFromUrl = false ∧
      q.slot? = some (.ofForm q.url (Form.ofOctets i.body)) := by
  obtain ⟨method, type⟩ := Bool.and_eq_true_iff.1 submits.form
  have post : i.method = "POST" := eq_of_beq method
  obtain ⟨t, shown, filled, type⟩ :
      ∃ t, i.header? "content-type" = some t ∧ t.isEmpty = false ∧ isFormType t = true := by
    cases shown : i.header? "content-type" with
    | none =>
      rw [shown] at type
      exact absurd type (by decide)
    | some t =>
      rw [shown] at type
      refine ⟨t, rfl, Bool.eq_false_iff.2 fun empty => ?_, type⟩
      rw [String.isEmpty_iff.1 empty] at type
      exact absurd type (by decide)
  obtain ⟨_, _, -, -, rfl⟩ := requestOf_eq_ok_iff.1 known
  refine ⟨?_, ?_, ?_⟩
  · rw [submits.cookie, submits.address]
    rfl
  · rw [submits.cookie, submits.address]
    rfl
  · have upper : Text.upperWide "POST" = "POST" := by decide
    simp [Request.slot?, Request.isFormPost, Slot.ofForm, Attribute.wide?, Json.asText?, post,
      upper, shown, filled, type, Inbound.form?, submits.form]

/-- **A form that is submitted without a session** waits in the session that the browser is given,
and the browser is sent to the provider with the token of the session. -/
theorem Submits.awaits (submits : Submits g i) (filled : "" ∉ r.world.tokens.given)
    (ids : r.world.store.Filled)
    (answered : (enter g c i).on r = (.ok (.answered response), s)) :
    ∃ q n a state, requestOf g.settings.cookieName i.form? c i = .ok q ∧
      s.world.store.session? n = some a ∧
      a.Awaits (.ofForm q.url (Form.ofOctets i.body)) state ∧ Asks g response state ∧
      Carries g i response a.id := by
  obtain ⟨q, o, x, cookie, base, known, considers, set, sent, wrote, rfl, world⟩ :=
    exists_of_answered answered
  obtain ⟨nobody, url, written⟩ := submits.request known
  have path := pathInContext_of_requestOf known
  have still := considers.keeps (SessionStore.filled_kept _) ids
  rw [path, submits.guarded] at considers
  generalize done : (Except.ok o : Except Fault Outcome) = d at considers
  cases considers with
  | unfound => cases done
  | @decided session u w d before after finds decides =>
    subst done
    cases finds with
    | found named => exact absurd (named.symm.trans nobody) nofun
    | nobody =>
      have unsaved : r.world.savedMethod? q = none := by
        rw [World.savedMethod?, World.live?, nobody]
        rfl
      rw [World.prepared_of_none unsaved] at decides
      obtain ⟨n, a, state, location, there, awaits, named, address, channel⟩ :=
        decides.awaits sent nobody url
          ((congrArg isCallback (uri_of_requestOf known)).trans submits.other)
          (by rw [path]; exact submits.page) rfl filled written
      refine ⟨q, n, a, state, known, world ▸ there, awaits, ?_, ?_⟩
      · -- What was written is the address, which no surrogate stands in.
        dsimp only at wrote
        rw [channel] at wrote
        cases location with
        | ragged => cases wrote
        | plain url =>
          obtain rfl := Except.ok.inj wrote
          refine ⟨url, _, rfl, Challenge.appends_of_url? address, ?_⟩
          rw [Challenge.pairs_query]
          rfl
      · have given : a.id ≠ "" := fun blank => still.issued (blank ▸ List.mem_map_of_mem
          (List.mem_of_getElem? there))
        exact carries_of_sessionCookie known url given named set _

/-! ## The browser comes back -/

/-- A callback of the browser below the same mount, with its session, the state and a code of
somebody. -/
structure Returns (g : Gate) (c : Option String) (w : World) (i j : Inbound) (id : String)
    (n : Serial) (state : String) (identity : Identity) : Prop where
  mount : j.mount = i.mount
  path : j.pathInContext = callbackPath
  cookie : cookieSession? j g.settings.cookieName = some id
  lives : w.Lives id n
  login : ∃ q code, requestOf g.settings.cookieName j.form? c j = .ok q ∧
    q.parameter "code" = some code ∧ q.parameter "state" = some state ∧
    (g.service.login w.users w.wall w.replies { code, redirectUri := q.callbackUrl }).result =
      .ok (some identity)

/-- **A callback that is answered** renews the session of the browser, which goes on with what was
saved in it and with the login. -/
theorem Returns.logsIn {identity : Identity} {slot : Slot} {state : String}
    (returns : Returns g c r.world i j id n state identity)
    (mount : ¬ callbackPath.toList <:+: i.mount.toList)
    (there : r.world.store.session? n = some a) (awaits : a.Awaits slot state)
    (ids : r.world.store.Filled)
    (answered : (enter g c j).on r = (.ok (.answered response), s)) :
    ∃ m b result, s.world.store.session? m = some b ∧ b.slot = slot ∧
      b.authenticated = some (.result result) ∧ result.identity = identity ∧
      Carries g j response b.id := by
  obtain ⟨q, o, x, cookie, base, known, considers, set, sent, wrote, rfl, world⟩ :=
    exists_of_answered answered
  obtain ⟨q', code, known', given, brought, login⟩ := returns.login
  obtain rfl := Except.ok.inj (known.symm.trans known')
  obtain ⟨named, url⟩ := session_of_cookie known returns.cookie
  have callback : isCallback q.uri = true := by
    rw [uri_of_requestOf known, returns.path, returns.mount]
    exact isCallback_of_mount mount
  have still : "" ∉ s.world.store.issuedIds := by
    rw [world]
    exact (considers.keeps (SessionStore.filled_kept _) ids).issued
  generalize done : (Except.ok o : Except Fault Outcome) = d at considers
  cases considers with
  | unfound => cases done
  | @decided session u w d before after finds decides =>
    subst done
    obtain ⟨rfl, rfl⟩ := Gate.finds_of_lives returns.lives named finds
    have same := (r.world.store.sessions_get r.world.now id)
    have unsaved : r.world.savedMethod? q = none := by
      rw [World.savedMethod?, Gate.live?_of_finds finds]
      have nobody := awaits.nobody
      simp [SavedRequest.restoredMethod?, World.session_of_session? there, nobody]
    rw [World.prepared_of_none unsaved] at decides
    obtain ⟨t, again⟩ : ∃ t, (r.world.store.get r.world.now id).2.get r.world.now id =
        (.ok (some n), t) := ⟨_, Prod.ext returns.lives.again rfl⟩
    have found : (r.world.store.get r.world.now id).2.session? n = some a :=
      SessionStore.session?_of_sessions same n ▸ there
    obtain ⟨m, newId, result, left, request, identity⟩ :=
      decides.logsIn callback url named returns.lives.given again given brought found awaits.token
        login
    have arrived : s.world.store.session? m =
        some (SavedRequest.arrive ((a.withId newId).cache result)) := by
      rw [world]
      exact left
    have filled : newId ≠ "" := fun blank =>
      still (blank ▸ List.mem_map_of_mem (List.mem_of_getElem? arrived))
    exact ⟨m, _, result, arrived, awaits.slot, rfl, identity,
      carries_of_sessionCookie known url filled (congrArg Request.sessionId request) set _⟩

/-! ## The browser asks for the address -/

/-- A request of a session that lives and holds a valid login is authenticated, and what is saved
there is put back. -/
theorem Considers.held {d : Except Fault Outcome} {x : Visit} {result : AuthResult}
    (h : Considers g true { world := w, request := q } d x) (lives : w.Lives id n)
    (named : q.sessionId = some id) (cookie : q.sessionFromUrl = false)
    (other : isCallback q.uri = false)
    (page : g.settings.isErrorPage (some q.pathInContext) = false)
    (there : w.store.session? n = some a)
    (login : Attribute.present a.authenticated = some (.result result))
    (valid : g.service.validates w.users result.identity = true) :
    d = .ok (.authenticated result false) ∧
      ∃ y, y.request = w.prepared q ∧ y.world.store.session? n = some a ∧
        x.request = (Gate.replayed n y).request ∧ x.world = (Gate.replayed n y).world := by
  cases h with
  | unfound finds => cases Gate.eq_of_finds finds ⟨id, named, lives.given, lives.found⟩
  | @decided session u v d before after finds decides =>
    obtain ⟨rfl, rfl⟩ := Gate.finds_of_lives lives named finds
    have kept := SessionStore.session?_of_sessions (w.store.sessions_get w.now id) n
    exact decides.held ⟨id, named, lives.given, lives.again⟩ cookie other page (kept.trans there)
      login valid

/-- A `GET` of the address that the form was submitted to, with a session that lives and a login
that is valid. -/
structure Revisits (g : Gate) (w : World) (i k : Inbound) (id : String) (n : Serial)
    (identity : Identity) : Prop where
  method : k.method = "GET"
  address : i.SameAddress k
  cookie : cookieSession? k g.settings.cookieName = some id
  lives : w.Lives id n
  valid : g.service.validates w.users identity = true

variable {identity : Identity} {result : AuthResult}

/-- A request that comes back is authenticated. -/
theorem Revisits.exists_decided (revisits : Revisits g r.world i k id n identity)
    (submits : Submits g i) (known : requestOf g.settings.cookieName i.form? c i = .ok q)
    (there : r.world.store.session? n = some a)
    (login : a.authenticated = some (.result result)) (same : result.identity = identity)
    (c' : Option String) :
    ∃ p x y, requestOf g.settings.cookieName k.form? c' k = .ok p ∧
      (decision g (g.settings.isProtected p.pathInContext)).on { world := r.world, request := p } =
        (.ok (.authenticated result false), x) ∧
      p.url = q.url ∧ p.method = .text "GET" ∧ p.restored = false ∧
      r.world.live? p = some n ∧
      y.request = r.world.prepared p ∧ y.world.store.session? n = some a ∧
      x.request = (Gate.replayed n y).request ∧ x.world = (Gate.replayed n y).world := by
  obtain ⟨p, known', url, uri, method, restored⟩ :=
    exists_requestOf_of_sameAddress revisits.address known k.form? c'
  obtain ⟨named, cookie⟩ := session_of_cookie known' revisits.cookie
  have context : p.pathInContext = i.pathInContext :=
    (pathInContext_of_requestOf known').trans revisits.address.pathInContext_eq
  have live : r.world.live? p = some n := World.live?_eq_some.2
    ⟨id, named, revisits.lives.given, SessionStore.find?_of_get revisits.lives.found⟩
  have considers := decision_considers g true { world := r.world, request := p }
  obtain ⟨done, y, request, kept, left, world⟩ := considers.held revisits.lives named cookie
    (by rw [uri, uri_of_requestOf known]; exact submits.other)
    (by rw [context]; exact submits.page) there (by rw [login]; rfl)
    (by rw [same]; exact revisits.valid)
  refine ⟨p, _, y, known', ?_, url, ?_, restored, live, request, kept, left, world⟩
  · rw [context, submits.guarded]
    exact Prod.ext done rfl
  · rw [method, revisits.method]

/-- The application sees the submitted form once more: the request is a `POST`, its body is read as
the form, and its headers about the body are those of the form. -/
structure Replays (i : Inbound) (identity : Identity) (a : Admission) : Prop where
  method : a.inbound.method = "POST"
  form : Form.ofOctets a.inbound.body = Form.ofOctets i.body
  type : a.inbound.headerAll "content-type" = [formType]
  length : a.inbound.headerAll "content-length" = [toString a.inbound.body.length]
  outcome : ∃ result, a.outcome = .authenticated result false ∧ result.identity = identity

/-- A request that a form was put back into replays it. -/
theorem replays_of_restored (i k : Inbound) (same : result.identity = identity)
    (restored : q.restored = true) (method : q.method = .text "POST")
    (form : q.form = some (Form.ofOctets i.body)) :
    Replays i identity (admission k q (.authenticated result false)) := by
  rw [admission, restored, form]
  dsimp only
  obtain ⟨type, length⟩ :=
    Inbound.headerAll_withForm (Form.ofOctets i.body) { k with method := q.method.spelled }
  refine ⟨?_, ?_, type, length, result, rfl, same⟩
  · rw [method]
    rfl
  · dsimp only
    rw [Inbound.body_withForm]
    exact Form.ofOctets_encode_write (Form.wellFormed_ofPairs _)

/-- **The form is replayed** in a session that holds it beside the login, and is gone from there. -/
theorem Revisits.replays (revisits : Revisits g r.world i k id n identity)
    (submits : Submits g i) (known : requestOf g.settings.cookieName i.form? c i = .ok q)
    (there : r.world.store.session? n = some a)
    (slot : a.slot = .ofForm q.url (Form.ofOctets i.body))
    (login : a.authenticated = some (.result result)) (same : result.identity = identity)
    (c' : Option String) :
    ∃ b t, (enter g c' k).on r = (.ok (.admitted b), t) ∧ Replays i identity b ∧
      t.world.store.session? n = some (SavedRequest.drop a) := by
  obtain ⟨p, x, y, known', decided, url, -, -, live, request, kept, left, world⟩ :=
    revisits.exists_decided submits known there login same c'
  obtain ⟨uri, method, post⟩ := Slot.mk.inj slot
  have saved : r.world.savedMethod? p = some (.text "POST") := by
    have full := Attribute.truthy_text q.url_ne_empty
    rw [World.savedMethod?, live, Option.bind_some, World.session_of_session? there]
    simp [SavedRequest.restoredMethod?, SavedRequest.isFor, login, Attribute.present,
      Attribute.isNull, uri, method, url, full]
    rfl
  have prepared : y.request = { p with method := .text "POST" } := by
    rw [request, World.prepared, saved]
    rfl
  have own : a.uri = some (.text y.request.url) := by
    rw [prepared, uri, ← url]
    rfl
  rw [Gate.replayed_of_saved kept own] at left world
  have restored : x.request = restore ⟨some (.text "POST"), some (.form (Form.ofOctets i.body))⟩
      { p with method := .text "POST" } := by
    rw [left, ← prepared, ← method, ← post]
  have sessionId : x.request.sessionId = p.sessionId := by
    rw [restored]
    rfl
  obtain ⟨t, admitted, after⟩ := enter_admits known' decided rfl sessionId
  refine ⟨_, t, admitted, replays_of_restored i k same ?_ ?_ ?_, ?_⟩
  · rw [restored]
    rfl
  · rw [restored]
    rfl
  · rw [restored]
    rfl
  · rw [after, world]
    exact SessionStore.session?_modify_self kept

/-- **Without a saved form** the request reaches the application as it is. -/
theorem Revisits.passes (revisits : Revisits g r.world i k id n identity)
    (submits : Submits g i) (known : requestOf g.settings.cookieName i.form? c i = .ok q)
    (there : r.world.store.session? n = some a) (blank : a.uri = none)
    (login : a.authenticated = some (.result result)) (same : result.identity = identity)
    (c' : Option String) :
    ∃ t, (enter g c' k).on r = (.ok (.admitted ⟨k, .authenticated result false, false⟩), t) := by
  obtain ⟨p, x, y, known', decided, -, method, restored, live, request, kept, left, -⟩ :=
    revisits.exists_decided submits known there login same c'
  have unsaved : r.world.savedMethod? p = none := by
    rw [World.savedMethod?, live, Option.bind_some, World.session_of_session? there]
    simp [SavedRequest.restoredMethod?, blank, Attribute.truthy]
  rw [World.prepared_of_none unsaved] at request
  rw [Gate.replayed_of_blank kept blank, request] at left
  obtain ⟨t, admitted, -⟩ := enter_admits known' decided rfl (congrArg Request.sessionId left)
  have same : ({ k with method := p.method.spelled } : Inbound) = k := by
    rw [method, Attribute.spelled_text, ← revisits.method]
  rw [left, admission, restored, same] at admitted
  exact ⟨t, admitted⟩

/-! ## The whole way -/

variable {es : List Event}

/-- What the operations of a store keep, an inbound request keeps. -/
theorem enter_keeps {P : SessionStore → Prop} {passage : Passage}
    (kept : SessionStore.Kept P r.world.now) (start : P r.world.store)
    (done : (enter g c i).on r = (.ok passage, s)) : P s.world.store := by
  obtain ⟨q, o, x, cookie, -, decided, -, -, world⟩ := exists_of_enter done
  have considers := decision_considers g (g.settings.isProtected q.pathInContext)
    { world := r.world, request := q }
  rw [decided] at considers
  rw [world]
  exact considers.keeps kept start

/-- The browser's request of the address reaches the application as it is, whatever happened in the
meantime without naming the session. -/
def PassesPlainly (g : Gate) (i : Inbound) (w : World) (id : String) (n : Serial)
    (identity : Identity) : Prop :=
  ∀ (es : List Event) (k : Inbound) (c : Option String) (r : Reception), Silent es id →
    r.world = g.run w es → Revisits g r.world i k id n identity →
    ∃ o t, o.isAuthenticated = true ∧ (enter g c k).on r = (.ok (.admitted ⟨k, o, false⟩), t)

/-- The browser's request of the address is answered with the submitted form, and the next one is
not. -/
def ReplaysOnce (g : Gate) (i : Inbound) (w : World) (id : String) (n : Serial)
    (identity : Identity) : Prop :=
  ∀ (es : List Event) (k : Inbound) (c : Option String) (r : Reception), Silent es id →
    r.world = g.run w es → Revisits g r.world i k id n identity →
    ∃ a t, (enter g c k).on r = (.ok (.admitted a), t) ∧ Replays i identity a ∧
      PassesPlainly g i t.world id n identity

/-- The browser's callback, if it is answered, gives it a session in which the form is replayed
once. -/
def Replayable (g : Gate) (i : Inbound) (w : World) (id : String) (n : Serial) (state : String) :
    Prop :=
  ∀ (es : List Event) (j : Inbound) (c : Option String) (r s : Reception) (response : Response)
    (identity : Identity), Silent es id → r.world = g.run w es →
    Returns g c r.world i j id n state identity →
    (enter g c j).on r = (.ok (.answered response), s) →
    ∃ id' m, Carries g j response id' ∧ s.world.store.issuedIds[m]? = some id' ∧
      ReplaysOnce g i s.world id' m identity

/-- A session that holds a form beside a login replays it once. -/
theorem replaysOnce_of_session? (submits : Submits g i)
    (known : requestOf g.settings.cookieName i.form? c i = .ok q) (named : w.store.Named)
    (there : w.store.session? n = some a) (slot : a.slot = .ofForm q.url (Form.ofOctets i.body))
    (login : a.authenticated = some (.result result)) (same : result.identity = identity) :
    ReplaysOnce g i w a.id n identity := by
  intro es k c' r silent reached revisits
  have names := Gate.named_run (g := g) named es
  have still := Gate.session?_of_silent (g := g) named there silent
  rw [← reached] at still names
  obtain ⟨b, t, admitted, replays, left⟩ :=
    revisits.replays submits known still slot login same c'
  refine ⟨b, t, admitted, replays, ?_⟩
  intro es k c' r silent reached revisits
  have names := enter_keeps (SessionStore.named_kept _) names admitted
  have still := Gate.session?_of_silent (g := g) names left silent
  rw [← reached] at still
  obtain ⟨t, admitted⟩ := revisits.passes submits known still rfl login same c'
  exact ⟨_, t, rfl, admitted⟩

/-- **A form that is submitted without a login is submitted after it, once.**  Take any run from an
empty store, where no id and no token to come is blank, and after it a form of a browser without a
session, which is answered: the browser is given a session and told a state.  If it comes back with
them and a code of somebody, it is given another session, with which its first request of the
address reaches the application as the submitted form, and the second one as it is. -/
theorem form_replayed {ttl : Seconds} {capacity : Int} {ids : Supply}
    (made : SessionStore.make ttl capacity ids = .ok w.store) (given : "" ∉ ids.given)
    (filled : "" ∉ w.tokens.given) (reached : r.world = g.run w es) (submits : Submits g i)
    (answered : (enter g c i).on r = (.ok (.answered response), s)) :
    ∃ id n state, Carries g i response id ∧ s.world.store.issuedIds[n]? = some id ∧
      Asks g response state ∧ Replayable g i s.world id n state := by
  have fresh : w.Fresh := ⟨ttl, capacity, ids, made⟩
  have named : r.world.store.Named := by
    rw [reached]
    exact Gate.named_run (Gate.named_of_fresh fresh) es
  have tokens : "" ∉ r.world.tokens.given := by
    rw [reached]
    exact (Gate.sound_run (Gate.sound_of_fresh fresh filled) es).tokens
  have stored : r.world.store.Filled := by
    rw [reached]
    exact Gate.filled_run (SessionStore.filled_of_make made given) es
  obtain ⟨q, n, a, state, known, there, awaits, asks, carries⟩ :=
    submits.awaits tokens stored answered
  refine ⟨a.id, n, state, carries, Gate.issuedIds_of_session? there, asks, ?_⟩
  intro es j c' r' s' response' identity silent reached' returns answered'
  have named := enter_keeps (SessionStore.named_kept _) named answered
  have stored := enter_keeps (SessionStore.filled_kept _) stored answered
  have still := Gate.session?_of_silent (g := g) named there silent
  have names := Gate.named_run (g := g) named es
  have stored := Gate.filled_run (g := g) stored es
  rw [← reached'] at still names stored
  obtain ⟨m, b, result, renewed, slot, login, same, carries'⟩ :=
    returns.logsIn submits.mount still awaits stored answered'
  have names := enter_keeps (SessionStore.named_kept _) names answered'
  exact ⟨b.id, m, carries', Gate.issuedIds_of_session? renewed,
    replaysOnce_of_session? submits known names renewed slot login same⟩

/-- A form that is submitted to a small application. -/
def smallForm : Inbound :=
  { smallInbound "" "/page" with
    method := "POST", headers := [("content-type", formType ++ "; charset=utf-8")]
    body := Utf8.encode "a=1&b=%2B&a=" }

/-- A request to a small application with a session. -/
def smallVisit (path query id : String) : Inbound :=
  { smallInbound "" path with
    query := Utf8.encode query, headers := [("cookie", "OIDCSESSIONID=" ++ id)] }

/-- The form is replayed in a small application: the visitor submits it, is given the session
`first` and the state `token`, comes back with them and is given the session `second`. -/
theorem form_replayed_small :
    let g := smallGate true
    let w := smallWorld none
    let ids : Supply := { given := ["first", "second"] }
    let r : Reception := { world := w }
    let response : Response :=
      { status := 303
        headers := [("content-length", "0"),
          ("location", "https://idp/auth?client_id=app&redirect_uri=http%3A%2F%2Fapp" ++
            "%2Fj_security_check&scope=openid&state=token&response_type=code"),
          ("set-cookie", "OIDCSESSIONID=first; HttpOnly; Path=/; SameSite=lax")] }
    let back := smallVisit "/j_security_check" "code=abc&state=token" "first"
    let page := smallVisit "/page" "" "second"
    let s := ((enter g none smallForm).on r).2
    let t := ((enter g none back).on s).2
    SessionStore.make (.whole 60) 4 ids = .ok w.store ∧ "" ∉ ids.given ∧ "" ∉ w.tokens.given ∧
      Submits g smallForm ∧ (enter g none smallForm).on r = (.ok (.answered response), s) ∧
      Returns g none s.world smallForm back "first" 0 "token" smallResult.identity ∧
      Revisits g t.world smallForm page "second" 1 smallResult.identity ∧
      ∃ id n state, Carries g smallForm response id ∧ s.world.store.issuedIds[n]? = some id ∧
        Asks g response state ∧ Replayable g smallForm s.world id n state := by
  intro g w ids r response back page s t
  have made : SessionStore.make (.whole 60) 4 ids = .ok w.store := rfl
  have given : "" ∉ ids.given := by decide
  have filled : "" ∉ w.tokens.given := by decide
  have submits : Submits g smallForm :=
    { form := by decide +kernel, cookie := by decide +kernel, address := by decide +kernel
      guarded := by decide +kernel, page := by decide +kernel, other := by decide +kernel
      mount := by decide +kernel }
  have answered : (enter g none smallForm).on r = (.ok (.answered response), s) :=
    Prod.ext (by decide +kernel) rfl
  have returns : Returns g none s.world smallForm back "first" 0 "token" smallResult.identity :=
    { mount := rfl, path := by decide +kernel, cookie := by decide +kernel
      lives := ⟨by decide, by decide +kernel, by decide +kernel⟩
      login := ⟨smallRequest "/j_security_check" "code=abc&state=token" (some "first"), "abc",
        by decide +kernel, by decide +kernel, by decide +kernel, by decide +kernel⟩ }
  have revisits : Revisits g t.world smallForm page "second" 1 smallResult.identity :=
    { method := rfl, address := ⟨rfl, rfl, rfl, rfl, rfl, rfl⟩, cookie := by decide +kernel
      lives := ⟨by decide, by decide +kernel, by decide +kernel⟩, valid := by decide +kernel }
  have reached : r.world = g.run w [] := rfl
  exact ⟨made, given, filled, submits, answered, returns, revisits,
    form_replayed made given filled reached submits answered⟩

end Guard
end LoginGate
