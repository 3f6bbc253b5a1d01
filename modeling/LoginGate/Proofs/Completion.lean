/-
# A login that was begun can be completed

A challenge sends the browser to the provider with a state and the address to come back to.  As long
as the session of the challenge is found, whatever happened since, a callback to the same place that
brings this state and a code of somebody is answered, and the code is redeemed once.

| of the callback | is that of the challenge, as |
| --- | --- |
| the state | the token of the session stays for its life |
| the address that redeems the code | it is made from scheme, host, port and context path alone |
-/

import LoginGate.Proofs.FormText
import LoginGate.Proofs.Record
import LoginGate.Proofs.Renewal
import LoginGate.Proofs.Saving

namespace LoginGate

/-! ## The query of a challenge -/

namespace Challenge

variable {c : Configuration} {q : Request} {token : String} {url : WideText}

/-- An address is the one of the provider with a query put behind it. -/
def Appends (c : Configuration) (url : WideText) (query : String) : Prop :=
  ∃ has, hasQuery? c.authorizationEndpoint = some has ∧
    url = c.authorizationEndpoint.spelled ++ ((if has then "&" else "?") ++ query : String)

/-- The address of a challenge is the endpoint with the query behind it. -/
theorem appends_of_url? (h : url? c q token = some url) : Appends c url (query c q token) := by
  obtain ⟨has, known, rfl⟩ := Option.map_eq_some_iff.1 h
  exact ⟨has, known, rfl⟩

/-- Only an escape is looked into. -/
theorem plusBlanks_cons {c : Char} (h : c ≠ '%') (r : List Char) :
    plusBlanks (c :: r) = c :: plusBlanks r := by
  rw [plusBlanks]
  rintro s rfl
  exact absurd rfl h

/-- An escape that is not the one of a blank is kept. -/
theorem plusBlanks_escape {b : UInt8} (other : b ≠ 0x20) (r : List Char) :
    plusBlanks (Percent.escape b ++ r) = Percent.escape b ++ plusBlanks r := by
  have hb : b.toNat < 256 := b.toNat_lt
  have high : b.toNat / 16 < 16 := by omega
  have low : b.toNat % 16 < 16 := by omega
  have digit : ∀ n < 16, Percent.hexDigit n ≠ '%' ∧ (Percent.hexDigit n = '2' → n = 2) ∧
      (Percent.hexDigit n = '0' → n = 0) := by decide
  have kept : plusBlanks ('%' :: Percent.hexDigit (b.toNat / 16) ::
      Percent.hexDigit (b.toNat % 16) :: r) = '%' :: plusBlanks (Percent.hexDigit (b.toNat / 16) ::
        Percent.hexDigit (b.toNat % 16) :: r) := by
    rw [plusBlanks]
    intro s _ blank
    obtain ⟨two, rest⟩ := List.cons.inj blank
    have first := (digit _ high).2.1 two
    have second := (digit _ low).2.2 (List.cons.inj rest).1
    exact other (UInt8.toNat_inj.1 (show b.toNat = 32 by omega))
  simp only [Percent.escape, List.cons_append, List.nil_append]
  rw [kept, plusBlanks_cons (digit _ high).1, plusBlanks_cons (digit _ low).1]

/-- An octet that is escaped, and written as `+` where it is a blank, has its form. -/
theorem plusBlanks_octet (b : UInt8) (r : List Char) :
    plusBlanks ((if Percent.isUnreserved b then [Percent.char b] else Percent.escape b) ++ r) =
      Form.octetForm b ++ plusBlanks r := by
  rw [Form.octetForm]
  by_cases blank : b = 0x20
  · subst blank
    rfl
  · rw [if_neg blank]
    by_cases kept : Percent.isUnreserved b = true
    · rw [if_pos kept]
      exact plusBlanks_cons (Percent.char_ne_of_isUnreserved kept '%' (by decide)) r
    · rw [if_neg kept]
      exact plusBlanks_escape blank r

/-- **A value is escaped as in a form.** -/
theorem encode_eq_writeText (s : String) : encode s = Form.writeText s := by
  rw [encode, Form.writeText, Percent.encode, String.toList_ofList, Percent.encodeOctets]
  congr 1
  generalize Utf8.encode s = o
  induction o with
  | nil => rfl
  | cons b o ih => rw [List.flatMap_cons, List.flatMap_cons, plusBlanks_octet, ih]

/-- The names of the parameters need no escape. -/
theorem writeText_name {c : Configuration} {q : Request} {token : String} {p : String × String}
    (h : p ∈ parameters c q token) : Form.writeText p.1 = p.1 := by
  have names : ∀ name ∈ ["client_id", "redirect_uri", "scope", "state", "response_type"],
      Form.writeText name = name := by decide +kernel
  have named : p.1 ∈ (parameters c q token).map Prod.fst := List.mem_map_of_mem h
  exact names p.1 named

/-- The query of a challenge is written as a form is. -/
theorem query_eq (c : Configuration) (q : Request) (token : String) :
    query c q token = "&".intercalate ((parameters c q token).map Form.writePair) := by
  rw [query, List.map_congr_left fun p hp => ?_]
  rw [writeParameter, Form.writePair, writeText_name hp, encode_eq_writeText]

/-- What the provider reads in the query of a challenge is what it is told. -/
theorem pairs_query (c : Configuration) (q : Request) (token : String) :
    Form.pairs (query c q token) = parameters c q token := by
  rw [query_eq]
  exact Form.pairs_intercalate _

end Challenge

/-! ## The callback address -/

namespace Request

variable {p q : Request}

/-- The port that a request was sent to: the one that its address names, if that is positive, and
else the one that its scheme uses. -/
def effectivePort (q : Request) : Option Int :=
  (q.port.filter (0 < ·)).or (Address.usualPort? (Text.lower q.scheme))

/-- Two requests were sent to one application. -/
structure SamePlace (p q : Request) : Prop where
  scheme : Text.lower p.scheme = Text.lower q.scheme
  host : p.host = q.host
  port : p.effectivePort = q.effectivePort
  context : p.context = q.context

/-- The origin names the port unless it is the one that the scheme uses. -/
theorem origin_eq (q : Request) :
    q.origin =
      let front := Text.lower q.scheme ++ "://" ++ Address.hostForm q.host
      match q.effectivePort with
      | none => front
      | some n =>
        if Address.usualPort? (Text.lower q.scheme) = some n then front
        else front ++ ":" ++ toString n := by
  unfold origin Address.origin effectivePort
  cases q.port with
  | none => cases Address.usualPort? (Text.lower q.scheme) <;> simp
  | some n =>
    by_cases positive : 0 < n
    · simp [Option.filter_some, positive, Int.not_le.2 positive]
    · cases Address.usualPort? (Text.lower q.scheme) <;>
        simp [Option.filter_some, positive, Int.not_lt.1 positive]

/-- **The callback address is the same for all requests to one application.** -/
theorem SamePlace.callbackUrl_eq (h : SamePlace p q) : p.callbackUrl = q.callbackUrl := by
  rw [callbackUrl, callbackUrl, origin_eq, origin_eq, h.scheme, h.host, h.port, h.context]

end Request

/-! ## The token of a session -/

/-- A session that was given a token has it, if no empty one is to be given. -/
theorem Csrf.token?_ensure {tokens : Supply} (filled : "" ∉ tokens.given) (s : Session) :
    token? (ensure tokens s).session = some (ensure tokens s).token := by
  unfold ensure
  split
  · assumption
  · exact Attribute.truthy_text (Supply.draw_ne_empty filled)

/-- A state that is the token of the session is accepted. -/
theorem World.HasToken.accepts {v : Visit} {n : Serial} {token : String}
    (h : v.world.HasToken n token) : Csrf.accepts? (v.session n) (some token) = some true := by
  obtain ⟨a, ha, held⟩ := Option.bind_eq_some_iff.1 h
  rw [Visit.session_of_session? ha]
  simp [Csrf.accepts?, held]

/-! ## Redeeming a code -/

/-- The one call that redeems a code. -/
def Exchanger.callOf (e : Exchanger) (code redirectUri : String) : Call :=
  match e with
  | .book _ => .exchange code redirectUri
  | .endpoint provider _ _ =>
    .post provider.tokenEndpoint (TokenEndpoint.requestFields provider code redirectUri)

/-- An exchange asks the provider once. -/
theorem Exchanger.calls_exchange (e : Exchanger) (now : Instant) (replies : List Reply)
    (code redirectUri : String) :
    (e.exchange now replies code redirectUri).calls = [e.callOf code redirectUri] := by
  cases e with
  | book => rfl
  | endpoint =>
    unfold exchange TokenEndpoint.exchange
    dsimp only
    split <;> rfl

/-- A login with a fresh code redeems it once. -/
theorem LoginService.calls_login (s : LoginService) (users : Option Users) (now : Instant)
    (replies : List Reply) (code redirectUri : String) :
    (s.login users now replies { code, redirectUri }).calls =
      [s.exchanger.callOf code redirectUri] := by
  rw [← s.exchanger.calls_exchange now replies]
  unfold login redeem
  dsimp only
  split
  · rfl
  · rfl
  · split <;> rfl

/-- Both pools are set up alike. -/
theorem World.Fresh.pool_eq {w : World} (fresh : w.Fresh) (a b : PoolName) :
    w.store.pool a = w.store.pool b := by
  obtain ⟨ttl, capacity, ids, made⟩ := fresh
  rw [(SessionStore.pool_of_make made a).1, (SessionStore.pool_of_make made b).1]

namespace Gate

variable {g : Gate} {w : World} {v u : Visit} {e : Errand} {q c : Request} {r : Submission}
  {channel : Channel}
  {n m : Serial}
  {token code : String} {mandatory : Bool} {es : List Event}

/-- A call leaves the token of a session. -/
theorem Leaves.keeps_token {o : Except Fault (Option Outcome)} {s : Session}
    (h : Leaves g w e q channel o m s) (held : w.HasToken m token) :
    Csrf.token? s = some (.text token) := by
  obtain ⟨before, there, held⟩ := Option.bind_eq_some_iff.1 held
  have new : m ≠ w.store.sessions.length := (SessionStore.lt_of_session? there).ne
  cases h with
  | kept old =>
    obtain rfl := Option.some.inj (there.symm.trans old)
    exact held
  | forgotten old =>
    obtain rfl := Option.some.inj (there.symm.trans old)
    exact held
  | restored old =>
    obtain rfl := Option.some.inj (there.symm.trans old)
    exact held
  | @challenged a b after _ old unheld save =>
    obtain rfl := Option.some.inj (there.symm.trans old)
    have kept : Csrf.token? after = some (.text token) := by
      rw [Csrf.token?, (SavedRequest.save_keeps save).2.2]
      obtain ⟨rfl, -⟩ | rfl := unheld <;> exact held
    rw [ensure_of_token kept]
    exact kept
  | begun _ _ source =>
    obtain ⟨a, old, unheld⟩ | ⟨last, -⟩ := source
    · obtain rfl := Option.some.inj (there.symm.trans old)
      obtain ⟨rfl, -⟩ | rfl := unheld <;> exact held
    · exact absurd last new
  | blank last => exact absurd last new
  | opened _ last => exact absurd last new
  | renewed _ _ last => exact absurd last new

/-- A session keeps its token in every event. -/
theorem hasToken_after (h : w.HasToken n token) (c : Event) : (g.after w c).HasToken n token := by
  cases c with
  | call e q channel =>
    obtain ⟨a, ha, -⟩ := Option.bind_eq_some_iff.1 h
    obtain ⟨b, hb, -⟩ := session?_of_issuedIds
      (SessionStore.issued_mono (after_ids w (.call e q channel)) (issuedIds_of_session? ha))
    rw [World.HasToken, hb]
    exact (visit_leaves hb).keeps_token h
  | tick => exact h
  | wall => exact h
  | add => exact h
  | revoke => exact h

/-- **A token stays for the life of its session.** -/
theorem hasToken_run (h : w.HasToken n token) (es : List Event) : (g.run w es).HasToken n token :=
  run_of_after (P := fun w => w.HasToken n token) (fun _ c h => hasToken_after h c) h es

/-! ## Challenges -/

/-- A challenge sends the browser to the provider with the token that its session is left with. -/
theorem Challenges.redirects {b : Session} (there : v.world.store.session? n = some b)
    (h : Challenges g n v (.ok .challenged) u) :
    ∃ taken token url,
      u.world.store.session? n = some (Csrf.ensure v.world.tokens taken).session ∧
      (Csrf.ensure v.world.tokens taken).token = .text token ∧ u.request = v.request ∧
      Challenge.url? g.provider v.request token = some url ∧
      v.channel.redirect v.request.redirectStatus (.wide url) = .ok u.channel := by
  generalize done : (Except.ok Outcome.challenged : Except Fault Outcome) = o at h
  cases h with
  | unsaved => cases done
  | @saved taken x _ i _ save left issue sends =>
    subst left issue
    have saved : (changed n (fun _ => taken) v).world.store.session? n = some taken :=
      SessionStore.session?_modify_self there
    rw [Visit.session_of_session? saved] at sends
    cases sends with
    | tokenless => cases done
    | unaddressed => cases done
    | @sent token url _ _ shown address ends =>
      cases ends with
      | failed => cases done
      | taken sent =>
        exact ⟨taken, token, url, SessionStore.session?_modify_self saved,
          Attribute.eq_text_of_text? shown, rfl, address, sent⟩

/-- The token that a challenge goes out with can be brought back, if no token is empty. -/
theorem Challenges.sent {b : Session} (filled : "" ∉ v.world.tokens.given)
    (there : v.world.store.session? n = some b) (h : Challenges g n v (.ok .challenged) u) :
    ∃ token url, u.world.HasToken n token ∧ u.request = v.request ∧
      Challenge.url? g.provider v.request token = some url ∧
      v.channel.redirect v.request.redirectStatus (.wide url) = .ok u.channel := by
  obtain ⟨taken, token, url, marked, issued, request, address, sent⟩ := h.redirects there
  have held := Csrf.token?_ensure filled taken
  rw [issued] at held
  exact ⟨token, url, (congrArg (Option.bind · Csrf.token?) marked).trans held, request, address,
    sent⟩

/-- What a challenge does for the browser: it is sent to the provider, with the token of the session
that the request names now. -/
theorem exists_of_challenged (named : w.store.Named) (filled : "" ∉ w.tokens.given)
    (h : (g.visit w (.validate mandatory) q channel).1 = .ok (some .challenged)) :
    ∃ n id token url,
      (g.visit w (.validate mandatory) q channel).2.request.sessionId = some id ∧
      (g.visit w (.validate mandatory) q channel).2.world.store.issuedIds[n]? = some id ∧
      (g.visit w (.validate mandatory) q channel).2.world.HasToken n token ∧
      Challenge.url? g.provider q token = some url ∧
      (g.visit w (.validate mandatory) q channel).2.channel =
        .buffered (some q.redirectStatus) (some (.wide url)) := by
  obtain ⟨other, reaches⟩ := reaches_of_challenged h
  have visits := visit_visits g w (.validate mandatory) q channel
  generalize (g.visit w (.validate mandatory) q channel).1 = o at h reaches visits
  generalize (g.visit w (.validate mandatory) q channel).2 = u at visits ⊢
  cases visits with
  | @validate _ r u decides =>
    obtain ⟨x, enters, challenges⟩ := decides.challenges named other reaches
    obtain ⟨b, there, -⟩ := enters.session
    obtain ⟨id, request, issued⟩ := enters.request
    have issued := SessionStore.issued_mono challenges.evolves.store.ids issued
    cases r with
    | error => cases h
    | ok o =>
      obtain rfl := Option.some.inj (Except.ok.inj h)
      obtain ⟨token, url, held, kept, address, sent⟩ :=
        challenges.sent (enters.tokens ▸ filled) there
      rw [request] at kept address sent
      refine ⟨_, id, token, url, congrArg Request.sessionId kept, issued, held, address, ?_⟩
      rw [enters.channel] at sent
      obtain ⟨deferred, -⟩ | kept := Channel.redirect_eq_ok sent
      · have sendable := enters.sendable
        rw [deferred] at sendable
        cases sendable
      · exact kept

/-! ## Callbacks -/

/-- After any run a session that is found can be renewed. -/
theorem renew_of_found {id : String} {s : SessionStore} (fresh : w.Fresh)
    (found : (g.run w es).store.get (g.run w es).now id = (.ok (some n), s)) :
    (s.renew (g.run w es).now n).result = .ok s.sessions.length := by
  obtain ⟨name, expires, time, room⟩ := SessionStore.set_of_get (congrArg Prod.fst found)
  have evolves := SessionStore.get_evolves (g.run w es).store (g.run w es).now id
  rw [found] at evolves
  obtain ⟨capacity, ttl⟩ := pools_run (g := g) w es name
  obtain ⟨capacity', ttl'⟩ := pools_run (g := g) w es .authenticated
  obtain ⟨kept, length⟩ := evolves.pools .authenticated
  have same := fresh.pool_eq .authenticated name
  have time : (g.run w es).now.add (s.pool .authenticated).ttl = .ok expires := by
    rwa [length, ttl', same, ← ttl]
  refine SessionStore.renew_of_room ?_ time
  rwa [kept, capacity', same, ← capacity]

/-- Redeeming a code of somebody in a session that can be renewed ends with a login. -/
theorem Redeems.answered {identity : Identity} {seconds : Int} {r : Except Fault Outcome}
    (h : Redeems g code n v r u) (fresh : v.channel = .fresh)
    (attempt : (g.attemptOf { code, redirectUri := v.request.callbackUrl } v).result =
      .ok (some identity))
    (time : v.world.wall.wholeSeconds = .ok seconds)
    (issue : (v.world.store.renew v.world.now n).result = .ok m) :
    ∃ result, r = .ok (.authenticated result true) ∧ result.identity = identity ∧
      u.calls =
        v.calls ++ (g.attemptOf { code, redirectUri := v.request.callbackUrl } v).calls := by
  cases h with
  | broken login =>
    cases login with
    | broken h => exact absurd (h.symm.trans attempt) nofun
    | untimed _ late => exact absurd (late.symm.trans time) nofun
    | unissued _ _ full => exact absurd (full.symm.trans issue) nofun
  | refused login =>
    cases login with
    | refused h => exact absurd (h.symm.trans attempt) nofun
  | redeemed login ends =>
    cases login with
    | @renewed found _ _ known =>
      obtain rfl := Option.some.inj (Except.ok.inj (known.symm.trans attempt))
      cases ends with
      | taken => exact ⟨_, rfl, rfl, rfl⟩
      | failed failed =>
        have taken : v.channel.redirect _ _ = _ := failed
        rw [fresh] at taken
        cases taken

/-- A challenge of the request `r` told the provider a state and an address to come back to.  They
are read in the query that was put behind the address of the provider. -/
structure Begins (g : Gate) (v : Visit) (r : Request) (state redirectUri : String) : Prop where
  sent : ∃ url query, v.channel = .buffered (some r.redirectStatus) (some (.wide url)) ∧
    Challenge.Appends g.provider url query ∧
    (Form.pairs query).lookup "state" = some state ∧
    (Form.pairs query).lookup "redirect_uri" = some redirectUri

/-- A callback to the place of the request `r` finds the session `n` and brings a code and a state.
-/
structure Follows (w : World) (r c : Request) (n : Serial) (code state : String) : Prop where
  callback : isCallback c.uri = true
  place : c.SamePlace r
  cookie : c.sessionFromUrl = false
  found : ∃ id, c.sessionId = some id ∧ id ≠ "" ∧ (w.store.get w.now id).1 = .ok (some n)
  code : c.parameter "code" = some code
  state : c.parameter "state" = some state

/-- A callback that follows a challenge is answered, with the address of the challenge. -/
theorem Follows.answered {identity : Identity} {seconds : Int} (fresh : w.Fresh)
    (h : Follows (g.run w es) r c n code token) (held : (g.run w es).HasToken n token)
    (time : (g.run w es).wall.wholeSeconds = .ok seconds)
    (login : (g.service.login (g.run w es).users (g.run w es).wall (g.run w es).replies
      { code, redirectUri := r.callbackUrl }).result = .ok (some identity)) :
    ∃ result,
      (g.visit (g.run w es) (.validate mandatory) c .fresh).1 =
          .ok (some (.authenticated result true)) ∧
        result.identity = identity ∧
        (g.visit (g.run w es) (.validate mandatory) c .fresh).2.calls =
          [g.service.exchanger.callOf code r.callbackUrl] := by
  obtain ⟨id, named, given, found⟩ := h.found
  obtain ⟨s, found⟩ : ∃ s, (g.run w es).store.get (g.run w es).now id = (.ok (some n), s) :=
    ⟨_, Prod.ext found rfl⟩
  have visits := visit_visits g (g.run w es) (.validate mandatory) c .fresh
  generalize (g.visit (g.run w es) (.validate mandatory) c .fresh).1 = o at visits ⊢
  generalize (g.visit (g.run w es) (.validate mandatory) c .fresh).2 = u at visits ⊢
  cases visits with
  | validate decides =>
    have accepted : Csrf.accepts? (Visit.session
        { world := g.run w es, request := c, channel := .fresh } n) (c.parameter "state") =
          some true := by
      rw [h.state]
      exact World.HasToken.accepts held
    have redeems := decides.redeems h.callback h.cookie named given found h.code accepted
    rw [← h.place.callbackUrl_eq] at login ⊢
    obtain ⟨result, rfl, same, calls⟩ :=
      redeems.answered rfl login time (renew_of_found fresh found)
    refine ⟨result, rfl, same, calls.trans ?_⟩
    exact g.service.calls_login _ _ _ code c.callbackUrl

/-- Whatever happens from a visit on, a callback that follows the challenge of the request `r`, with
a code of somebody, is answered, and the code is redeemed once. -/
def Completable (g : Gate) (v : Visit) (r : Request) (n : Serial) (state redirectUri : String) :
    Prop :=
  ∀ (post : List Event) (mandatory : Bool) (c : Request) (code : String) (identity : Identity)
      (seconds : Int) (u : World), u = g.run v.world post → Follows u r c n code state →
    u.wall.wholeSeconds = .ok seconds →
    (g.service.login u.users u.wall u.replies { code, redirectUri }).result = .ok (some identity) →
    ∃ result,
      (g.visit u (.validate mandatory) c .fresh).1 = .ok (some (.authenticated result true)) ∧
        result.identity = identity ∧
        (g.visit u (.validate mandatory) c .fresh).2.calls =
          [g.service.exchanger.callOf code redirectUri]

/-- **A login that was begun can be completed.**  Take any run from an empty store and after it a
request that is challenged, in a session that the request names then.  The provider is told a state
and an address in the query, with which the login is completed after any other run, as long as the
clock of the system shows a time.  Tokens that are drawn are not empty. -/
theorem completable_of_challenged (fresh : w.Fresh) (filled : "" ∉ w.tokens.given)
    (begun : v = (g.visit (g.run w es) (.validate mandatory) r channel).2)
    (challenged : (g.visit (g.run w es) (.validate mandatory) r channel).1 =
      .ok (some .challenged)) :
    ∃ n id state redirectUri, v.request.sessionId = some id ∧
      v.world.store.issuedIds[n]? = some id ∧ Begins g v r state redirectUri ∧
      Completable g v r n state redirectUri := by
  subst begun
  have named := named_run (g := g) (named_of_fresh fresh) es
  have tokens := (sound_run (g := g) (sound_of_fresh fresh filled) es).tokens
  obtain ⟨n, id, token, url, names, issued, held, address, sent⟩ :=
    exists_of_challenged named tokens challenged
  have pairs := Challenge.pairs_query g.provider r token
  refine ⟨n, id, token, r.callbackUrl, names, issued, ⟨url, _, sent,
    Challenge.appends_of_url? address, by rw [pairs]; rfl, by rw [pairs]; rfl⟩, ?_⟩
  rintro post mandatory' c code identity seconds u rfl follows time login
  let challenge := Event.call (.validate mandatory) r channel
  have whole : g.run w (es ++ challenge :: post) =
      g.run (g.visit (g.run w es) (.validate mandatory) r channel).2.world post := by
    rw [run_append, run_cons]
    rfl
  have still := hasToken_run (g := g) held post
  rw [← whole] at follows time login still ⊢
  exact follows.answered fresh still time login

/-- The login that is begun in a small world can be completed, and a callback follows. -/
theorem completable_of_smallChallenge :
    let g := smallGate true
    let w := smallWorld none
    let page := smallRequest "/page" "" none
    let v := (g.visit (g.run w []) (.validate true) page .fresh).2
    let back := smallRequest "/j_security_check" "code=abc&state=token" (some "first")
    w.Fresh ∧ "" ∉ w.tokens.given ∧
      (g.visit (g.run w []) (.validate true) page .fresh).1 = .ok (some .challenged) ∧
      Follows v.world page back 0 "abc" "token" ∧ v.world.wall.wholeSeconds = .ok 0 ∧
      (g.service.login v.world.users v.world.wall v.world.replies
        { code := "abc", redirectUri := "http://app/j_security_check" }).result =
          .ok (some smallResult.identity) ∧
      ∃ n id state redirectUri, v.request.sessionId = some id ∧
        v.world.store.issuedIds[n]? = some id ∧ Begins g v page state redirectUri ∧
        Completable g v page n state redirectUri := by
  intro g w page v back
  have filled : "" ∉ w.tokens.given := by decide
  have challenged : (g.visit (g.run w []) (.validate true) page .fresh).1 =
      .ok (some .challenged) := by decide +kernel
  have follows : Follows v.world page back 0 "abc" "token" :=
    { callback := by decide +kernel
      place := ⟨rfl, rfl, rfl, rfl⟩
      cookie := rfl
      found := ⟨"first", rfl, by decide, by decide +kernel⟩
      code := by decide +kernel
      state := by decide +kernel }
  exact ⟨smallWorld_fresh none, filled, challenged, follows, by decide +kernel, by decide +kernel,
    completable_of_challenged (smallWorld_fresh none) filled rfl challenged⟩

end Gate
end LoginGate
