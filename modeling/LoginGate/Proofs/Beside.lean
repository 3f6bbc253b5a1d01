/-
# Two calls side by side

The same call made in two worlds, of which the second has some of the sessions of the first.  Where
the request names the same session in both and both calls are dealt the same, they end alike, and
the session that the one issues, if any, is the session that the other issues.

| dealt to a call | by |
| --- | --- |
| the id of the session that it issues | the supply of ids |
| the token that it draws | the supply of tokens |
| what comes of the code that it redeems | the provider |
-/

import LoginGate.Proofs.Completion
import LoginGate.Proofs.Tandem

namespace LoginGate
namespace Gate

open Step (Alike parallel_pure parallel_read parallel_logAll parallel_context parallel_detail
  parallel_session parallel_modifySession parallel_modifyRequest parallel_redirect)

variable {α : Type} {g : Gate} {σ : List Serial} {total : Nat} {v u x y z z' : Visit}
  {n k : Serial} {c d : LogContext} {a b : Option Serial} {cr : Credentials} {code : String}

/-- What two visits, the one from `v` to `x` and the other from `u` to `y`, are dealt in common is
the same: the id of the session that both issue, the token that both draw, and what comes of the
code that both redeem. -/
structure Deals (g : Gate) (v x u y : Visit) : Prop where
  ids : ∀ id id', x.world.store.issuedIds[v.world.store.sessions.length]? = some id →
    y.world.store.issuedIds[u.world.store.sessions.length]? = some id' → id' = id
  tokens : x.world.tokens ≠ v.world.tokens → y.world.tokens ≠ u.world.tokens →
    u.world.tokens.draw.1 = v.world.tokens.draw.1
  exchange : x.calls ≠ v.calls → y.calls ≠ u.calls →
    ∀ code, v.request.parameter "code" = some code →
      (g.service.exchanger.exchange u.world.wall u.world.replies code
          u.request.callbackUrl).result =
        (g.service.exchanger.exchange v.world.wall v.world.replies code
          v.request.callbackUrl).result

/-- Nothing was dealt yet. -/
structure Undealt (v x : Visit) : Prop where
  length : x.world.store.sessions.length = v.world.store.sessions.length
  tokens : x.world.tokens = v.world.tokens
  replies : x.world.replies = v.world.replies
  calls : x.calls = v.calls
  request : x.request = v.request
  wall : x.world.wall = v.world.wall

/-- What is dealt from a later point on is dealt from the beginning, if nothing was dealt before
it. -/
theorem Deals.later (h : Deals g v z u z') (left : Undealt v x) (right : Undealt u y) :
    Deals g x z y z' := by
  refine ⟨?_, ?_, ?_⟩
  · rw [left.length, right.length]
    exact h.ids
  · rw [left.tokens, right.tokens]
    exact h.tokens
  · rw [left.calls, right.calls, left.request, right.request, left.replies, right.replies,
      left.wall, right.wall]
    exact h.exchange

/-- How two visits that began side by side end: alike, and a session was issued in both or in
none. -/
inductive Beside (σ : List Serial) (total : Nat) (p q : Except Fault α × Visit) : Prop
  | same (alike : Alike σ total p q)
  | issued (alike : Alike (σ ++ [total]) (total + 1) p q)
      (leased : p.2.world.store.Leased total ↔ q.2.world.store.Leased σ.length)

/-! ## Looking for a session -/

/-- **Looking for the session of the request ends alike,** with the same fault, or with a session
and the one at its place, or without one. -/
theorem requestSession_alike (h : Visit.Mirrors σ total v u)
    (live : Places σ (v.world.live? v.request) (u.world.live? u.request)) :
    Visit.Mirrors σ total (Step.requestSession.on v).2 (Step.requestSession.on u).2 ∧
      ((∃ fault, (Step.requestSession.on v).1 = .error fault ∧
          (Step.requestSession.on u).1 = .error fault) ∨
        ∃ a b, Places σ a b ∧ (Step.requestSession.on v).1 = .ok a ∧
          (Step.requestSession.on u).1 = .ok b) := by
  simp only [Step.requestSession, Step.on_bind, Step.on_get, World.live?, h.request,
    h.world.now] at live ⊢
  cases named : v.request.sessionId with
  | none => exact ⟨h, .inr ⟨none, none, .nobody, rfl, rfl⟩⟩
  | some id =>
    by_cases blank : id.isEmpty
    · simp only [blank, if_true]
      exact ⟨h, .inr ⟨none, none, .nobody, rfl, rfl⟩⟩
    · have filled : (Option.filter (fun id : String => !id.isEmpty) (some id)) = some id := by
        simp [Option.filter, blank]
      rw [named, filled, Option.bind_some, Option.bind_some] at live
      have sought : Visit.Mirrors σ total (v.withStore (v.world.store.get v.world.now id).2)
          (u.withStore (u.world.store.get v.world.now id).2) :=
        ⟨h.request, h.channel, h.world.users, h.world.now, h.world.wall,
          h.world.store.of_sessions (SessionStore.sessions_get ..) (SessionStore.sessions_get ..)
            (SessionStore.get_evolves ..).pools (SessionStore.get_evolves ..).pools⟩
      have ends := h.world.store.get_cases live
      simp only [blank, Bool.false_eq_true, if_false, Step.on_bind, Step.on_setStore]
      generalize v.world.store.get v.world.now id = p at sought ends ⊢
      generalize u.world.store.get v.world.now id = q at sought ends ⊢
      obtain ⟨r, s⟩ := p
      obtain ⟨r', t⟩ := q
      dsimp only at ends
      obtain ⟨fault, rfl, rfl⟩ | ⟨a, b, places, rfl, rfl⟩ := ends
      · exact ⟨sought, .inl ⟨_, rfl, rfl⟩⟩
      · exact ⟨sought, .inr ⟨a, b, places, rfl, rfl⟩⟩

/-- Looking for a session deals nothing. -/
theorem undealt_of_finds {r : Except Fault (Option Serial)} (finds : Step.Finds v r x) :
    Undealt v x := by
  obtain ⟨s, rfl, sessions, -⟩ := finds.exists_store
  exact ⟨congrArg List.length sessions, rfl, rfl, rfl, rfl, rfl⟩

/-- Steps that look for the session of the request first, and go on side by side with what they
find. -/
theorem requestSession_beside {f f' : Option Serial → Step α} (h : Visit.Mirrors σ total v u)
    (live : Places σ (v.world.live? v.request) (u.world.live? u.request))
    (deals : Deals g v ((Step.requestSession >>= f).on v).2 u ((Step.requestSession >>= f').on u).2)
    (next : ∀ a b x y, Step.Finds v (.ok a) x → Step.Finds u (.ok b) y → Places σ a b →
      Visit.Mirrors σ total x y → Deals g x ((f a).on x).2 y ((f' b).on y).2 →
      Beside σ total ((f a).on x) ((f' b).on y)) :
    Beside σ total ((Step.requestSession >>= f).on v) ((Step.requestSession >>= f').on u) := by
  have findsL := Step.requestSession_finds v
  have findsR := Step.requestSession_finds u
  obtain ⟨mirrors, alike⟩ := requestSession_alike h live
  rw [Step.on_bind, Step.on_bind] at deals ⊢
  generalize Step.requestSession.on v = p at *
  generalize Step.requestSession.on u = q at *
  obtain ⟨r, x⟩ := p
  obtain ⟨r', y⟩ := q
  dsimp only at *
  obtain ⟨fault, rfl, rfl⟩ | ⟨a, b, places, rfl, rfl⟩ := alike
  · exact .same ⟨rfl, mirrors⟩
  · exact next a b x y findsL findsR places mirrors
      (deals.later (undealt_of_finds findsL) (undealt_of_finds findsR))

/-! ## Sessions that are issued -/

/-- The serial that is issued next stands at the end. -/
theorem last_place : (σ ++ [total])[σ.length]? = some total :=
  List.getElem?_concat_length

/-- Challenges without a session end side by side: both issue one, or both are refused. -/
theorem challenge_beside (h : Visit.Mirrors σ total v u) (left : v.world.store.Named)
    (right : u.world.store.Named)
    (deals : Deals g v ((g.challenge c none).on v).2 u ((g.challenge d none).on u).2) :
    Beside σ total ((g.challenge c none).on v) ((g.challenge d none).on u) := by
  have startL := on_challenge_none g c v
  have startR := on_challenge_none g d u
  have opensL := left.opens v.world.now
  have opensR := right.opens v.world.now
  rw [h.world.now] at startR
  rw [startL, startR] at deals ⊢
  generalize v.world.store.create v.world.now = i at *
  generalize u.world.store.create v.world.now = j at *
  cases h.world.store.opened opensL opensR with
  | refused refusedL refusedR unleased =>
    rw [refusedL, refusedR] at deals ⊢
    have mirrors := h.world.store.issue opensL opensR deals.ids
    exact .issued ⟨rfl, h.request, h.channel, h.world.users, h.world.now, h.world.wall, mirrors⟩
      (iff_of_false unleased.1 unleased.2)
  | issued issuedL issuedR leased =>
    rw [issuedL, issuedR] at deals ⊢
    dsimp only at deals ⊢
    have endsL := challenge_challenges g c total
      { v.withStore i.store with
        request := { v.request with sessionId := some (i.store.idOf total) }
        log := v.log ++ i.log }
    have endsR := challenge_challenges g d σ.length
      { u.withStore j.store with
        request := { u.request with sessionId := some (j.store.idOf σ.length) }
        log := u.log ++ j.log }
    have mirrors := h.world.store.issue opensL opensR fun id id' hid hid' => deals.ids id id'
      (SessionStore.issued_mono endsL.evolves.store.ids hid)
      (SessionStore.issued_mono endsR.evolves.store.ids hid')
    have named := mirrors.idOf_eq last_place
    refine .issued (challenge_alike
      ⟨?_, h.channel, h.world.users, h.world.now, h.world.wall, mirrors⟩ last_place
      deals.tokens) ?_
    · dsimp only
      rw [h.request, named]
    · rw [SessionStore.leased_congr endsL.alike, SessionStore.leased_congr endsR.alike]
      exact iff_of_true leased.1 leased.2

/-! ## Requests that need a login -/

/-- Decisions on a page end side by side, in a session and in the one at its place. -/
theorem protect_beside (h : Visit.Mirrors σ total v u) (left : v.world.store.Named)
    (right : u.world.store.Named) (places : Places σ a b)
    (deals : Deals g v ((g.protect c a).on v).2 u ((g.protect d b).on u).2) :
    Beside σ total ((g.protect c a).on v) ((g.protect d b).on u) := by
  cases places with
  | somebody place => exact .same (protect_alike h place deals.tokens)
  | nobody =>
    have enters : ∀ (c : LogContext) (v : Visit), (g.protect c none).on v =
        (if v.channel.isDeferred then do
            Step.detail .authenticator c "auth deferred, cannot challenge"
            pure .unauthenticated
          else g.challenge c none : Step Outcome).on v := by
      intro c v
      rw [protect, Step.on_bind_ok (Step.on_pure none v)]
      dsimp only
      rw [Step.on_bind_ok (Step.on_get v)]
    rw [enters, enters, h.channel] at deals ⊢
    cases deferred : v.channel.isDeferred with
    | true => exact .same (parallel_detail.bind (fun _ => parallel_pure _) v u h)
    | false =>
      rw [deferred] at deals
      exact challenge_beside h left right deals

/-! ## Callbacks -/

/-- A login comes to the same, with the same credentials, where its code is answered alike. -/
theorem login_congr {s : LoginService} {now : Instant} {replies others : List Reply}
    {redirectUri : String} (users : Option Users)
    (same : (s.exchanger.exchange now others code redirectUri).result =
      (s.exchanger.exchange now replies code redirectUri).result) :
    (s.login users now others { code, redirectUri }).result =
        (s.login users now replies { code, redirectUri }).result ∧
      (s.login users now others { code, redirectUri }).credentials =
        (s.login users now replies { code, redirectUri }).credentials := by
  unfold LoginService.login LoginService.redeem
  dsimp only
  rw [same]
  cases (s.exchanger.exchange now replies code redirectUri).result with
  | error fault => cases fault <;> exact ⟨rfl, rfl⟩
  | ok verified =>
    dsimp only
    cases s.identify users verified.claims <;> exact ⟨rfl, rfl⟩

/-- How two logins that began side by side end. -/
inductive LogBeside (σ : List Serial) (total : Nat)
    (p q : Except Fault (Option (AuthResult × Serial)) × Visit) : Prop
  | broken (alike : Alike σ total p q) (nobody : ∀ r, p.1 ≠ .ok (some r))
  | refused (alike : Alike (σ ++ [total]) (total + 1) p q) (nobody : ∀ r, p.1 ≠ .ok r)
      (unleased : ¬ p.2.world.store.Leased total ∧ ¬ q.2.world.store.Leased σ.length)
  | done {result : AuthResult} (left : p.1 = .ok (some (result, total)))
      (right : q.1 = .ok (some (result, σ.length)))
      (mirrors : Visit.Mirrors (σ ++ [total]) (total + 1) p.2 q.2)
      (held : p.2.world.store.Leased total ∧ q.2.world.store.Leased σ.length)

/-- Visits mirror each other whatever the provider was asked: the answers that are left may
differ. -/
theorem asked_mirrors (h : Visit.Mirrors σ total v u) (p q : LoginAttempt) :
    Visit.Mirrors σ total (asked p v) (asked q u) :=
  ⟨h.request, h.channel, h.world.users, h.world.now, h.world.wall, h.world.store⟩

/-- An equation for a login, with what it writes to the log left open. -/
theorem on_login (g : Gate) (cr : Credentials) (n : Serial) (v : Visit) :
    ∃ log, (g.login cr (some n)).on v =
      match (g.attemptOf cr v).result with
      | .error cause => (.error (.breakdown cause), { asked (g.attemptOf cr v) v with log })
      | .ok none => (.ok none, { asked (g.attemptOf cr v) v with log })
      | .ok (some identity) =>
        match v.world.wall.wholeSeconds with
        | .error fault =>
          (.error (.breakdown (.clock fault)), { asked (g.attemptOf cr v) v with log })
        | .ok seconds =>
          match (v.world.store.renew v.world.now n).result with
          | .error fault =>
            (.error (.capacity fault),
              { (asked (g.attemptOf cr v) v).withStore
                  (v.world.store.renew v.world.now n).store with log })
          | .ok m =>
            (.ok (some (resultOf identity (g.attemptOf cr v).credentials seconds, m)),
              { renewed (v.world.store.renew v.world.now n) m
                  (resultOf identity (g.attemptOf cr v).credentials seconds)
                  (asked (g.attemptOf cr v) v) with log }) := by
  have ends := login_logsIn g cr n v
  generalize done : (g.login cr (some n)).on v = p at ends ⊢
  obtain ⟨r, w⟩ := p
  dsimp only at ends
  cases ends with
  | broken h log =>
    rw [h]
    exact ⟨log, rfl⟩
  | refused h log =>
    rw [h]
    exact ⟨log, rfl⟩
  | untimed h time log =>
    rw [h]
    dsimp only
    rw [time]
    exact ⟨log, rfl⟩
  | unissued h time issue log =>
    rw [h]
    dsimp only
    rw [time]
    dsimp only
    rw [issue]
    exact ⟨log, rfl⟩
  | renewed h time issue log =>
    rw [h]
    dsimp only
    rw [time]
    dsimp only
    rw [issue]
    exact ⟨log, rfl⟩

/-- **Logins end side by side,** if they come to the same and draw the same id. -/
theorem login_beside (h : Visit.Mirrors σ total v u) (place : σ[k]? = some n)
    (left : v.world.store.Renewable v.world.now n) (right : u.world.store.Renewable v.world.now k)
    (attempt : (g.attemptOf cr u).result = (g.attemptOf cr v).result ∧
      (g.attemptOf cr u).credentials = (g.attemptOf cr v).credentials)
    (ids : ∀ id id', ((g.login cr (some n)).on v).2.world.store.issuedIds[
        v.world.store.sessions.length]? = some id →
      ((g.login cr (some k)).on u).2.world.store.issuedIds[
        u.world.store.sessions.length]? = some id' → id' = id) :
    LogBeside σ total ((g.login cr (some n)).on v) ((g.login cr (some k)).on u) := by
  obtain ⟨logL, equationL⟩ := on_login g cr n v
  obtain ⟨logR, equationR⟩ := on_login g cr k u
  have opensL := left.opens
  have opensR := right.opens
  rw [attempt.1, attempt.2, h.world.now, h.world.wall] at equationR
  rw [equationL, equationR] at ids ⊢
  rw [h.world.store.session?_eq place] at opensR
  have asks := asked_mirrors h (g.attemptOf cr v) (g.attemptOf cr u)
  generalize v.world.store.renew v.world.now n = i at *
  generalize u.world.store.renew v.world.now k = j at *
  cases result : (g.attemptOf cr v).result with
  | error cause => exact .broken ⟨rfl, asks.withLog _ _⟩ nofun
  | ok found =>
    cases found with
    | none => exact .broken ⟨rfl, asks.withLog _ _⟩ nofun
    | some identity =>
      rw [result] at ids
      dsimp only at ids ⊢
      cases time : v.world.wall.wholeSeconds with
      | error fault => exact .broken ⟨rfl, asks.withLog _ _⟩ nofun
      | ok seconds =>
        rw [time] at ids
        dsimp only at ids ⊢
        cases h.world.store.opened opensL opensR with
        | refused refusedL refusedR unleased =>
          rw [refusedL, refusedR] at ids ⊢
          have mirrors := h.world.store.issue opensL opensR ids
          exact .refused
            ⟨rfl, h.request, h.channel, h.world.users, h.world.now, h.world.wall, mirrors⟩ nofun
            unleased
        | issued issuedL issuedR leased =>
          rw [issuedL, issuedR] at ids ⊢
          dsimp only [renewed, Visit.withStore] at ids ⊢
          have caches : ∀ (s : SessionStore) (m : Serial) (r : AuthResult),
              (s.modify m (Session.cache r)).issuedIds = s.issuedIds :=
            fun s m r => SessionStore.issuedIds_modify fun _ => rfl
          rw [caches, caches] at ids
          have mirrors := h.world.store.issue opensL opensR ids
          refine .done rfl rfl
            ⟨?_, h.channel, h.world.users, h.world.now, h.world.wall, mirrors.modify last_place _⟩
            ⟨(SessionStore.leased_congr (.modify ..) _).2 leased.1,
              (SessionStore.leased_congr (.modify ..) _).2 leased.2⟩
          dsimp only [asked]
          rw [h.request, mirrors.idOf_eq last_place]

/-- What redeeming a code goes on with once its login is decided. -/
def concluding (g : Gate) (c : LogContext) : Option (AuthResult × Serial) → Step Outcome
  | none => g.failCallback c "login_failed"
  | some (result, m) => do
    let target := SavedRequest.target (← get).request (← Step.session m)
    Step.modifySession m SavedRequest.arrive
    Step.detail .callback c
      ("authenticated " ++ result.identity.subject ++ " -> " ++ target.spelled)
    Step.redirect target
    pure (.authenticated result true)

/-- Redeeming a code is its login, and what is concluded from it. -/
theorem on_redeemCode (g : Gate) (c : LogContext) (code : String) (n : Serial) (v : Visit) :
    (g.redeemCode c code n).on v =
      (g.login { code, redirectUri := v.request.callbackUrl } (some n) >>=
        g.concluding c).on v := by
  rw [redeemCode, Step.on_bind_ok (Step.on_get v)]
  rfl

/-- No session was issued, no lease set and nothing asked. -/
structure Idle (v x : Visit) : Prop where
  ids : x.world.store.issuedIds = v.world.store.issuedIds
  alike : v.world.store.Alike x.world.store
  calls : x.calls = v.calls

/-- Visits one after the other that issue, set and ask nothing. -/
theorem Idle.trans (h : Idle v x) (h' : Idle x y) : Idle v y :=
  ⟨h'.ids.trans h.ids, h.alike.trans h'.alike, h'.calls.trans h.calls⟩

/-- Ending a decision issues, sets and asks nothing. -/
theorem idle_of_ends {f : Channel → Except ChannelFault Channel} {o : Outcome}
    {r : Except Fault Outcome} (ends : Step.Ends f o v r x) : Idle v x := by
  cases ends <;> exact ⟨rfl, .refl _, rfl⟩

/-- Using up a destination issues, sets and asks nothing. -/
theorem arrive_idle (n : Serial) (v : Visit) : Idle v (changed n SavedRequest.arrive v) :=
  ⟨SessionStore.issuedIds_modify fun _ => rfl, changed_alike n _ v, rfl⟩

/-- What is concluded from a login issues, sets and asks nothing. -/
theorem concluding_idle (found : Option (AuthResult × Serial)) :
    Idle x ((g.concluding c found).on x).2 := by
  cases found with
  | none => exact idle_of_ends (failCallback_ends g c "login_failed" x)
  | some found =>
    obtain ⟨result, m⟩ := found
    rw [concluding, Step.on_bind_ok (Step.on_get x), Step.on_bind_ok (Step.on_session m x),
      Step.on_bind_ok (Step.on_modifySession ..), Step.on_bind_ok (Step.on_detail ..)]
    exact (arrive_idle m x).trans (idle_of_ends
      (Step.redirect_ends (SavedRequest.target x.request (x.session m))
        (.authenticated result true) (changed m SavedRequest.arrive x) _))

/-- The end of a callback adds nothing to what its login did. -/
theorem bind_concluding_idle (s : Step (Option (AuthResult × Serial))) (v : Visit) :
    Idle (s.on v).2 ((s >>= g.concluding c).on v).2 := by
  rw [Step.on_bind]
  rcases s.on v with ⟨fault | found, x⟩
  · exact ⟨rfl, .refl _, rfl⟩
  · exact concluding_idle found

/-- Logins that end side by side are concluded side by side. -/
theorem LogBeside.concluded {s t : Step (Option (AuthResult × Serial))}
    (h : LogBeside σ total (s.on v) (t.on u)) :
    Beside σ total ((s >>= g.concluding c).on v) ((t >>= g.concluding d).on u) := by
  have leased := SessionStore.leased_congr (bind_concluding_idle (g := g) (c := c) s v).alike total
  have leased' :=
    SessionStore.leased_congr (bind_concluding_idle (g := g) (c := d) t u).alike σ.length
  cases h with
  | broken alike nobody =>
    refine .same (alike.after fun found x y left right mirrors => ?_)
    cases found with
    | none => exact parallel_failCallback _ x y mirrors
    | some r => exact absurd (congrArg Prod.fst left) (nobody r)
  | refused alike nobody unleased =>
    refine .issued (alike.after fun found x y left right mirrors => ?_) ?_
    · exact absurd (congrArg Prod.fst left) (nobody found)
    · exact iff_of_false (mt leased.1 unleased.1) (mt leased'.1 unleased.2)
  | @done result left right mirrors held =>
    refine .issued ?_ (iff_of_true (leased.2 held.1) (leased'.2 held.2))
    rw [Step.on_bind_ok (Prod.ext left rfl), Step.on_bind_ok (Prod.ext right rfl)]
    refine parallel_read (fun v u h => (parallel_session last_place).bind (fun a => ?_) v u h) _ _
      mirrors
    rw [h.request]
    exact (parallel_modifySession last_place _).bind fun _ => parallel_detail.bind fun _ =>
      (parallel_redirect _).bind fun _ => parallel_pure _

/-- A login asks the service once. -/
theorem calls_of_login (g : Gate) (cr : Credentials) (n : Serial) (v : Visit) :
    ((g.login cr (some n)).on v).2.calls = v.calls ++ (g.attemptOf cr v).calls := by
  have ends := login_logsIn g cr n v
  generalize (g.login cr (some n)).on v = p at ends ⊢
  obtain ⟨r, x⟩ := p
  dsimp only at ends
  cases ends <;> rfl

/-- A code is not redeemed unasked. -/
theorem calls_of_redeemCode (g : Gate) (c : LogContext) (code : String) (n : Serial) (v : Visit) :
    ((g.redeemCode c code n).on v).2.calls ≠ v.calls := by
  rw [on_redeemCode, (bind_concluding_idle _ _).calls, calls_of_login, attemptOf,
    LoginService.calls_login]
  simp

/-- Redeeming a code ends side by side, if the provider answers alike. -/
theorem redeemCode_beside (h : Visit.Mirrors σ total v u) (place : σ[k]? = some n)
    (left : v.world.store.Renewable v.world.now n) (right : u.world.store.Renewable v.world.now k)
    (given : v.request.parameter "code" = some code)
    (deals : Deals g v ((g.redeemCode c code n).on v).2 u ((g.redeemCode d code k).on u).2) :
    Beside σ total ((g.redeemCode c code n).on v) ((g.redeemCode d code k).on u) := by
  have exchange := deals.exchange (calls_of_redeemCode _ _ _ _ _) (calls_of_redeemCode _ _ _ _ _)
    code given
  have ids := deals.ids
  rw [h.request, h.world.wall] at exchange
  rw [on_redeemCode, on_redeemCode, (bind_concluding_idle _ _).ids, (bind_concluding_idle _ _).ids,
    h.request] at ids
  rw [on_redeemCode, on_redeemCode, h.request]
  refine (login_beside h place left right ?_ ids).concluded
  rw [attemptOf, attemptOf, h.world.users, h.world.wall]
  exact login_congr v.world.users exchange

/-- Callbacks end side by side, in a session and in the one at its place. -/
theorem callback_beside (h : Visit.Mirrors σ total v u) (places : Places σ a b)
    (left : ∀ n, a = some n → v.world.store.Renewable v.world.now n)
    (right : ∀ k, b = some k → u.world.store.Renewable v.world.now k)
    (deals : Deals g v ((g.callback a).on v).2 u ((g.callback b).on u).2) :
    Beside σ total ((g.callback a).on v) ((g.callback b).on u) := by
  simp only [callback, callbackContext, Step.on_bind, Step.on_get, Step.on_pure] at deals ⊢
  rw [h.request] at deals ⊢
  cases given : v.request.parameter "code" with
  | none => exact .same (parallel_failCallback _ v u h)
  | some code =>
    cases places with
    | nobody => exact .same (parallel_refuseState v u h)
    | somebody place =>
      rw [given] at deals
      simp only [Step.on_bind, Step.on_session, h.session_eq place] at deals ⊢
      cases state : Csrf.accepts? (v.session _) (v.request.parameter "state") with
      | none => exact .same ⟨rfl, h⟩
      | some accepted =>
        rw [state] at deals
        cases accepted with
        | false => exact .same (parallel_refuseState v u h)
        | true => exact redeemCode_beside h place (left _ rfl) (right _ rfl) given deals

/-! ## Decisions -/

/-- The session that a request names can be renewed. -/
theorem renewable_of_finds (h : v.world.store.Ready) (finds : Step.Finds v (.ok (some n)) x) :
    x.world.store.Renewable v.world.now n := by
  cases finds with
  | found _ _ found => exact h.renewable found

/-- **Decisions end side by side,** if what they are dealt in common is the same. -/
theorem validate_beside {mandatory : Bool} (h : Visit.Mirrors σ total v u)
    (live : Places σ (v.world.live? v.request) (u.world.live? u.request))
    (left : v.world.store.Ready) (right : u.world.store.Ready)
    (deals : Deals g v ((g.validate mandatory).on v).2 u ((g.validate mandatory).on u).2) :
    Beside σ total ((g.validate mandatory).on v) ((g.validate mandatory).on u) := by
  have named : ∀ {v x : Visit} {r : Except Fault (Option Serial)}, v.world.store.Ready →
      Step.Finds v r x → x.world.store.Named :=
    fun ready finds => ready.named.evolves (finds_evolves finds).store
  rw [validate, Step.on_bind_ok (Step.on_context v), Step.on_bind_ok (Step.on_get v),
    Step.on_bind_ok (Step.on_context u), Step.on_bind_ok (Step.on_get u), h.request,
    h.channel] at deals ⊢
  obtain ⟨state, -⟩ | ⟨s, hs, state, -⟩ | ⟨state, -, -⟩ := classify_cases g mandatory v
  · rw [state] at deals ⊢
    cases url : v.request.sessionFromUrl with
    | true => exact .same (parallel_refuseUrlSession v u h)
    | false =>
      rw [url] at deals
      refine requestSession_beside h live deals fun a b x y findsL findsR places mirrors deals => ?_
      have now : x.world.now = v.world.now := (finds_evolves findsL).now
      refine callback_beside mirrors places (fun n same => ?_) (fun k same => ?_) deals
      · subst same
        exact now ▸ renewable_of_finds left findsL
      · subst same
        exact now ▸ h.world.now ▸ renewable_of_finds right findsR
  · rw [state]
    obtain rfl | rfl := hs
    · exact .same (parallel_defer _ v u h)
    · exact .same (parallel_defer _ v u h)
  · rw [state] at deals ⊢
    cases url : v.request.sessionFromUrl with
    | true => exact .same (parallel_refuseUrlSession v u h)
    | false =>
      rw [url] at deals
      exact requestSession_beside h live deals fun a b x y findsL findsR places mirrors deals =>
        protect_beside mirrors (named left findsL) (named right findsR) places deals

/-! ## The other calls -/

/-- Requests are prepared side by side. -/
theorem prepare_beside (h : Visit.Mirrors σ total v u)
    (live : Places σ (v.world.live? v.request) (u.world.live? u.request))
    (deals : Deals g v (prepare.on v).2 u (prepare.on u).2) :
    Beside σ total (prepare.on v) (prepare.on u) := by
  refine requestSession_beside h live deals fun a b x y _ _ places mirrors _ => ?_
  cases places with
  | nobody => exact .same ⟨rfl, mirrors⟩
  | somebody place =>
    refine .same (parallel_read (fun v u h => (parallel_session place).bind (fun a => ?_) v u h)
      x y mirrors)
    rw [h.request]
    cases SavedRequest.restoredMethod? v.request a with
    | none => exact parallel_pure false
    | some method =>
      exact parallel_logAll.bind fun _ =>
        (parallel_modifyRequest _).bind fun _ => parallel_pure true

/-- Logouts end side by side: they issue nothing. -/
theorem logout_beside (h : Visit.Mirrors σ total v u)
    (live : Places σ (v.world.live? v.request) (u.world.live? u.request))
    (deals : Deals g v (logout.on v).2 u (logout.on u).2) :
    Beside σ total (logout.on v) (logout.on u) := by
  refine requestSession_beside h live deals fun a b x y _ _ places mirrors _ => ?_
  cases places with
  | nobody => exact .same ⟨rfl, mirrors⟩
  | somebody place =>
    refine .same (((parallel_modifySession place _).bind fun _ => ?_) x y mirrors)
    exact parallel_context.bind fun _ => parallel_detail

/-- Resolutions end side by side. -/
theorem resolve_beside (h : Visit.Mirrors σ total v u)
    (live : Places σ (v.world.live? v.request) (u.world.live? u.request))
    (left : v.world.store.Ready) (right : u.world.store.Ready)
    (deals : Deals g v (g.resolve.on v).2 u (g.resolve.on u).2) :
    Beside σ total (g.resolve.on v) (g.resolve.on u) := by
  cases other : isCallback v.request.uri with
  | true =>
    rw [on_resolve_of_callback g other, on_resolve_of_callback g (h.request ▸ other)]
    exact .same ⟨rfl, h⟩
  | false =>
    rw [on_resolve g other, on_resolve g (h.request ▸ other)] at deals ⊢
    have silent : Visit.Mirrors σ total { v with channel := .deferred }
        { u with channel := .deferred } := ⟨h.request, rfl, h.world⟩
    have decided : Beside σ total ((g.validate true).on { v with channel := .deferred })
        ((g.validate true).on { u with channel := .deferred }) :=
      validate_beside silent live left right ⟨deals.ids, deals.tokens, deals.exchange⟩
    cases decided with
    | same alike =>
      exact .same ⟨congrArg (Except.map unsent) alike.result, alike.visit.request, h.channel,
        alike.visit.world⟩
    | issued alike leased =>
      exact .issued ⟨congrArg (Except.map unsent) alike.result, alike.visit.request, h.channel,
        alike.visit.world⟩ leased

/-- Steps whose values are mapped alike end side by side. -/
theorem Beside.map {β : Type} {p q : Except Fault α × Visit} (h : Beside σ total p q) (f : α → β) :
    Beside σ total (p.1.map f, p.2) (q.1.map f, q.2) := by
  cases h with
  | same alike => exact .same ⟨congrArg (Except.map f) alike.result, alike.visit⟩
  | issued alike leased =>
    exact .issued ⟨congrArg (Except.map f) alike.result, alike.visit⟩ leased

/-- **Two calls with the same request end side by side,** if the second world has some of the
sessions of the first in the same order, the request names the same of them in both, and what both
calls are dealt is the same. -/
theorem visit_beside {w s : World} {e : Errand} {q : Request} {channel : Channel}
    (h : World.Mirrors σ total w s) (live : Places σ (w.live? q) (s.live? q))
    (left : w.store.Ready) (right : s.store.Ready)
    (deals : Deals g { world := w, request := q, channel } (g.visit w e q channel).2
      { world := s, request := q, channel } (g.visit s e q channel).2) :
    Beside σ total (g.visit w e q channel) (g.visit s e q channel) := by
  have mirrors : Visit.Mirrors σ total { world := w, request := q, channel }
      { world := s, request := q, channel } := ⟨rfl, rfl, h⟩
  unfold visit at deals ⊢
  cases e with
  | prepare =>
    rw [Errand.step, on_map fun _ => none, on_map fun _ => none] at deals ⊢
    exact (prepare_beside mirrors live deals).map _
  | validate mandatory =>
    rw [Errand.step, on_map some, on_map some] at deals ⊢
    exact (validate_beside mirrors live left right deals).map _
  | resolve =>
    rw [Errand.step, on_map some, on_map some] at deals ⊢
    exact (resolve_beside mirrors live left right deals).map _
  | logout =>
    have step : ∀ v : Visit, (Errand.logout.step g).on v =
        ((logout.on v).1.map fun _ => none, (logout.on v).2) :=
      fun v => on_map (fun _ => none) logout v
    rw [step, step] at deals ⊢
    exact (logout_beside mirrors live deals).map _

end Gate
end LoginGate
