/-
# A session id that is new reaches the browser

Two parts of a decision issue a session and write its id into the request: a challenge of a request
that names no live session, and a login.  The response that carries the id follows each of them, so
the application never gets a request whose id it would have to hand on to the browser.

| the decision | the session of the request |
| --- | --- |
| challenges a request without a live session | is new and pending, with the request and a token |
| logs in on a callback | goes on under a new id, logged in |
| any other | is the one that the request came with, if any |

The new id finds its session if a lease that starts now lasts.
-/

import LoginGate.Proofs.Handover
import LoginGate.Proofs.Lineage
import LoginGate.Proofs.Preparation
import LoginGate.Proofs.Responses
import LoginGate.Web.Guard

namespace LoginGate

/-! ## A session that is created -/

/-- **A session that is created** is found under the id that was drawn, which was live nowhere. -/
theorem SessionStore.holder?_of_create {s : SessionStore} {now : Instant} {n : Serial}
    (sane : s.Sane) (done : (s.create now).result = .ok n)
    (lasts : Seconds.Lasts (s.pool .pending).ttl now) :
    ∃ l, (s.create now).store.holder? now (s.ids.drawFree (s.liveIds now)).1 =
      some (.pending, l) ∧ l.serial = n := by
  have tidy : (s.create now).store.Tidy := fun b =>
    (s.create_issuing now).of_stable (Pool.tidy_stable now) (fun a => (sane.ranked a).toTidy) b
  cases s.create_issuing now with
  | refused refused => cases refused.symm.trans done
  | issued result set own other =>
    obtain rfl := Except.ok.inj (result.symm.trans done)
    obtain ⟨e, ends, -, -, leases⟩ := Pool.set_eq_ok set
    have free : (s.ids.drawFree (s.liveIds now)).1 ∉ s.liveIds now :=
      Supply.drawFree_not_mem sane.distinct
    have alone : (s.create now).store.authenticated = s.authenticated :=
      other .authenticated (by decide)
    refine ⟨⟨_, s.sessions.length, e, (s.pool .pending).uses⟩, (holder?_eq_some_iff tidy).2
      ⟨?_, lasts e ends, rfl, fun _ there => free ?_⟩, rfl⟩
    · rw [own, leases]
      exact List.mem_append_right _ List.mem_cons_self
    · rw [alone] at there
      exact List.mem_append_left _ there

namespace Gate

open Step (Ends Finds)

variable {g : Gate} {w x : World} {v u y : Visit} {q : Request} {n : Serial} {o : Outcome}
  {mandatory : Bool} {session : Option Serial} {r : Except Fault Outcome} {ttl e : Seconds}
  {capacity : Int} {ids : Supply} {channel : Channel}

/-- What became of the session of a request, by the outcome. -/
inductive Moves (x : World) (q : Request) (u : Visit) : Outcome → Prop
  /-- No session was issued. -/
  | stays {o : Outcome} (id : u.request.sessionId = q.sessionId)
      (sessions : u.world.store.sessions.length = x.store.sessions.length) : Moves x q u o
  /-- One session was issued, for a request that named none: it holds the request and a token. -/
  | opens {j : String} {s : Session} {l : Lease} (nobody : x.live? q = none)
      (id : u.request.sessionId = some j)
      (sessions : u.world.store.sessions = x.store.sessions ++ [s])
      (saved : q.slot? = some s.slot) (token : ∃ t, s.csrfToken = some (.text t))
      (found : u.world.store.holder? x.now j = some (.pending, l))
      (serial : l.serial = x.store.sessions.length) : Moves x q u .challenged
  /-- One session was issued, in the place of the one that the request named. -/
  | renews {result : AuthResult} {j : String} {n : Serial} {old : Session} {l : Lease}
      (named : x.live? q = some n) (there : x.store.session? n = some old)
      (id : u.request.sessionId = some j)
      (sessions : u.world.store.sessions = x.store.sessions ++
        [{ old with
            id := j
            authenticated := some (.result result)
            claims := some (.fields result.claims)
            response := some (.fields result.response)
            destination := none }])
      (found : u.world.store.holder? x.now j = some (.authenticated, l))
      (serial : l.serial = x.store.sessions.length) : Moves x q u (.authenticated result true)

/-- What the application gets came with the id that it has. -/
theorem Moves.sessionId_eq (h : Moves x q u o) (unsent : o.isSent = false) :
    u.request.sessionId = q.sessionId := by
  cases h with
  | stays id => exact id
  | opens => cases unsent
  | renews => cases unsent

/-! ## Parts that issue nothing -/

/-- A part of a decision issued no session. -/
structure IssuesNothing (v u : Visit) : Prop where
  id : u.request.sessionId = v.request.sessionId
  sessions : u.world.store.sessions.length = v.world.store.sessions.length

/-- Parts one after the other that issue nothing. -/
theorem IssuesNothing.trans (h : IssuesNothing v y) (h' : IssuesNothing y u) :
    IssuesNothing v u :=
  ⟨h'.id.trans h.id, h'.sessions.trans h.sessions⟩

/-- Changing a session issues none. -/
theorem issuesNothing_changed (n : Serial) (f : Session → Session) (v : Visit) :
    IssuesNothing v (changed n f v) :=
  ⟨rfl, List.length_modify ..⟩

/-- Looking for a session issues none. -/
theorem issuesNothing_of_finds {found : Except Fault (Option Serial)} (h : Finds v found u) :
    IssuesNothing v u := by
  obtain ⟨s, rfl, same, -⟩ := h.exists_store
  exact ⟨rfl, congrArg List.length same⟩

/-- Putting a saved request back issues no session. -/
theorem issuesNothing_replayed (n : Serial) (v : Visit) : IssuesNothing v (replayed n v) := by
  unfold replayed
  split
  · exact ⟨rfl, rfl⟩
  · exact ⟨rfl, (issuesNothing_changed n SavedRequest.drop v).sessions⟩

/-- Dropping a login issues no session. -/
theorem Unheld.issuesNothing (h : Unheld g v session u) : IssuesNothing v u := by
  cases h with
  | nobody => exact ⟨rfl, rfl⟩
  | empty => exact ⟨rfl, rfl⟩
  | @revoked n => exact ⟨rfl, (issuesNothing_changed n Session.forget v).sessions⟩

/-- The end of a decision issues no session. -/
theorem issuesNothing_of_ends {f : Channel → Except ChannelFault Channel}
    (h : Ends f o v r u) : IssuesNothing v u := by
  obtain ⟨world, request, -⟩ := ends_keeps h
  exact ⟨congrArg Request.sessionId request, by rw [world]⟩

/-- A challenge leaves the request, and changes its own session alone. -/
theorem Challenges.exists_change (h : Challenges g n v r u) :
    u.request = v.request ∧ ∃ f, u.world.store = v.world.store.modify n f := by
  cases h with
  | @unsaved begun => exact ⟨rfl, fun _ => begun, rfl⟩
  | @saved taken y _ i _ _ left _ sends =>
    subst left
    refine ⟨?_, fun _ => i.session, ?_⟩
    · cases sends with
      | tokenless => rfl
      | unaddressed => rfl
      | sent _ _ ends => exact (ends_keeps ends).2.1
    · rw [sends.world_eq]
      simp [marked, changed, Visit.withStore, SessionStore.modify, List.modify_modify_eq,
        Function.comp_def]

/-- A challenge in a session issues none. -/
theorem Challenges.issuesNothing (h : Challenges g n v r u) : IssuesNothing v u := by
  obtain ⟨request, f, store⟩ := h.exists_change
  exact ⟨congrArg Request.sessionId request, by rw [store]; exact List.length_modify ..⟩

/-- A callback that is answered has a verdict. -/
theorem Answers.isVerdict (h : Answers g v session (.ok o) u) : o.IsVerdict := by
  have verdict {f : Channel → Except ChannelFault Channel} {p : Outcome} {y z : Visit}
      (ends : Ends f p y (.ok o) z) (of : p.IsVerdict) : o.IsVerdict := by
    cases ends with
    | taken => exact of
  cases h with
  | noCode _ ends => exact verdict ends trivial
  | noSession _ ends => exact verdict ends trivial
  | wrongState _ _ ends => exact verdict ends trivial
  | redeemed _ _ redeems =>
    cases redeems with
    | refused _ ends => exact verdict ends trivial
    | redeemed _ ends => exact verdict ends trivial

/-! ## Parts that issue a session -/

/-- A challenge in the session that was issued last saves the request there, with a token. -/
theorem Challenges.last {s : SessionStore} {b : Session}
    (sessions : v.world.store.sessions = s.sessions ++ [b])
    (h : Challenges g s.sessions.length v (.ok .challenged) u) :
    ∃ taken a, SavedRequest.save g.settings.alwaysSave v.request b = .ok taken ∧
      u.world.store.sessions = s.sessions ++ [a] ∧ a.slot = taken.slot ∧
      ∃ token, a.csrfToken = some (.text token) := by
  obtain ⟨-, f, store⟩ := h.exists_change
  have last := SessionStore.modify_last sessions f
  rw [← store] at last
  have there : v.world.store.session? s.sessions.length = some b := by
    rw [SessionStore.session?, sessions, List.getElem?_concat_length]
  have here : u.world.store.session? s.sessions.length = some (f b) := by
    rw [SessionStore.session?, last, List.getElem?_concat_length]
  have late : ∀ fault, (Except.ok Outcome.challenged : Except Fault Outcome) = .error fault →
      fault.isLate = true := by
    intro fault failed
    cases failed
  obtain ⟨taken, save, kept⟩ := h.exists_saved late there
  obtain ⟨_, token, _, left, shown, -⟩ := h.redirects there
  refine ⟨taken, f b, save, last, ?_, token, ?_⟩
  · rw [Option.some.inj (here.symm.trans kept), (Csrf.ensure_slot ..).1]
  · rw [Option.some.inj (here.symm.trans left), Csrf.csrfToken_ensure, shown]

/-- **A challenge in a session that is created** for the request opens that session. -/
theorem opens_of_created {log : List LogRecord} (sane : v.world.store.Sane)
    (lasts : Seconds.Lasts (v.world.store.pool .pending).ttl v.world.now)
    (nobody : v.world.live? v.request = none)
    (issue : (v.world.store.create v.world.now).result = .ok n)
    (left : y =
      { v.withStore (v.world.store.create v.world.now).store with
        request :=
          { v.request with sessionId := some ((v.world.store.create v.world.now).store.idOf n) }
        log })
    (challenges : Challenges g n y (.ok .challenged) u) :
    Moves v.world v.request u .challenged := by
  subst left
  obtain ⟨result, sessions⟩ | ⟨refused, -⟩ := v.world.store.create_issues v.world.now
  case refused => cases issue.symm.trans refused
  rename_i j
  obtain rfl := Except.ok.inj (issue.symm.trans result)
  obtain ⟨request, -⟩ := challenges.exists_change
  obtain ⟨taken, a, save, last, slot, token⟩ := challenges.last sessions
  have saved : v.request.slot? = some a.slot := by
    obtain ⟨-, saved, -⟩ | ⟨full, -⟩ := SavedRequest.slot_of_save save
    · rw [slot]
      exact saved
    · simp [SavedRequest.takes, Session.withId, Attribute.present] at full
  have drawn := SessionStore.idOf_of_issued
    (SessionStore.getElem?_drawn (v.world.store.issuedIds_create v.world.now))
  obtain ⟨l, found, serial⟩ := SessionStore.holder?_of_create sane result lasts
  rw [← drawn] at found
  exact .opens nobody (congrArg Request.sessionId request) last saved token
    ((SessionStore.holder?_congr challenges.alike.pool).trans found) serial

/-! ## The whole decision -/

/-- A decision that issued nothing leaves the request with the session that it came with. -/
theorem IssuesNothing.stays (h : IssuesNothing v u) : Moves v.world v.request u o :=
  .stays h.id h.sessions

/-- A request that needs a login opens a session, or issues none. -/
theorem Protects.moves (sane : v.world.store.Sane)
    (lasts : Seconds.Lasts (v.world.store.pool .pending).ttl v.world.now)
    (finds : Finds v (.ok session) y) (h : Protects g y session (.ok o) u) :
    Moves v.world v.request u o := by
  have found := issuesNothing_of_finds finds
  generalize done : (Except.ok o : Except Fault Outcome) = r at h
  cases h with
  | unreadable => cases done
  | unissued => cases done
  | @held n =>
    have replays := found.trans (issuesNothing_replayed n y)
    exact .stays replays.id replays.sessions
  | passed unheld =>
    have leaves := found.trans unheld.issuesNothing
    exact .stays leaves.id leaves.sessions
  | challenged unheld _ challenges =>
    exact ((found.trans unheld.issuesNothing).trans challenges.issuesNothing).stays
  | started _ issue _ left challenges =>
    subst done
    have nobody := live?_of_finds finds
    generalize none : (Except.ok none : Except Fault (Option Serial)) = r at finds
    cases finds with
    | found => cases none
    | broken => cases none
    | nobody =>
      obtain rfl : o = .challenged := by
        obtain same | ⟨_, failed⟩ := challenges.result
        · exact Except.ok.inj same
        · cases failed
      exact opens_of_created sane lasts nobody issue left challenges

/-- A callback renews the session of the request, or issues none. -/
theorem Decides.moves_of_callback (sane : v.world.store.Sane)
    (ttls : ∀ a, (v.world.store.pool a).ttl = ttl)
    (lasts : Seconds.Lasts ttl v.world.now)
    (callback : isCallback v.request.uri = true) (h : Decides g mandatory v (.ok o) u)
    (finds : Finds v (.ok session) y) (answers : Answers g y session (.ok o) u) :
    Moves v.world v.request u o := by
  have verdict := answers.isVerdict
  cases o with
  | challenged => cases verdict
  | deferred => cases verdict
  | unauthenticated => cases verdict
  | failed =>
    obtain ⟨request, world, -⟩ := answers.keeps_of_failed
    have kept : IssuesNothing y u := ⟨congrArg Request.sessionId request, by rw [world]⟩
    exact ((issuesNothing_of_finds finds).trans kept).stays
  | authenticated =>
    obtain rfl := answers.isSent
    obtain ⟨i, j, n, old, e, -, live, there, time, hands⟩ := h.handsOver sane ttls callback
    obtain ⟨l, serial, found⟩ := hands.live (lasts e time)
    exact .renews live there (congrArg Request.sessionId hands.request) hands.sessions found serial

/-- **A decision issues a session** only in its response. -/
theorem Decides.moves (sane : v.world.store.Sane)
    (ttls : ∀ a, (v.world.store.pool a).ttl = ttl)
    (lasts : Seconds.Lasts ttl v.world.now)
    (h : Decides g mandatory v (.ok o) u) : Moves v.world v.request u o := by
  have whole := h
  cases h with
  | deferred => exact .stays rfl rfl
  | urlSession _ _ ends => exact (issuesNothing_of_ends ends).stays
  | callback callback _ finds answers =>
    exact whole.moves_of_callback sane ttls lasts callback finds answers
  | protect _ _ _ finds protects => exact protects.moves sane (ttls _ ▸ lasts) finds

/-! ## With the request prepared -/

/-- Preparing a request leaves its session live, if a lease that starts now lasts. -/
theorem live?_of_prepared {before : Channel} (tidy : x.store.Tidy)
    (ttls : ∀ a, (x.store.pool a).ttl = ttl)
    (lasts : Seconds.Lasts ttl x.now)
    (finds : Finds { world := x, request := q, channel := before } (.ok session) y) :
    y.world.live? q = x.live? q := by
  have restarts := finds_restarts tidy finds
  have now : y.world.now = x.now := (finds_evolves finds).now
  have same : y.world.store.find? x.now = x.store.find? x.now := by
    funext id
    obtain same | ⟨-, a, l, e, -, ends, past⟩ := restarts.found id
    · exact same
    · exact absurd ((lasts e (ttls a ▸ ends)).symm.trans past) nofun
  rw [World.live?, World.live?, now, same]

/-- What became of the session of a request that was prepared. -/
theorem Moves.of_prepared {before : Channel} (tidy : x.store.Tidy)
    (ttls : ∀ a, (x.store.pool a).ttl = ttl)
    (lasts : Seconds.Lasts ttl x.now)
    (prepared : g.visit x .prepare q before = (.ok none, v))
    (h : Moves v.world v.request u o) : Moves x q u o := by
  obtain ⟨_, y, finds, world, request⟩ := exists_finds_of_prepare prepared
  have id : v.request.sessionId = q.sessionId := by rw [request]
  have sessions : v.world.store.sessions = x.store.sessions := world ▸ sessions_of_finds finds
  have now : v.world.now = x.now := world ▸ (finds_evolves finds).now
  have live : v.world.live? v.request = x.live? q := by
    rw [← live?_of_prepared tidy ttls lasts finds, world, World.live?, World.live?, id]
  cases h with
  | stays same kept => exact .stays (same.trans id) (kept.trans (congrArg List.length sessions))
  | opens nobody new last saved token found serial =>
    rw [live] at nobody
    have plain : v.request = q := by
      rw [request, World.savedMethod?, nobody]
      rfl
    rw [sessions] at last serial
    rw [now] at found
    exact .opens nobody new last (plain ▸ saved) token found serial
  | renews named there new last found serial =>
    rw [sessions] at last serial
    rw [now] at found
    exact .renews (live ▸ named) (SessionStore.session?_of_sessions sessions _ ▸ there) new last
      found serial

/-- **A session id that is new always reaches the browser.**  Take any run from an empty store, and
after it a request that is prepared and then decided on, where a lease that starts now lasts.  If
the request names no live session and is challenged, one session was issued, which is pending and
holds the request and a token; if it is a callback that logs in, one session was issued in the place
of the one that it named; and else none was.  The request names the session that was issued, which
is live.  It goes to the application only with the id that it came with, so a response of that sets
no cookie. -/
theorem moves_of_prepared {before after : Channel}
    (made : SessionStore.make ttl capacity ids = .ok w.store) (distinct : ids.Distinct)
    (es : List Event) (q : Request) (mandatory : Bool)
    (lasts : Seconds.Lasts ttl (g.run w es).now)
    (prepared : g.visit (g.run w es) .prepare q before = (.ok none, v))
    (decided : g.visit v.world (.validate mandatory) v.request after = (.ok (some o), u)) :
    Moves (g.run w es) q u o ∧
      (o.isSent = false → u.request.sessionId = q.sessionId ∧
        Guard.sessionCookie g.settings.cookieName q u.request = .ok []) := by
  have tidy : (g.run w es).store.Tidy := tidy_run (SessionStore.tidy_of_make made) es
  have ttls (a) : ((g.run w es).store.pool a).ttl = ttl := (pools_run_of_make made es a).2
  obtain ⟨_, y, finds, world, -⟩ := exists_finds_of_prepare prepared
  have evolves : (g.run w es).Evolves v.world := world ▸ finds_evolves finds
  have now : v.world.now = (g.run w es).now := evolves.now
  -- The preparation keeps what all operations on a store do.
  have sane : v.world.store.Sane := by
    have kept := SessionStore.reachable_kept (g.run w es).now
    exact (world ▸ finds_keeps finds kept (reachable_run made distinct es)).sane
  have ttls' (a) : (v.world.store.pool a).ttl = ttl := (evolves.store.pools a).2.trans (ttls a)
  have decides := decides_of_visit (congrArg Prod.fst decided)
  rw [decided] at decides
  have moves := Moves.of_prepared tidy ttls lasts prepared
    (Decides.moves (v := { world := v.world, request := v.request, channel := after }) sane ttls'
      (now ▸ lasts) decides)
  exact ⟨moves, fun unsent =>
    ⟨moves.sessionId_eq unsent, Guard.sessionCookie_of_eq (moves.sessionId_eq unsent)⟩⟩

/-- The callback of the small login renews the session of the challenge. -/
theorem moves_of_smallCallback :
    let g := smallGate true
    let ids : Supply := { given := ["first", "second"] }
    let x := g.run (smallWorld none) (smallLogin.take 1)
    let q := smallRequest "/j_security_check" "code=abc&state=token" (some "first")
    let v := (g.visit x .prepare q .fresh).2
    let u := (g.visit v.world (.validate true) v.request .fresh).2
    let o := Outcome.authenticated smallResult true
    SessionStore.make (.whole 60) 4 ids = .ok (smallWorld none).store ∧ ids.Distinct ∧
      Seconds.Lasts (.whole 60) x.now ∧
      g.visit x .prepare q .fresh = (.ok none, v) ∧
      g.visit v.world (.validate true) v.request .fresh = (.ok (some o), u) ∧ Moves x q u o ∧
      u.request.sessionId = some "second" := by
  intro g ids x q v u o
  have made : SessionStore.make (.whole 60) 4 ids = .ok (smallWorld none).store := rfl
  have distinct : ids.Distinct := Series.name_injective _ (by decide) le_rfl
  have lasts : Seconds.Lasts (.whole 60) x.now := Seconds.lasts_whole (by decide) 0
  have prepared : g.visit x .prepare q .fresh = (.ok none, v) := visit_eq_of_fst (by decide +kernel)
  have decided : g.visit v.world (.validate true) v.request .fresh = (.ok (some o), u) :=
    visit_eq_of_fst (by decide +kernel)
  exact ⟨made, distinct, lasts, prepared, decided,
    (moves_of_prepared made distinct _ q true lasts prepared decided).1, by decide +kernel⟩

/-- Where the clock shows a double so large that half an hour is lost in it, a new session is over
at once. -/
theorem not_moves_of_rounding :
    ¬ ∀ (g : Gate) (w : World) (ttl : Seconds) (capacity : Int) (ids : Supply) (es : List Event)
      (q : Request) (mandatory : Bool) (before after : Channel) (v u : Visit) (o : Outcome),
      SessionStore.make ttl capacity ids = .ok w.store → ids.Distinct →
      Seconds.isBefore (.whole 0) ttl = true →
      g.visit (g.run w es) .prepare q before = (.ok none, v) →
      g.visit v.world (.validate mandatory) v.request after = (.ok (some o), u) →
      Moves (g.run w es) q u o := by
  intro claim
  let g := smallGate true
  let pool : Pool := { capacity := 4, ttl := .whole 1800 }
  let ids : Supply := { given := ["first", "second"] }
  let w : World :=
    { smallWorld none with
      store := { pending := pool, authenticated := pool, ids }
      now := .real (.nearest false (10 ^ 20) 1) }
  let q := smallRequest "/page" "" none
  let v := (g.visit w .prepare q .fresh).2
  let u := (g.visit v.world (.validate true) v.request .fresh).2
  have distinct : ids.Distinct := Series.name_injective _ (by decide) le_rfl
  have moves := claim g w (.whole 1800) 4 ids [] q true .fresh .fresh v u .challenged rfl distinct
    (by decide +kernel) (visit_eq_of_fst (by decide +kernel)) (visit_eq_of_fst (by decide +kernel))
  cases moves with
  | stays _ sessions => exact absurd sessions (by decide +kernel)
  | opens _ id _ _ _ found =>
    have first : u.request.sessionId = some "first" := by decide +kernel
    obtain rfl := Option.some.inj (first.symm.trans id)
    have gone : u.world.store.holder? w.now "first" = none := by decide +kernel
    exact absurd (gone.symm.trans found) nofun

end Gate
end LoginGate
