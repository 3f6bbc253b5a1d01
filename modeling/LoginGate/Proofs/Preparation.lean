/-
# The method that is put back before the decision

A browser that was sent on after its login repeats a `POST` as a `GET`.  So before a request is
decided on its method is replaced by the saved one, and only the decision puts the rest of the saved
request back.  But it may decide otherwise.

| decision | the method that was put back | the rest of the saved request |
| --- | --- | --- |
| authenticated | stays | is put back |
| not needed, or not possible on the channel | stays | is not put back |
| challenged | is saved once more, if the session takes the request | is written over then |
-/

import LoginGate.Proofs.Custody
import LoginGate.Proofs.Destination
import LoginGate.Proofs.Replay

namespace LoginGate

/-- The method that is put back on a request before it is decided on. -/
def World.savedMethod? (w : World) (q : Request) : Option Attribute :=
  (w.live? q).bind fun n => SavedRequest.restoredMethod? q (w.session n)

/-- Of the method only the upper case is saved. -/
theorem Request.slot?_eq (q : Request) :
    q.slot? = (q.method.wide?.map Text.upperWide).map fun t =>
      { uri := some (.text q.url)
        method := some (.wide t)
        post :=
          if t == "POST" && q.contentType.any fun t => !t.isEmpty && isFormType t then
            some (.form (q.form.getD []))
          else none } := by
  rw [slot?, isFormPost]
  cases q.method.wide? <;> rfl

/-- Requests that differ in the method are saved alike, if the methods agree in upper case. -/
theorem Request.slot?_withMethod_iff (q : Request) (method : Attribute) :
    ({ q with method } : Request).slot? = q.slot? ↔
      method.wide?.map Text.upperWide = q.method.wide?.map Text.upperWide := by
  rw [slot?_eq, slot?_eq q]
  refine (Option.map_injective fun t u same => ?_).eq_iff
  exact Json.text.inj (Attribute.json.inj (Option.some.inj (Slot.mk.inj same).2.1))

namespace SavedRequest

variable {q : Request} {s : Session} {method : Attribute}

/-- A method is put back for a login at the saved address alone. -/
theorem of_restoredMethod? (h : restoredMethod? q s = some method) :
    Attribute.present s.authenticated ≠ none ∧ s.uri = some (.text q.url) := by
  unfold restoredMethod? at h
  split at h
  · rename_i here
    simp only [Bool.and_eq_true, isFor, beq_iff_eq] at here
    exact ⟨Option.isSome_iff_ne_none.1 here.1.1, here.2⟩
  · cases h

end SavedRequest

namespace Gate

open Step (Finds)

variable {g : Gate} {v u : Visit} {w : World} {q : Request} {channel : Channel} {n m : Serial}
  {o : Outcome} {mandatory : Bool} {es : List Event}

/-- A call ends as it does, and leaves what it leaves. -/
theorem visit_eq_of_fst {e : Errand} {r : Except Fault (Option Outcome)}
    (h : (g.visit w e q channel).1 = r) :
    g.visit w e q channel = (r, (g.visit w e q channel).2) := by
  rw [← h]

/-- **What preparing a request does:** the session that it names is looked for, and the saved method
is put back. -/
theorem exists_finds_of_prepare (h : g.visit w .prepare q channel = (.ok none, v)) :
    ∃ session x, Finds { world := w, request := q, channel } (.ok session) x ∧ v.world = x.world ∧
      v.request = { q with method := (w.savedMethod? q).getD q.method } := by
  have finds := Step.requestSession_finds { world := w, request := q, channel }
  simp only [visit, Errand.step, prepare, Step.on_bind] at h
  rcases found : Step.requestSession.on { world := w, request := q, channel } with
    ⟨fault | s, x⟩ <;> rw [found] at finds h
  · cases h
  · have live : w.live? q = s := live?_of_finds finds
    have request : x.request = q := request_of_finds finds
    refine ⟨s, x, finds, ?_⟩
    rw [World.savedMethod?, live]
    cases s with
    | none =>
      obtain rfl := (Prod.mk.inj h).2
      exact ⟨rfl, request⟩
    | some n =>
      have session : x.session n = w.session n := finds_session finds n
      simp only [Step.on_bind, Step.on_get, Step.on_session, request, session] at h
      rw [Option.bind_some]
      cases saved : SavedRequest.restoredMethod? q (w.session n) with
      | none =>
        rw [saved] at h
        obtain rfl := (Prod.mk.inj h).2
        exact ⟨rfl, request⟩
      | some method =>
        rw [saved] at h
        obtain rfl := (Prod.mk.inj h).2
        exact ⟨rfl, by rw [← request]; rfl⟩

/-! ## The way to the application -/

/-- The request that was put back into is the one with the saved method and form, if there are
any. -/
theorem request_replayed (n : Serial) (v : Visit) :
    (replayed n v).request =
      ((SavedRequest.restoration? v.request (v.session n)).map (restore · v.request)).getD
        v.request := by
  unfold replayed
  cases SavedRequest.restoration? v.request (v.session n) <;> rfl

/-- A saved request of the very same address is put back. -/
theorem restored_replayed (h : (v.session n).uri = some (.text v.request.url)) :
    (replayed n v).request.restored = true := by
  rw [request_replayed, SavedRequest.restoration?, SavedRequest.isFor, h, beq_self_eq_true]
  rfl

/-- What is left to the application goes there as it was, or it is authenticated, and what is saved
in its session is put back. -/
theorem Decides.left (h : Decides g mandatory v (.ok o) u) (unsent : o.isSent = false) :
    o.isAuthenticated = false ∧ u.request = v.request ∨
      ∃ n, o.isAuthenticated = true ∧ v.world.live? v.request = some n ∧
        Attribute.present (v.session n).authenticated ≠ none ∧
        u.request = (replayed n v).request := by
  have silent (sent : o.isSent = true) : False := by simp [sent] at unsent
  cases h with
  | deferred => exact .inl ⟨rfl, rfl⟩
  | urlSession _ _ ends => exact (silent (ends_isSent ends rfl)).elim
  | callback _ _ _ answers => exact (silent answers.isSent).elim
  | @protect session x _ _ _ _ _ finds protects =>
    have request := request_of_finds finds
    cases protects with
    | @held n result login =>
      have session := finds_session finds n
      refine .inr ⟨n, rfl, live?_of_finds finds, ?_, ?_⟩
      · rw [← session, login]
        nofun
      · rw [request_replayed, request_replayed, request, session]
    | @passed _ y unheld =>
      have same : y.request = x.request := by cases unheld <;> rfl
      exact .inl ⟨rfl, same.trans request⟩
    | challenged _ _ challenges => exact (silent challenges.isSent).elim
    | started _ _ _ _ challenges => exact (silent challenges.isSent).elim

/-- A decision that sends nothing leaves the request as it came, or puts the saved one back into
it. -/
theorem left_of_unsent (h : g.visit w (.validate mandatory) q channel = (.ok (some o), u))
    (unsent : o.isSent = false) :
    o.isAuthenticated = false ∧ u.request = q ∨
      ∃ n, o.isAuthenticated = true ∧ w.live? q = some n ∧
        Attribute.present (w.session n).authenticated ≠ none ∧
        u.request = (replayed n { world := w, request := q, channel }).request := by
  have visits := visit_visits g w (.validate mandatory) q channel
  rw [h] at visits
  generalize hr : (Except.ok (some o) : Except Fault (Option Outcome)) = r at visits
  cases visits with
  | @validate _ r u decides =>
    cases r with
    | error => cases hr
    | ok o =>
      obtain rfl := Option.some.inj (Except.ok.inj hr)
      exact decides.left unsent

/-- A lease of a session with a login is in the pool of logins. -/
theorem mem_authenticated_of_login {l : Lease} {b : PoolName}
    (anonymous : ∀ l ∈ w.store.pending.leases, ∀ s, w.store.session? l.serial = some s →
      s.Anonymous)
    (hl : l ∈ (w.store.pool b).leases)
    (login : Attribute.present (w.session l.serial).authenticated ≠ none) :
    l ∈ w.store.authenticated.leases := by
  cases b with
  | authenticated => exact hl
  | pending =>
    refine absurd ?_ login
    cases hs : w.store.session? l.serial with
    | none =>
      rw [World.session, hs]
      rfl
    | some s =>
      rw [World.session_of_session? hs, (anonymous l hl s hs).authenticated]
      rfl

/-- Looking for a session once more leads to the same one, where there is a login in both. -/
theorem serial_eq_of_login {x : Visit} {p : Request} (tidy : w.store.Tidy)
    (anonymous : ∀ l ∈ w.store.pending.leases, ∀ s, w.store.session? l.serial = some s →
      s.Anonymous)
    (finds : Finds { world := w, request := q, channel } (.ok (some n)) x)
    (login : Attribute.present (w.session n).authenticated ≠ none)
    (same : p.sessionId = q.sessionId) (live : x.world.live? p = some m)
    (login' : Attribute.present (w.session m).authenticated ≠ none) : m = n := by
  cases finds with
  | @found id _ s named _ found =>
    obtain ⟨id', named', -, again⟩ := World.live?_eq_some.1 live
    have own : id = id' := Option.some.inj (named.symm.trans (same.symm.trans named'))
    obtain ⟨l, hl, -, rfl, rfl⟩ :=
      SessionStore.exists_of_find? (SessionStore.find?_of_get (congrArg Prod.fst found))
    obtain ⟨k, hk, -, rfl, rfl⟩ := SessionStore.exists_of_find? again
    obtain ⟨a, hl⟩ := SessionStore.exists_pool_of_mem_leases hl
    obtain ⟨b, hk⟩ := SessionStore.exists_pool_of_mem_leases hk
    -- The second lease is one that was there before, or is that one set again.
    have continues := SessionStore.get_continues w.store w.now l.id b
    rw [found] at continues
    obtain ⟨i, hi, hid, serial, -⟩ := continues k hk
    rw [← serial] at login' ⊢
    have first := mem_authenticated_of_login anonymous hl login
    have second := mem_authenticated_of_login anonymous hi login'
    rw [List.inj_on_of_nodup_map (tidy .authenticated).nodup second first (hid.trans own.symm)]

/-- **The method of a request that is left to the application** is the one that it came with, or the
whole saved request is put back, in exactly these cases: the request is authenticated, or no other
method was put back before.  Take any run from an empty store, and after it a request that is
prepared and then decided on. -/
theorem method_kept_or_restored_iff {ttl : Seconds} {capacity : Int} {ids : Supply}
    {before after : Channel} (made : SessionStore.make ttl capacity ids = .ok w.store)
    (distinct : ids.Distinct) (arrives : q.restored = false)
    (prepared : g.visit (g.run w es) .prepare q before = (.ok none, v))
    (decided : g.visit v.world (.validate mandatory) v.request after = (.ok (some o), u))
    (unsent : o.isSent = false) :
    u.request.method = q.method ∨ u.request.restored = true ↔
      o.isAuthenticated = true ∨
        ∀ method, (g.run w es).savedMethod? q = some method → method = q.method := by
  have tidy : (g.run w es).store.Tidy := tidy_run (SessionStore.tidy_of_make made) es
  have anonymous := anonymous_of_make (g := g) made distinct es
  obtain ⟨session, x, finds, world, request⟩ := exists_finds_of_prepare prepared
  have unrestored : v.request.restored = false := by
    rw [request]
    exact arrives
  obtain ⟨nobody, left⟩ | ⟨n, login, live, held, left⟩ := left_of_unsent decided unsent
  · rw [left, nobody, unrestored, request]
    cases (g.run w es).savedMethod? q <;> simp
  · refine iff_of_true ?_ (.inl login)
    cases saved : (g.run w es).savedMethod? q with
    | none =>
      obtain same | ⟨uri, -⟩ :=
        replayed_cases n { world := v.world, request := v.request, channel := after }
      · rw [left, same, request, saved]
        exact .inl rfl
      · exact .inr ((congrArg Request.restored left).trans (restored_replayed uri))
    | some method =>
      -- The decision meets the session that the method was taken from.
      obtain ⟨k, own, put⟩ := Option.bind_eq_some_iff.1 saved
      obtain ⟨login', uri⟩ := SavedRequest.of_restoredMethod? put
      have sessions : v.world.session n = (g.run w es).session n := by
        rw [World.session, world, finds_session? finds, World.session]
      have same : n = k := by
        obtain rfl : (g.run w es).live? q = session := live?_of_finds finds
        rw [own] at finds
        rw [sessions] at held
        rw [world] at live
        exact serial_eq_of_login tidy anonymous finds login' (by rw [request]) live held
      have here : (v.world.session n).uri = some (.text v.request.url) := by
        rw [sessions, same, request]
        exact uri
      exact .inr ((congrArg Request.restored left).trans (restored_replayed here))

/-- A form that is sent to the page that was asked for before the login. -/
def submitted : Submission :=
  { smallRequest "/page" "" (some "second") with
    method := .text "POST", contentType := some formType, form := some [("a", ["1"])]
    isText := rfl }

/-- After a login in a small world a form for the page comes to the application as the request for
the page that was saved. -/
theorem method_kept_or_restored_small :
    let g := smallGate true
    let w := smallWorld none
    let ids : Supply := { given := ["first", "second"] }
    let v := (g.visit (g.run w smallLogin) .prepare submitted .fresh).2
    let u := (g.visit v.world (.validate true) v.request .fresh).2
    let o := Outcome.authenticated smallResult false
    SessionStore.make (.whole 60) 4 ids = .ok w.store ∧ ids.Distinct ∧
      submitted.restored = false ∧
      g.visit (g.run w smallLogin) .prepare submitted .fresh = (.ok none, v) ∧
      g.visit v.world (.validate true) v.request .fresh = (.ok (some o), u) ∧ o.isSent = false ∧
      (u.request.method = submitted.method ∨ u.request.restored = true ↔
        o.isAuthenticated = true ∨ ∀ method,
          (g.run w smallLogin).savedMethod? submitted = some method →
            method = submitted.method) := by
  intro g w ids v u o
  have made : SessionStore.make (.whole 60) 4 ids = .ok w.store := rfl
  have distinct : ids.Distinct := Series.name_injective _ (by decide) le_rfl
  have prepared : g.visit (g.run w smallLogin) .prepare submitted .fresh = (.ok none, v) :=
    visit_eq_of_fst (by decide +kernel)
  have decided : g.visit v.world (.validate true) v.request .fresh = (.ok (some o), u) :=
    visit_eq_of_fst (by decide +kernel)
  exact ⟨made, distinct, rfl, prepared, decided, rfl,
    method_kept_or_restored_iff made distinct rfl prepared decided rfl⟩

/-- Where no login is needed, the form comes to the application with the saved method, and nothing
else of the saved request. -/
theorem method_replaced_alone :
    let g := smallGate true
    let w := smallWorld none
    ¬ ∀ (es : List Event) (q : Request) (before after : Channel) (mandatory : Bool) (v u : Visit)
      (o : Outcome), q.restored = false →
      g.visit (g.run w es) .prepare q before = (.ok none, v) →
      g.visit v.world (.validate mandatory) v.request after = (.ok (some o), u) →
      o.isSent = false → u.request.method = q.method ∨ u.request.restored = true := by
  intro g w claim
  let v := (g.visit (g.run w smallLogin) .prepare submitted .fresh).2
  let u := (g.visit v.world (.validate false) v.request .fresh).2
  have prepared : g.visit (g.run w smallLogin) .prepare submitted .fresh = (.ok none, v) :=
    visit_eq_of_fst (by decide +kernel)
  have decided : g.visit v.world (.validate false) v.request .fresh = (.ok (some .deferred), u) :=
    visit_eq_of_fst (by decide +kernel)
  exact absurd (claim smallLogin submitted .fresh .fresh false v u _ rfl prepared decided rfl)
    (by decide +kernel)

/-! ## What a challenge saves -/

/-- A challenge writes its request into the slot of its session, or leaves the slot of one that
takes none. -/
theorem slot_of_challenged (named : w.store.Named)
    (h : (g.visit w (.validate mandatory) q channel).1 = .ok (some .challenged)) :
    SavedRequest.takes g.settings.alwaysSave (w.session (w.sessionFor q)) = true ∧
        q.slot? = some ((g.visit w (.validate mandatory) q channel).2.world.slot
          (w.sessionFor q)) ∨
      SavedRequest.takes g.settings.alwaysSave (w.session (w.sessionFor q)) = false ∧
        (g.visit w (.validate mandatory) q channel).2.world.slot (w.sessionFor q) =
          w.slot (w.sessionFor q) := by
  obtain ⟨other, reaches⟩ := reaches_of_challenged h
  obtain ⟨b, taken, slot, -, save, hs⟩ := exists_of_reaches named other reaches
  have same : SavedRequest.takes g.settings.alwaysSave b =
      SavedRequest.takes g.settings.alwaysSave (w.session (w.sessionFor q)) :=
    SavedRequest.takes_of_slot slot
  rw [World.slot_of_session? hs, (Csrf.ensure_slot ..).1, ← same, ← slot]
  obtain ⟨yes, written, -⟩ | ⟨no, rfl⟩ := SavedRequest.slot_of_save save
  · exact .inl ⟨yes, written⟩
  · exact .inr ⟨no, rfl⟩

/-- **What a challenge saves is the request as it came,** or it saves nothing and the session keeps
what it held, in exactly these cases: the session takes no request, or the method that was put back
before agrees in upper case with the one that the request came with.  Take any run from an empty
store, and after it a request that is prepared and then challenged. -/
theorem saved_as_arrived_iff {before after : Channel} (fresh : w.Fresh)
    (prepared : g.visit (g.run w es) .prepare q before = (.ok none, v))
    (challenged :
      g.visit v.world (.validate mandatory) v.request after = (.ok (some .challenged), u))
    (session : n = v.world.sessionFor v.request) :
    (if SavedRequest.takes g.settings.alwaysSave ((g.run w es).session n) then
        q.slot? = some (u.world.slot n)
      else u.world.slot n = (g.run w es).slot n) ↔
      (SavedRequest.takes g.settings.alwaysSave ((g.run w es).session n) = true →
        ∀ method, (g.run w es).savedMethod? q = some method →
          method.wide?.map Text.upperWide = q.method.wide?.map Text.upperWide) := by
  subst session
  have slots : ∀ m, v.world.slot m = (g.run w es).slot m := by
    intro m
    have kept : (g.visit (g.run w es) .prepare q before).2.world.slot m = (g.run w es).slot m :=
      slot_of_prepare m
    rw [prepared] at kept
    exact kept
  have takes : ∀ m, SavedRequest.takes g.settings.alwaysSave (v.world.session m) =
      SavedRequest.takes g.settings.alwaysSave ((g.run w es).session m) := fun m =>
    SavedRequest.takes_of_slot (slots m)
  have named : v.world.store.Named := by
    have evolves := visit_evolves g (g.run w es) .prepare q before
    rw [prepared] at evolves
    exact (named_run (named_of_fresh fresh) es).evolves evolves.store
  obtain ⟨_, _, -, -, request⟩ := exists_finds_of_prepare prepared
  have saves := slot_of_challenged named (congrArg Prod.fst challenged)
  rw [challenged, takes, slots] at saves
  obtain ⟨taken, slot⟩ | ⟨full, kept⟩ := saves
  · rw [if_pos taken, ← slot, eq_comm]
    nth_rewrite 1 [request]
    rw [Request.slot?_withMethod_iff]
    cases (g.run w es).savedMethod? q with
    | none => simp
    | some method => simp [taken]
  · rw [if_neg (by rw [full]; exact Bool.false_ne_true)]
    refine iff_of_true kept fun taken => ?_
    cases full.symm.trans taken

/-- The gate of a small world, where every request that is challenged is saved. -/
def forcedGate : Gate :=
  { smallGate true with settings := { alwaysSave := true } }

/-- A login of `alice`, who is revoked then. -/
def revokedAfterLogin : List Event :=
  smallLogin ++ [.revoke "alice"]

/-- After `alice` was revoked a request for the page is saved as it came. -/
theorem saved_as_arrived_small :
    let w := smallWorld (some (Users.ofList [("alice", [])]))
    let page := smallRequest "/page" "" (some "second")
    let held := forcedGate.run w revokedAfterLogin
    let v := (forcedGate.visit held .prepare page .fresh).2
    let u := (forcedGate.visit v.world (.validate true) v.request .fresh).2
    w.Fresh ∧ forcedGate.visit held .prepare page .fresh = (.ok none, v) ∧
      forcedGate.visit v.world (.validate true) v.request .fresh = (.ok (some .challenged), u) ∧
      1 = v.world.sessionFor v.request ∧
      ((if SavedRequest.takes forcedGate.settings.alwaysSave (held.session 1) then
          page.slot? = some (u.world.slot 1)
        else u.world.slot 1 = held.slot 1) ↔
        (SavedRequest.takes forcedGate.settings.alwaysSave (held.session 1) = true →
          ∀ method, held.savedMethod? page = some method →
            method.wide?.map Text.upperWide = page.method.wide?.map Text.upperWide)) := by
  intro w page held v u
  have fresh : w.Fresh := smallWorld_fresh _
  have prepared : forcedGate.visit held .prepare page .fresh = (.ok none, v) :=
    visit_eq_of_fst (by decide +kernel)
  have challenged :
      forcedGate.visit v.world (.validate true) v.request .fresh = (.ok (some .challenged), u) :=
    visit_eq_of_fst (by decide +kernel)
  have session : 1 = v.world.sessionFor v.request := by decide +kernel
  exact ⟨fresh, prepared, challenged, session,
    saved_as_arrived_iff fresh prepared challenged session⟩

/-- After `alice` was revoked a form for the page is saved with the method that was saved before,
and without the form. -/
theorem saved_with_earlier_method :
    let w := smallWorld (some (Users.ofList [("alice", [])]))
    ¬ ∀ (es : List Event) (q : Request) (before after : Channel) (mandatory : Bool) (v u : Visit)
      (n : Serial),
      forcedGate.visit (forcedGate.run w es) .prepare q before = (.ok none, v) →
      forcedGate.visit v.world (.validate mandatory) v.request after =
        (.ok (some .challenged), u) →
      n = v.world.sessionFor v.request →
      SavedRequest.takes forcedGate.settings.alwaysSave ((forcedGate.run w es).session n) = true →
      q.slot? = some (u.world.slot n) := by
  intro w claim
  let v := (forcedGate.visit (forcedGate.run w revokedAfterLogin) .prepare submitted .fresh).2
  let u := (forcedGate.visit v.world (.validate true) v.request .fresh).2
  have prepared : forcedGate.visit (forcedGate.run w revokedAfterLogin) .prepare submitted .fresh =
      (.ok none, v) :=
    visit_eq_of_fst (by decide +kernel)
  have challenged :
      forcedGate.visit v.world (.validate true) v.request .fresh = (.ok (some .challenged), u) :=
    visit_eq_of_fst (by decide +kernel)
  exact absurd (claim revokedAfterLogin submitted .fresh .fresh true v u 1 prepared challenged
    (by decide +kernel) (by decide +kernel)) (by decide +kernel)

end Gate
end LoginGate
