/-
# What is put back into a request

A request is marked as restored by one course of a decision alone: its session holds a login that is
still valid, and a saved request of the very same address, which is taken out of the session.

| of the request that comes | is replaced, if |
| --- | --- |
| the method | the saved one is not empty |
| the form | a form was saved |

So a saved request without a form takes over the form of the one that it is put back into.
-/

import LoginGate.Proofs.Saving

namespace LoginGate
namespace Gate

open Step (Ends Finds)

/-- A request, not to the callback address, meets the one that is saved in its session, which holds
a valid login. -/
structure Restores (g : Gate) (w : World) (q : Request) (n : Serial) (result : AuthResult) :
    Prop where
  other : isCallback q.uri = false
  live : w.live? q = some n
  login : w.Holds n result
  valid : g.service.validates w.users result.identity = true
  uri : (w.slot n).uri = some (.text q.url)

variable {g : Gate} {v u w' : Visit} {w : World} {q : Request} {channel : Channel} {n : Serial}
  {e : Errand} {mandatory : Bool} {es : List Event} {session : Option Serial}
  {r : Except Fault Outcome}

/-- The end of a decision leaves the request. -/
theorem request_of_ends {f : Channel → Except ChannelFault Channel} {o : Outcome}
    (h : Ends f o v r u) : u.request = v.request := by
  cases h <;> rfl

/-- Looking for its session leaves the request. -/
theorem request_of_finds {found : Except Fault (Option Serial)} (h : Finds v found u) :
    u.request = v.request := by
  cases h <;> rfl

/-! ## Courses that put nothing back -/

/-- A login puts nothing back: it gives the request a session id and no more. -/
theorem LogsIn.restored {c : Credentials} {x : Except Fault (Option (AuthResult × Serial))}
    (h : LogsIn g c n v x u) : u.request.restored = v.request.restored := by
  cases h <;> rfl

/-- Redeeming a code puts nothing back. -/
theorem Redeems.restored {code : String} (h : Redeems g code n v r u) :
    u.request.restored = v.request.restored := by
  cases h with
  | broken login => exact login.restored
  | refused login ends => exact (congrArg _ (request_of_ends ends)).trans login.restored
  | redeemed login ends => exact (congrArg _ (request_of_ends ends)).trans login.restored

/-- A callback puts nothing back; the browser is sent to the saved address. -/
theorem Answers.restored (h : Answers g v session r u) :
    u.request.restored = v.request.restored := by
  cases h with
  | noCode _ ends => exact congrArg _ (request_of_ends ends)
  | noSession _ ends => exact congrArg _ (request_of_ends ends)
  | unreadable => rfl
  | wrongState _ _ ends => exact congrArg _ (request_of_ends ends)
  | redeemed _ _ redeems => exact redeems.restored

/-- A challenge puts nothing back. -/
theorem Challenges.restored (h : Challenges g n v r u) :
    u.request.restored = v.request.restored := by
  cases h with
  | unsaved => rfl
  | saved _ left issue sends =>
    subst left issue
    cases sends with
    | tokenless => rfl
    | unaddressed => rfl
    | sent _ _ ends => rw [request_of_ends ends]; rfl

/-- Dropping a login puts nothing back. -/
theorem Unheld.restored (h : Unheld g v session u) :
    u.request.restored = v.request.restored := by
  cases h <;> rfl

/-! ## The course that does -/

/-- What putting a saved request back does, if it does anything. -/
theorem replayed_cases (n : Serial) (v : Visit) :
    replayed n v = v ∨
      (v.session n).uri = some (.text v.request.url) ∧
        replayed n v =
          { changed n SavedRequest.drop v with
            request := restore ⟨(v.session n).method, (v.session n).post⟩ v.request } := by
  unfold replayed SavedRequest.restoration?
  cases same : SavedRequest.isFor v.request (v.session n) with
  | false => exact .inl rfl
  | true => exact .inr ⟨by simpa [SavedRequest.isFor] using same, rfl⟩

/-- **Where a saved request is put back,** the session holds a valid login and the request of this
very address, which is taken out of it. -/
theorem Protects.restores (h : Protects g v session r u) (before : v.request.restored = false)
    (after : u.request.restored = true) :
    ∃ n result, session = some n ∧ v.world.Holds n result ∧
      g.service.validates v.world.users result.identity = true ∧
      (v.world.slot n).uri = some (.text v.request.url) ∧
      r = .ok (.authenticated result false) ∧
      u.request = restore ⟨(v.world.slot n).method, (v.world.slot n).post⟩ v.request ∧
      u.world.slot n = {} := by
  cases h with
  | @held n result h valid log =>
    obtain ⟨s, hs, held⟩ := holds_of_present h
    obtain same | ⟨uri, done⟩ := replayed_cases n v
    · rw [same] at after
      exact absurd (before.symm.trans after) nofun
    · refine ⟨n, result, rfl, ⟨s, hs, held⟩, valid, uri, rfl, congrArg Visit.request done, ?_⟩
      have dropped : (replayed n v).world.store.session? n = some (SavedRequest.drop s) := by
        rw [done]
        exact SessionStore.session?_modify_self hs
      exact World.slot_of_session? dropped
  | unreadable => exact absurd (before.symm.trans after) nofun
  | passed unheld => exact absurd ((before.symm.trans unheld.restored.symm).trans after) nofun
  | challenged unheld _ challenges =>
    have kept := challenges.restored.trans unheld.restored
    exact absurd ((before.symm.trans kept.symm).trans after) nofun
  | unissued => exact absurd (before.symm.trans after) nofun
  | started _ _ _ left challenges =>
    subst left
    exact absurd ((before.symm.trans challenges.restored.symm).trans after) nofun

/-- **A request that a decision puts the saved one back into** has the address of the saved one, its
session holds a valid login, and nothing is saved there any more. -/
theorem Decides.restores (h : Decides g mandatory v r u) (before : v.request.restored = false)
    (after : u.request.restored = true) :
    ∃ n result, Restores g v.world v.request n result ∧ r = .ok (.authenticated result false) ∧
      u.request = restore ⟨(v.world.slot n).method, (v.world.slot n).post⟩ v.request ∧
      u.world.slot n = {} := by
  cases h with
  | deferred => exact absurd (before.symm.trans after) nofun
  | urlSession _ _ ends =>
    rw [request_of_ends ends] at after
    exact absurd (before.symm.trans after) nofun
  | unfound _ _ finds =>
    rw [request_of_finds finds] at after
    exact absurd (before.symm.trans after) nofun
  | callback _ _ finds answers =>
    have kept := answers.restored
    rw [request_of_finds finds] at kept
    exact absurd ((before.symm.trans kept.symm).trans after) nofun
  | protect _ other _ finds protects =>
    have live := live?_of_finds finds
    obtain ⟨s, rfl, same, -⟩ := finds.exists_store
    obtain ⟨n, result, rfl, login, valid, uri, done, request, slot⟩ :=
      protects.restores before after
    have slots : (v.withStore s).world.slot n = v.world.slot n :=
      World.slot_congr (SessionStore.session?_of_sessions same n)
    obtain ⟨a, ha, held⟩ := login
    rw [slots] at uri request
    have login : v.world.Holds n result :=
      ⟨a, SessionStore.session?_of_sessions same n ▸ ha, held⟩
    exact ⟨n, result, ⟨other, live, login, valid, uri⟩, done, request, slot⟩

/-- **A request that a call puts the saved one back into** meets it in its session, and its session
holds nothing of it afterwards. -/
theorem exists_restores (before : q.restored = false)
    (after : (g.visit w e q channel).2.request.restored = true) :
    ∃ n result, Restores g w q n result ∧
      (g.visit w e q channel).1 = .ok (some (.authenticated result false)) ∧
      (g.visit w e q channel).2.request = restore ⟨(w.slot n).method, (w.slot n).post⟩ q ∧
      (g.visit w e q channel).2.world.slot n = {} := by
  have visits := visit_visits g w e q channel
  generalize (g.visit w e q channel).1 = o at visits ⊢
  generalize (g.visit w e q channel).2 = u at after visits ⊢
  cases visits with
  | prepare h =>
    cases h with
    | unfound finds =>
      rw [request_of_finds finds] at after
      exact absurd (before.symm.trans after) nofun
    | found finds =>
      have kept : q.restored = true :=
        (congrArg Request.restored (request_of_finds finds)).symm.trans after
      exact absurd (before.symm.trans kept) nofun
  | validate h =>
    obtain ⟨n, result, restores, rfl, request, slot⟩ := h.restores before after
    exact ⟨n, result, restores, rfl, request, slot⟩
  | resolve h =>
    cases h with
    | callback => exact absurd (before.symm.trans after) nofun
    | decided _ decides =>
      obtain ⟨n, result, restores, rfl, request, slot⟩ := decides.restores before after
      have met : Restores g w q n result :=
        ⟨restores.other, restores.live, restores.login, restores.valid, restores.uri⟩
      exact ⟨n, result, met, rfl, request, slot⟩
  | logout h =>
    cases h with
    | unfound finds =>
      rw [request_of_finds finds] at after
      exact absurd (before.symm.trans after) nofun
    | nobody finds =>
      rw [request_of_finds finds] at after
      exact absurd (before.symm.trans after) nofun
    | forgotten finds =>
      have kept : q.restored = true :=
        (congrArg Request.restored (request_of_finds finds)).symm.trans after
      exact absurd (before.symm.trans kept) nofun

/-- Putting a method back leaves all sessions. -/
theorem slot_of_prepare (n : Serial) :
    (g.visit w .prepare q channel).2.world.slot n = w.slot n := by
  have visits := visit_visits g w .prepare q channel
  generalize (g.visit w .prepare q channel).1 = o at visits
  generalize (g.visit w .prepare q channel).2 = u at visits ⊢
  cases visits with
  | prepare h =>
    cases h with
    | unfound finds => exact World.slot_congr (finds_session? finds n)
    | found finds => exact World.slot_congr (finds_session? finds n)

/-- Preparing a request replaces its method alone. -/
theorem request_of_prepare :
    ∃ method, (g.visit w .prepare q channel).2.request = { q with method } := by
  have visits := visit_visits g w .prepare q channel
  generalize (g.visit w .prepare q channel).1 = o at visits
  generalize (g.visit w .prepare q channel).2 = u at visits ⊢
  cases visits with
  | prepare h =>
    cases h with
    | unfound finds => exact ⟨q.method, request_of_finds finds⟩
    | found finds done method log => exact ⟨method, by rw [request_of_finds finds]⟩

/-- The method of the saved request is put back, unless it is empty. -/
theorem restore_method_iff (t : WideText) (post : Option Attribute) (q : Request) :
    (restore ⟨some (.wide t), post⟩ q).method = .wide t ↔ t ≠ "" ∨ q.method = .text "" := by
  by_cases empty : t = ""
  · subst empty
    have kept : (restore ⟨some (.text ""), post⟩ q).method = q.method := rfl
    rw [kept]
    simp
  · have taken : (restore ⟨some (.wide t), post⟩ q).method = .wide t := by
      rw [restore, Attribute.truthy_wide empty]
      rfl
    exact iff_of_true taken (.inl empty)

/-- The form of the saved request is put back, where it had one. -/
theorem restore_form_iff (method : Option Attribute) (saved : Option Form) (q : Request) :
    (restore ⟨method, saved.map .form⟩ q).form = saved ↔ saved ≠ none ∨ q.form = none := by
  cases saved with
  | none =>
    have kept : (restore ⟨method, none⟩ q).form = q.form := rfl
    simp [kept]
  | some f => exact iff_of_true rfl (.inl nofun)

/-- What is put back of a request that was saved. -/
theorem restore_eq_iff {p : Request} {slot : Slot} (h : p.slot? = some slot) (q : Request) :
    some (restore ⟨slot.method, slot.post⟩ q).method = slot.method ∧
        (restore ⟨slot.method, slot.post⟩ q).form.map Attribute.form = slot.post ↔
      (slot.post ≠ none ∨ q.form = none) ∧
        (slot.method ≠ some (.text "") ∨ q.method = .text "") := by
  obtain ⟨method, -, rfl⟩ := Option.map_eq_some_iff.1 h
  have form : (if p.isFormPost then some (.form (p.form.getD [])) else none : Option Attribute) =
      (if p.isFormPost then some (p.form.getD []) else none).map .form := by
    split <;> rfl
  have methods := restore_method_iff (Text.upperWide method)
    ((if p.isFormPost then some (p.form.getD []) else none).map .form) q
  have forms := restore_form_iff (some (.wide (Text.upperWide method)))
    (if p.isFormPost then some (p.form.getD []) else none) q
  have injective : Function.Injective (Option.map Attribute.form) :=
    Option.map_injective fun _ _ => Attribute.form.inj
  simp only [form, Option.some.injEq, methods, injective.eq_iff, forms, Option.map_eq_none_iff,
    ne_eq, Json.text.injEq, Attribute.json.injEq]
  exact and_comm

/-- **A replayed request is the saved one,** its method and its form, if and only if a form was
saved or the request that came had none, and the saved method is not empty or the one that came is.
Take any run from an empty store, and after it a request that is prepared and then decided on,
whereby the saved request is put back. -/
theorem replayed_eq_iff {mandatory : Bool} {before after : Channel} (fresh : w.Fresh)
    (arrives : q.restored = false) (prepared : v = (g.visit (g.run w es) .prepare q before).2)
    (decided : u = (g.visit v.world (.validate mandatory) v.request after).2)
    (restored : u.request.restored = true) :
    ∃ n, v.world.live? v.request = some n ∧
      (some u.request.method = ((g.run w es).slot n).method ∧
          u.request.form.map Attribute.form = ((g.run w es).slot n).post ↔
        (((g.run w es).slot n).post ≠ none ∨ q.form = none) ∧
          (((g.run w es).slot n).method ≠ some (.text "") ∨ v.request.method = .text "")) := by
  subst decided
  obtain ⟨method, request⟩ :
      ∃ method, (g.visit (g.run w es) .prepare q before).2.request = { q with method } :=
    request_of_prepare
  rw [← prepared] at request
  have unrestored : v.request.restored = false := by rw [request]; exact arrives
  obtain ⟨n, result, restores, -, replayed, -⟩ := exists_restores unrestored restored
  have slot : v.world.slot n = (g.run w es).slot n := by
    rw [prepared]
    exact slot_of_prepare n
  have form : v.request.form = q.form := by rw [request]
  refine ⟨n, restores.live, ?_⟩
  obtain empty | ⟨p, held⟩ := (filed_run (g := g) fresh es).slot n
  · have uri := restores.uri
    rw [slot, empty] at uri
    cases uri
  · rw [replayed, slot, ← form]
    exact restore_eq_iff held v.request

/-- The page that was asked for at first is put back after a login in a small world, and it is the
saved one. -/
theorem replayed_of_smallLogin :
    let g := smallGate true
    let w := smallWorld none
    let page := smallRequest "/page" "" (some "second")
    let v := (g.visit (g.run w smallLogin) .prepare page .fresh).2
    let u := (g.visit v.world (.validate true) v.request .fresh).2
    w.Fresh ∧ page.restored = false ∧ u.request.restored = true ∧
      ∃ n, v.world.live? v.request = some n ∧
        (some u.request.method = ((g.run w smallLogin).slot n).method ∧
            u.request.form.map Attribute.form = ((g.run w smallLogin).slot n).post ↔
          (((g.run w smallLogin).slot n).post ≠ none ∨ page.form = none) ∧
            (((g.run w smallLogin).slot n).method ≠ some (.text "") ∨
              v.request.method = .text "")) := by
  intro g w page v u
  have restored : u.request.restored = true := by decide +kernel
  exact ⟨smallWorld_fresh none, rfl, restored,
    replayed_eq_iff (smallWorld_fresh none) rfl rfl rfl restored⟩

/-- A saved page that was asked for without a form is put back into a submitted form of the same
address, and the application sees the page with that form. -/
theorem replayed_with_arriving_form :
    let g := smallGate true
    let w := smallWorld none
    ¬ ∀ (es : List Event) (q : Request) (before after : Channel) (v u : Visit) (n : Serial),
      q.restored = false → v = (g.visit (g.run w es) .prepare q before).2 →
      u = (g.visit v.world (.validate true) v.request after).2 → u.request.restored = true →
      v.world.live? v.request = some n →
      some u.request.method = ((g.run w es).slot n).method ∧
        u.request.form.map Attribute.form = ((g.run w es).slot n).post := by
  intro g w claim
  let submitted : Request :=
    { smallRequest "/page" "" (some "second") with
      method := .text "POST", contentType := some formType, form := some [("a", ["1"])] }
  let v := (g.visit (g.run w smallLogin) .prepare submitted .fresh).2
  let u := (g.visit v.world (.validate true) v.request .fresh).2
  have restored : u.request.restored = true := by decide +kernel
  have live : v.world.live? v.request = some 1 := by decide +kernel
  have same := (claim smallLogin submitted .fresh .fresh v u 1 rfl rfl rfl restored live).2
  have form : u.request.form = some [("a", ["1"])] := by decide +kernel
  have saved : ((g.run w smallLogin).slot 1).post = none := by decide +kernel
  rw [form, saved] at same
  cases same

end Gate
end LoginGate
