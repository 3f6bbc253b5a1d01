/-
# A saved request is put back once

Whatever is put back into a request was written by a save in the lineage of its session, by the last
one before it.  Putting it back empties the slot, and as one session of a lineage at most can be
found, none of them gets the saved request once more.

| of a lineage since a save | holds |
| --- | --- |
| before it is put back | the slots hold the saved request, or nothing |
| after that | the slots of the sessions that can be found hold nothing |
-/

import LoginGate.Proofs.Lineage
import LoginGate.Proofs.Replay

namespace LoginGate
namespace Gate

/-- An event puts the saved request back in the session `n`. -/
structure PutsBack (g : Gate) (w : World) (c : Event) (n : Serial) : Prop where
  call : ∃ e q channel, c = .call e q channel ∧ q.restored = false ∧
    (g.visit w e q channel).2.request.restored = true ∧ w.live? q = some n

/-- No event of a run saves a request in the lineage of a session. -/
def UnsavedBelow (g : Gate) (w : World) (es : List Event) (m : Serial) : Prop :=
  ∀ pre c post n q, es = pre ++ c :: post → Descends g w m pre n →
    ¬ Saves g (g.run w pre) c n q

variable {g : Gate} {w : World} {c : Event} {pre es fs : List Event} {n m k : Serial}
  {p : Submission} {q : Request} {ttl : Seconds} {e : Errand} {channel : Channel}

/-! ## The slots of a lineage -/

/-- A sign-in saves nothing. -/
theorem SignsIn.not_saves {x : SignIn} (h : SignsIn g w c x) : ¬ Saves g w c n p := by
  intro saves
  obtain ⟨mandatory, r, channel, rfl, signsIn⟩ := h.call
  obtain ⟨_, _, same, -⟩ := saves.call
  obtain ⟨-, rfl, -⟩ := Event.call.inj same
  exact absurd (saves.other.symm.trans signsIn.callback) nofun

/-- Where nothing was saved in a lineage in a whole run, nothing was in its first part. -/
theorem UnsavedBelow.of_append (h : UnsavedBelow g w (es ++ fs) m) : UnsavedBelow g w es m := by
  intro pre c post n q split
  exact h pre c (post ++ fs) n q (by rw [split, List.append_assoc, List.cons_append])

/-- The slot of a session of a lineage after one more event, which saved nothing there: it is empty,
or as it was, or that of the session which was renewed. -/
theorem slot_of_descends (old : m < w.store.sessions.length)
    (quiet : UnsavedBelow g w (es ++ [c]) m) (h : Descends g w m (es ++ [c]) n) :
    (g.run w (es ++ [c])).slot n = {} ∨
      Descends g w m es n ∧ (g.run w (es ++ [c])).slot n = (g.run w es).slot n ∨
      ∃ x : SignIn, SignsIn g (g.run w es) c x ∧ Descends g w m es x.session ∧
        (g.run w (es ++ [c])).slot n = (g.run w es).slot x.session := by
  have after := slotAfter g (g.run w es) c n
  rw [run_concat]
  generalize (g.after (g.run w es) c).slot n = slot at after ⊢
  obtain before | ⟨x, signsIn, earlier, rfl⟩ := h.of_concat
  · cases after with
    | kept => exact .inr (.inl ⟨before, rfl⟩)
    | taken => exact .inl rfl
    | saved saves => exact absurd saves (quiet es c [] n _ rfl before)
    | renewed _ _ new => exact absurd new (before.lt old).ne
  · cases after with
    | kept => exact .inl (World.slot_of_length_le signsIn.next_eq.ge)
    | taken => exact .inl rfl
    | saved saves => exact absurd saves signsIn.not_saves
    | renewed signsIn' =>
      exact .inr (.inr ⟨x, signsIn, earlier, by rw [signsIn.session_eq signsIn']⟩)

/-- Since a request was saved in a session, and nothing after it in its lineage, the slots of the
lineage hold this request or nothing. -/
theorem slot_of_lineage (old : m < w.store.sessions.length) (written : p.slot? = some (w.slot m))
    (quiet : UnsavedBelow g w es m) (h : Descends g w m es n) :
    (g.run w es).slot n = {} ∨ p.slot? = some ((g.run w es).slot n) := by
  induction es using List.reverseRecOn generalizing n with
  | nil =>
    generalize split : ([] : List Event) = es at h
    cases h with
    | self => exact split ▸ .inr written
    | renewed => simp at split
  | append_singleton es c ih =>
    have ih : ∀ {n}, Descends g w m es n → _ := ih quiet.of_append
    obtain empty | ⟨before, kept⟩ | ⟨x, -, earlier, copied⟩ := slot_of_descends old quiet h
    · exact .inl empty
    · exact kept ▸ ih before
    · exact copied ▸ ih earlier

/-- **Once a saved request was put back** in a session of a lineage, the slots of all sessions of
the lineage that are not gone are empty, until a request is saved there again. -/
theorem slot_of_putsBack (orderly : w.Orderly ttl)
    (clock : Seconds.Reliable ttl w.now (pre ++ c :: es ++ fs)) (old : m < w.store.sessions.length)
    (quiet : UnsavedBelow g w (pre ++ c :: es) m) (earlier : Descends g w m pre k)
    (back : PutsBack g (g.run w pre) c k) (h : Descends g w m (pre ++ c :: es) n) :
    (g.run w (pre ++ c :: es)).slot n = {} ∨ Gone g (g.run w (pre ++ c :: es)) fs n := by
  induction es using List.reverseRecOn generalizing fs n with
  | nil =>
    obtain ⟨e, q, channel, rfl, fresh, restored, live⟩ := back.call
    obtain ⟨j, result, restores, -, -, emptied⟩ := exists_restores fresh restored
    obtain rfl : j = k := Option.some.inj (restores.live.symm.trans live)
    rw [List.append_assoc, List.singleton_append] at clock
    obtain empty | ⟨before, -⟩ | ⟨x, signsIn, -⟩ := slot_of_descends old quiet h
    · exact .inl empty
    · rw [run_concat]
      obtain rfl | gone | gone := Descends.unique orderly clock before earlier
      · exact .inl emptied
      · exact .inr gone.after
      · exact absurd live (gone.live?_ne q)
    · obtain ⟨_, _, _, same, here⟩ := signsIn.call
      obtain ⟨-, rfl, -⟩ := Event.call.inj same
      exact absurd (restores.other.symm.trans here.callback) nofun
  | append_singleton es d ih =>
    have split : pre ++ c :: (es ++ [d]) = pre ++ c :: es ++ [d] := by simp
    rw [split] at clock quiet h ⊢
    rw [List.append_assoc, List.singleton_append] at clock
    have ih : ∀ {n}, Descends g w m (pre ++ c :: es) n → _ := ih clock quiet.of_append
    obtain empty | ⟨before, kept⟩ | ⟨x, signsIn, before, copied⟩ := slot_of_descends old quiet h
    · exact .inl empty
    · rw [kept, run_concat]
      exact (ih before).imp_right Gone.after
    · obtain empty | gone := ih before
      · exact .inl (copied.trans empty)
      · exact absurd signsIn gone.not_signsIn

/-! ## Saves and replays in a lineage -/

/-- A session of a lineage in which a request was saved is gone, or is of the lineage of the session
that the request was saved in. -/
theorem Saves.descends_or_gone (orderly : w.Orderly ttl)
    (clock : Seconds.Reliable ttl w.now (pre ++ c :: es ++ fs))
    (saves : Saves g (g.run w pre) c m p) (own : Descends g w k pre m)
    (h : Descends g w k (pre ++ c :: es) n) :
    Descends g (g.after (g.run w pre) c) m es n ∨ Gone g (g.run w (pre ++ c :: es)) fs n := by
  induction es using List.reverseRecOn generalizing fs n with
  | nil =>
    rw [List.append_assoc, List.singleton_append] at clock
    obtain before | ⟨x, signsIn, -⟩ := h.of_concat
    · obtain ⟨mandatory, channel, -, reaches⟩ := saves.call
      have session := reaches.session
      cases live : (g.run w pre).live? p with
      | some j =>
        rw [World.sessionFor, live, Option.getD_some] at session
        subst session
        obtain rfl | gone | gone := Descends.unique orderly clock before own
        · exact .inl .self
        · rw [run_concat]
          exact .inr gone.after
        · exact absurd live (gone.live?_ne p)
      | none =>
        -- The session is new, and so it is alone in its lineage.
        rw [World.sessionFor, live, Option.getD_none] at session
        obtain rfl | old := own.eq_or_lt
        · exact before.eq_of_le session.ge ▸ .inl .self
        · exact absurd session old.ne
    · exact absurd saves signsIn.not_saves
  | append_singleton es d ih =>
    have split : pre ++ c :: (es ++ [d]) = pre ++ c :: es ++ [d] := by simp
    rw [split] at clock h ⊢
    rw [List.append_assoc, List.singleton_append] at clock
    obtain before | ⟨x, signsIn, before, rfl⟩ := h.of_concat
    · refine (ih clock before).imp (fun own => own.append [d]) fun gone => ?_
      rw [run_concat]
      exact gone.after
    · obtain own | gone := ih clock before
      · rw [run_append, run_cons] at signsIn
        exact .inl (.renewed signsIn own)
      · exact absurd signsIn gone.not_signsIn

/-- What a slot holds was saved in the lineage. -/
theorem exists_saves (fresh : w.Fresh) (full : (g.run w es).slot n ≠ {}) :
    ∃ pre c post m p, es = pre ++ c :: post ∧ Saves g (g.run w pre) c m p ∧
      Descends g w m es n ∧ p.slot? = some ((g.run w es).slot n) := by
  induction es using List.reverseRecOn generalizing n with
  | nil =>
    have none : w.store.sessions.length ≤ n := by
      rw [fresh.store_eq.1]
      exact Nat.zero_le n
    exact absurd (World.slot_of_length_le none) full
  | append_singleton es c ih =>
    have later : ∀ {k}, (g.run w es).slot k = (g.run w (es ++ [c])).slot n →
        (∀ {m}, Descends g w m es k → Descends g w m (es ++ [c]) n) →
        ∃ pre d post m p, es ++ [c] = pre ++ d :: post ∧ Saves g (g.run w pre) d m p ∧
          Descends g w m (es ++ [c]) n ∧ p.slot? = some ((g.run w (es ++ [c])).slot n) := by
      intro k same goesOn
      rw [← same] at full ⊢
      obtain ⟨pre, d, post, m, p, rfl, saves, own, slot⟩ := ih full
      exact ⟨pre, d, post ++ [c], m, p, by simp, saves, goesOn own, slot⟩
    have after := slotAfter g (g.run w es) c n
    generalize made : (g.after (g.run w es) c).slot n = slot at after
    rw [← run_concat] at made
    cases after with
    | kept => exact later made.symm fun own => own.append [c]
    | taken => exact absurd made full
    | saved saves written => exact ⟨es, c, [], n, _, rfl, saves, .self, made ▸ written⟩
    | renewed signsIn next =>
      exact later made.symm fun own => next ▸ .renewed signsIn own

/-- An event after a run saves a request in the lineage of a session. -/
def SavesIn (g : Gate) (w : World) (pre : List Event) (c : Event) (k : Serial) (p : Submission) :
    Prop :=
  ∃ m, Descends g w k pre m ∧ Saves g (g.run w pre) c m p

/-- An event after a run puts a saved request back in the lineage of a session. -/
def PutsBackIn (g : Gate) (w : World) (pre : List Event) (c : Event) (k : Serial) : Prop :=
  ∃ m, Descends g w k pre m ∧ PutsBack g (g.run w pre) c m

/-- **Between two saves in a lineage** nothing but the saved request is in the slots of those of its
sessions that are not gone, and nothing is if it was put back since. -/
theorem SavesIn.slot (orderly : w.Orderly ttl)
    (clock : Seconds.Reliable ttl w.now (pre ++ c :: es ++ fs)) (saves : SavesIn g w pre c k p)
    (last : ∀ mid d post q, es = mid ++ d :: post → ¬ SavesIn g w (pre ++ c :: mid) d k q)
    (h : Descends g w k (pre ++ c :: es) n) (here : ¬ Gone g (g.run w (pre ++ c :: es)) fs n)
    (full : (g.run w (pre ++ c :: es)).slot n ≠ {}) :
    p.slot? = some ((g.run w (pre ++ c :: es)).slot n) ∧
      ∀ mid d post, es = mid ++ d :: post → ¬ PutsBackIn g w (pre ++ c :: mid) d k := by
  obtain ⟨m, own, saved⟩ := saves
  have orderly' := orderly_after (g := g) (orderly_run (g := g) orderly pre) c
  have named := (orderly_run (g := g) orderly pre).named
  have since : ∀ mid, g.run w (pre ++ c :: mid) = g.run (g.after (g.run w pre) c) mid := fun mid =>
    run_append g w pre (c :: mid)
  have old := lt_of_saves named saved
  have below : Descends g w k (pre ++ [c]) m := own.append [c]
  have quiet : UnsavedBelow g (g.after (g.run w pre) c) es m := by
    intro mid d post j q split later more
    rw [← run_concat] at later
    refine last mid d post q split ⟨j, ?_, (since mid).symm ▸ more⟩
    simpa using below.trans later
  have clock' : Seconds.Reliable ttl (g.after (g.run w pre) c).now (es ++ fs) := by
    rw [List.append_assoc] at clock
    exact reliable_after (reliable_run clock)
  obtain later | gone := saved.descends_or_gone orderly clock own h
  · rw [since] at here full ⊢
    refine ⟨(slot_of_lineage old (saved.slot named) quiet later).resolve_left full, ?_⟩
    rintro mid d post rfl ⟨j, earlier, back⟩
    obtain ⟨e, q, channel, -, -, -, live⟩ := back.call
    have clock'' : Seconds.Reliable ttl w.now (pre ++ c :: mid ++ (d :: post ++ fs)) := by
      simpa using clock
    obtain earlier | gone := saved.descends_or_gone orderly clock'' own earlier
    · rw [since] at back
      obtain empty | gone := slot_of_putsBack orderly' clock' old quiet earlier back later
      · exact full empty
      · exact here gone
    · exact gone.live?_ne q live
  · exact absurd gone here

/-- **A saved request is put back once.**  Take any run from an empty store, on a clock that is
never set back or where every lease is live when it is set, and after it a call that puts a saved
request back.  The session of the call holds a valid login and the address of the request, and
nothing is saved in it afterwards.  What it held was saved in its lineage.  In every lineage that it
is of, this was saved by the last save there, and nothing was put back there since. -/
theorem restored_once {capacity : Int} {ids : Supply}
    (made : SessionStore.make ttl capacity ids = .ok w.store) (distinct : ids.Distinct)
    (clock : Seconds.Reliable ttl w.now es) (arrives : q.restored = false)
    (restored : (g.visit (g.run w es) e q channel).2.request.restored = true) :
    ∃ n result, Restores g (g.run w es) q n result ∧
      (g.visit (g.run w es) e q channel).2.world.slot n = {} ∧
      (∃ pre c since m p, es = pre ++ c :: since ∧ Saves g (g.run w pre) c m p ∧
        Descends g w m es n ∧ p.slot? = some ((g.run w es).slot n)) ∧
      ∀ k pre c since p, es = pre ++ c :: since → Descends g w k es n → SavesIn g w pre c k p →
        (∀ mid d post q, since = mid ++ d :: post → ¬ SavesIn g w (pre ++ c :: mid) d k q) →
        p.url = q.url ∧ p.slot? = some ((g.run w es).slot n) ∧
          ∀ mid d post, since = mid ++ d :: post → ¬ PutsBackIn g w (pre ++ c :: mid) d k := by
  have fresh : w.Fresh := ⟨ttl, capacity, ids, made⟩
  have orderly := orderly_of_make made distinct
  obtain ⟨n, result, restores, -, -, emptied⟩ := exists_restores arrives restored
  have full : (g.run w es).slot n ≠ {} := by
    intro empty
    have uri := restores.uri
    rw [empty] at uri
    cases uri
  refine ⟨n, result, restores, emptied, exists_saves fresh full, ?_⟩
  rintro k pre c since p rfl own saves last
  have clock : Seconds.Reliable ttl w.now (pre ++ c :: since ++ []) := by
    rw [List.append_nil]
    exact clock
  have here : ¬ Gone g (g.run w (pre ++ c :: since)) [] n := fun gone =>
    gone.live?_ne q restores.live
  obtain ⟨slot, quiet⟩ := saves.slot orderly clock last own here full
  refine ⟨?_, slot, quiet⟩
  have address := Request.uri_of_slot? slot
  rw [restores.uri] at address
  exact (WideText.plain.inj (Json.text.inj (Attribute.json.inj (Option.some.inj address)))).symm

/-- The page that was asked for is put back after a login in a small world, for the first time. -/
theorem restored_of_smallLogin :
    let g := smallGate true
    let w := smallWorld none
    let ids : Supply := { given := ["first", "second"] }
    let page := smallRequest "/page" "" (some "second")
    SessionStore.make (.whole 60) 4 ids = .ok w.store ∧ ids.Distinct ∧
      Seconds.Reliable (.whole 60) w.now smallLogin ∧ page.restored = false ∧
      (g.visit (g.run w smallLogin) (.validate true) page .fresh).2.request.restored = true ∧
      ∃ n result, Restores g (g.run w smallLogin) page n result ∧
        (g.visit (g.run w smallLogin) (.validate true) page .fresh).2.world.slot n = {} ∧
        (∃ pre c since m p, smallLogin = pre ++ c :: since ∧ Saves g (g.run w pre) c m p ∧
          Descends g w m smallLogin n ∧ p.slot? = some ((g.run w smallLogin).slot n)) ∧
        ∀ k pre c since p, smallLogin = pre ++ c :: since → Descends g w k smallLogin n →
          SavesIn g w pre c k p →
          (∀ mid d post q, since = mid ++ d :: post → ¬ SavesIn g w (pre ++ c :: mid) d k q) →
          p.url = page.url ∧ p.slot? = some ((g.run w smallLogin).slot n) ∧
            ∀ mid d post, since = mid ++ d :: post → ¬ PutsBackIn g w (pre ++ c :: mid) d k := by
  intro g w ids page
  have made : SessionStore.make (.whole 60) 4 ids = .ok w.store := rfl
  have distinct : ids.Distinct := Series.name_injective _ (by decide) le_rfl
  have clock : Seconds.Reliable (.whole 60) w.now smallLogin :=
    .inr ⟨Seconds.lasts_whole (by decide) 0, by simp [smallLogin]⟩
  have restored :
      (g.visit (g.run w smallLogin) (.validate true) page .fresh).2.request.restored = true := by
    decide +kernel
  exact ⟨made, distinct, clock, rfl, restored, restored_once made distinct clock rfl restored⟩

/-- A time so long before the year 1970 that a minute more makes no difference to a double. -/
def longAgo (n : Nat) : Instant :=
  .real (.nearest true (n * 10 ^ 20) 1)

/-- Where a lease is over when it is set, and the clock is set back, a session outlives its renewal.
A login from it once more puts the saved page back once more, and nothing was saved in between. -/
theorem restored_twice :
    let g := smallGate true
    let w := smallWorld none
    ¬ ∀ (pre mid : List Event) (c d : Event) (k : Serial),
      PutsBackIn g w pre c k → PutsBackIn g w (pre ++ c :: mid) d k →
      ∃ a e b q, mid = a ++ e :: b ∧ SavesIn g w (pre ++ c :: a) e k q := by
  intro g w claim
  let page (id : String) : Event :=
    .call (.validate true) (smallRequest "/page" "" (some id)) .fresh
  let back : Event := .call (.validate true)
    (smallRequest "/j_security_check" "code=abc&state=token" (some "first")) .fresh
  let asked : List Event :=
    [.call (.validate true) (smallRequest "/page" "" none) .fresh, .tick (longAgo 1)]
  let between : List Event := [.tick (longAgo 2), page "second"]
  let login (next : Serial) (newId : String) : SignIn :=
    { session := 0, next, oldId := "first", newId, code := "abc", token := "token"
      result := smallResult }
  have first : SignsIn g (g.run w asked) back (login 1 "second") :=
    ⟨⟨true, _, .fresh, rfl,
        ⟨by decide +kernel, rfl, by decide +kernel, by decide +kernel, by decide +kernel,
          by decide +kernel, by decide +kernel, by decide +kernel, by decide +kernel⟩⟩,
      by decide +kernel, Option.bind_eq_some_iff.1 (by decide +kernel)⟩
  have again : SignsIn g (g.run w (asked ++ back :: between)) back (login 2 "1") :=
    ⟨⟨true, _, .fresh, rfl,
        ⟨by decide +kernel, rfl, by decide +kernel, by decide +kernel, by decide +kernel,
          by decide +kernel, by decide +kernel, by decide +kernel, by decide +kernel⟩⟩,
      by decide +kernel, Option.bind_eq_some_iff.1 (by decide +kernel)⟩
  have once : PutsBackIn g w (asked ++ back :: [.tick (longAgo 2)]) (page "second") 0 :=
    ⟨1, .renewed first .self,
      ⟨.validate true, _, .fresh, rfl, rfl, by decide +kernel, by decide +kernel⟩⟩
  have twice : PutsBackIn g w ((asked ++ back :: between) ++ back :: [.tick (longAgo 3)])
      (page "1") 0 :=
    ⟨2, .renewed again .self,
      ⟨.validate true, _, .fresh, rfl, rfl, by decide +kernel, by decide +kernel⟩⟩
  obtain ⟨a, e, b, q, split, m, -, saves⟩ := claim _ [back, .tick (longAgo 3)] _ _ 0 once twice
  have mem : e ∈ [back, .tick (longAgo 3)] := split ▸ by simp
  obtain ⟨mandatory, channel, rfl, -⟩ := saves.call
  -- Of the two events one is a callback, and the other no call.
  rw [List.mem_pair] at mem
  obtain same | same := mem
  · obtain ⟨-, rfl, -⟩ := Event.call.inj same
    exact absurd saves.other (by decide +kernel)
  · cases same

end Gate
end LoginGate
