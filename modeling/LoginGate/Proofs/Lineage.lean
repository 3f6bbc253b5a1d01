/-
# The lineage of a session

A login goes on in a session of its own, into which the one that it began in is renewed.  A session
and those that it is renewed into, one after the other, are its lineage.  Of a lineage one session
at most can still be found: the one that was renewed has no live lease after that, and none again.

| clock | why no lease of a renewed session is live again |
| --- | --- |
| never set back | what expired stays expired |
| set at will, every lease that is set is live | the session has no lease at all |
-/

import LoginGate.Proofs.Origin
import LoginGate.Proofs.Renewal

namespace LoginGate

namespace Seconds

/-- A lease of a length that is set now is live now. -/
def Lasts (ttl now : Seconds) : Prop :=
  ∀ later, now.add ttl = .ok later → now.isBefore later = true

/-- On a clock of whole seconds every lease of some seconds is live when it is set. -/
theorem lasts_whole {k : Int} (positive : 0 < k) (n : Int) : Lasts (.whole k) (.whole n) := by
  intro later set
  obtain rfl := Except.ok.inj set
  rw [isBefore_whole, decide_eq_true_iff]
  exact Int.lt_add_of_pos_right n positive

/-- A lease of a length is live when it is set, at all times that the clock shows in a run. -/
def Lasting (ttl now : Seconds) (es : List Event) : Prop :=
  Lasts ttl now ∧ ∀ later, Event.tick later ∈ es → Lasts ttl later

/-- The clock of a run is never set back, or every lease is live when it is set. -/
def Reliable (ttl now : Seconds) (es : List Event) : Prop :=
  Steady now es ∨ Lasting ttl now es

end Seconds

/-- A store as runs leave it, whose leases are set for a time `ttl`. -/
structure World.Orderly (w : World) (ttl : Seconds) : Prop where
  named : w.store.Named
  apart : w.store.Apart
  distinct : w.store.ids.Distinct
  ttl : ∀ name, (w.store.pool name).ttl = ttl

namespace Gate

open Step (Ends Finds)

variable {g : Gate} {w : World} {c : Event} {es fs : List Event} {n m k : Serial} {x : SignIn}
  {ttl : Seconds} {v u : Visit} {r : Except Fault Outcome} {mandatory : Bool} {q : Request}

/-! ## Order and time along a run -/

/-- A store that was just set up is orderly. -/
theorem orderly_of_make {capacity : Int} {ids : Supply}
    (made : SessionStore.make ttl capacity ids = .ok w.store) (distinct : ids.Distinct) :
    w.Orderly ttl := by
  have fresh : w.Fresh := ⟨ttl, capacity, ids, made⟩
  have pool := SessionStore.pool_of_make made
  refine ⟨named_of_fresh fresh, fun a b _ l hl => ?_, (pool .pending).2.2 ▸ distinct,
    fun name => by rw [(pool name).1]⟩
  rw [(pool a).1] at hl
  cases hl

/-- An event leaves an orderly store. -/
theorem orderly_after (h : w.Orderly ttl) (c : Event) : (g.after w c).Orderly ttl := by
  have evolves := store_after (g := g) w c
  refine ⟨h.named.evolves evolves, evolves.apart h.named h.apart, ?_, fun name => ?_⟩
  · rw [Supply.Distinct, evolves.series]
    exact h.distinct
  · rw [(evolves.pools name).2, h.ttl name]

/-- A run leaves an orderly store. -/
theorem orderly_run (h : w.Orderly ttl) (es : List Event) : (g.run w es).Orderly ttl :=
  run_of_after (P := fun w => w.Orderly ttl) (fun _ c h => orderly_after h c) h es

/-- A clock that is reliable in a run is so after its first event. -/
theorem reliable_after (h : Seconds.Reliable ttl w.now (c :: es)) :
    Seconds.Reliable ttl (g.after w c).now es := by
  obtain steady | ⟨first, lasting⟩ := h
  · exact .inl (steady_after steady)
  · have rest : ∀ later, Event.tick later ∈ es → Seconds.Lasts ttl later := fun later h =>
      lasting later (List.mem_cons_of_mem c h)
    refine .inr ⟨?_, rest⟩
    cases c with
    | call e q channel => exact (visit_evolves g w e q channel).now ▸ first
    | tick later => exact lasting later List.mem_cons_self
    | wall => exact first
    | add => exact first
    | revoke => exact first

/-- A clock that is reliable in a run is so after any part of it. -/
theorem reliable_run (h : Seconds.Reliable ttl w.now (es ++ fs)) :
    Seconds.Reliable ttl (g.run w es).now fs := by
  induction es generalizing w with
  | nil => exact h
  | cons c es ih => exact ih (reliable_after h)

/-! ## Sessions that are gone -/

/-- No lease of a session is live at any time of a run. -/
def Gone (g : Gate) (w : World) (es : List Event) (n : Serial) : Prop :=
  ∀ pre post, es = pre ++ post → ∀ l ∈ (g.run w pre).store.leases, l.serial = n →
    l.isLive (g.run w pre).now = false

/-- A session that is gone in a run is gone after its first event. -/
theorem Gone.after (h : Gone g w (c :: es) n) : Gone g (g.after w c) es n :=
  fun pre post split => h (c :: pre) post (by rw [split]; rfl)

/-- A session that is gone is found by no request. -/
theorem Gone.live?_ne (h : Gone g w es n) (q : Request) : w.live? q ≠ some n := by
  intro live
  obtain ⟨id, -, -, found⟩ := World.live?_eq_some.1 live
  obtain ⟨l, hl, lives, -, serial⟩ := SessionStore.exists_of_find? found
  exact absurd (lives.symm.trans (h [] es rfl l hl serial)) nofun

/-- A session that is gone is not renewed. -/
theorem Gone.not_signsIn (h : Gone g w es x.session) : ¬ SignsIn g w c x := by
  intro signsIn
  obtain ⟨mandatory, q, channel, -, here⟩ := signsIn.call
  obtain ⟨l, hl, lives, -, serial⟩ :=
    SessionStore.exists_of_find? (SessionStore.find?_of_get here.found)
  exact absurd (lives.symm.trans (h [] es rfl l hl serial)) nofun

/-- A session without a live lease is gone, if the clock is never set back or it has no lease. -/
theorem gone_of_dormant (old : n < w.store.sessions.length)
    (dormant : ∀ l ∈ w.store.leases, l.serial = n → l.isLive w.now = false)
    (clock : Steady w.now es ∨ ∀ l ∈ w.store.leases, l.serial ≠ n) : Gone g w es n := by
  induction es generalizing w with
  | nil =>
    intro pre post split
    obtain ⟨rfl, rfl⟩ := List.append_eq_nil_iff.1 split.symm
    exact dormant
  | cons c es ih =>
    -- A lease of the session after the event is one before it, and was not set again.
    have back : ∀ l ∈ (g.after w c).store.leases, l.serial = n →
        ∃ k ∈ w.store.leases, k.serial = n ∧ k.expires = l.expires := by
      intro l hl serial
      obtain ⟨k, hk, -, same, kept | lives⟩ | ⟨new, -⟩ := (store_after w c).leases l hl
      · exact ⟨k, hk, same.trans serial, kept⟩
      · exact absurd (lives.symm.trans (dormant k hk (same.trans serial))) nofun
      · exact absurd (serial ▸ new) (Nat.not_le.2 old)
    have after : Gone g (g.after w c) es n := by
      refine ih (old.trans_le (after_length w c)) (fun l hl serial => ?_) ?_
      · obtain ⟨k, hk, same, expires⟩ := back l hl serial
        have expired := dormant k hk same
        rw [Lease.isLive, expires] at expired
        obtain steady | none := clock
        · cases c with
          | call e q channel =>
            rw [Lease.isLive, ← expired]
            exact congrArg (fun now => Seconds.isBefore now l.expires)
              (visit_evolves g w e q channel).now
          | tick later =>
            by_contra lives
            rw [Bool.not_eq_false] at lives
            have before := Seconds.isBefore_of_atMost steady.1 lives
            exact absurd (before.symm.trans expired) nofun
          | wall => exact expired
          | add => exact expired
          | revoke => exact expired
        · exact absurd same (none k hk)
      · obtain steady | none := clock
        · exact .inl (steady_after steady)
        · refine .inr fun l hl serial => ?_
          obtain ⟨k, hk, same, -⟩ := back l hl serial
          exact none k hk same
    intro pre post split
    cases pre with
    | nil => exact dormant
    | cons d pre =>
      obtain ⟨rfl, rfl⟩ := List.cons.inj split
      exact after pre post rfl

/-- The session that a sign-in issues is the next one. -/
theorem SignIn.At.next_eq (h : x.At g w q) : x.next = w.store.sessions.length := by
  have sessions := SessionStore.sessions_get w.store w.now x.oldId
  cases SessionStore.renew_issues (w.store.get w.now x.oldId).2 w.now x.session with
  | issued number => rw [← sessions]; exact Except.ok.inj (h.renewal.symm.trans number)
  | refused refused => exact absurd (refused.symm.trans h.renewal) nofun

/-- The session that a sign-in renews is there. -/
theorem SignIn.At.session_lt (h : x.At g w q) : x.session < w.store.sessions.length := by
  obtain ⟨a, ha, -⟩ := Option.bind_eq_some_iff.1 h.token
  exact SessionStore.lt_of_session? ha

/-- Nothing is live of the session that a sign-in renews, and what is left of it was set then. -/
def Dormant (w : World) (n : Serial) (u : World) : Prop :=
  ∀ l ∈ u.store.leases, l.serial = n →
    l.isLive w.now = false ∧ ∃ name, w.now.add (w.store.pool name).ttl = .ok l.expires

/-- A session that a callback renews is dormant after it. -/
theorem Redeems.dormant {id code : String} {s : SessionStore} (named : v.world.store.Named)
    (apart : v.world.store.Apart) (distinct : v.world.store.ids.Distinct)
    (found : v.world.store.get v.world.now id = (.ok (some n), s))
    (renewal : (s.renew v.world.now n).result = .ok m)
    (issued : v.world.store.sessions.length < u.world.store.sessions.length)
    (h : Redeems g code n (v.withStore s) r u) : Dormant v.world n u.world := by
  have same : s.sessions = v.world.store.sessions := by
    have sessions := SessionStore.sessions_get v.world.store v.world.now id
    rwa [found] at sessions
  have stays : ∀ {y : Visit}, y.world.store.sessions = s.sessions →
      ¬ v.world.store.sessions.length < y.world.store.sessions.length := by
    intro y sessions lt
    rw [sessions, same] at lt
    exact lt_irrefl _ lt
  cases h with
  | broken login =>
    cases login with
    | broken => exact absurd issued (stays rfl)
    | untimed => exact absurd issued (stays rfl)
    | unissued _ _ issue => exact absurd (issue.symm.trans renewal) nofun
  | refused login ends =>
    rw [ends.world_eq] at issued
    cases login with
    | refused => exact absurd issued (stays rfl)
  | redeemed login ends =>
    cases login with
    | renewed _ _ issue =>
      have leases := SessionStore.renew_dormant named apart distinct found issue
      intro l hl serial
      rw [ends.world_eq] at hl
      exact leases l hl serial

/-- **A session that was renewed by a sign-in is dormant.** -/
theorem SignsIn.dormant (named : w.store.Named) (apart : w.store.Apart)
    (distinct : w.store.ids.Distinct) (h : SignsIn g w c x) :
    Dormant w x.session (g.after w c) := by
  obtain ⟨mandatory, q, channel, rfl, signsIn⟩ := h.call
  have issued : w.store.sessions.length <
      (g.visit w (.validate mandatory) q channel).2.world.store.sessions.length := by
    have issued := (List.getElem?_eq_some_iff.1 h.issued).1
    rw [SessionStore.length_issuedIds, signsIn.next_eq] at issued
    exact issued
  have visits := visit_visits g w (.validate mandatory) q channel
  change Dormant w x.session (g.visit w (.validate mandatory) q channel).2.world
  generalize (g.visit w (.validate mandatory) q channel).1 = o at visits
  generalize (g.visit w (.validate mandatory) q channel).2 = u at visits issued ⊢
  cases visits with
  | validate decides =>
    cases decides with
    | deferred => exact absurd issued (lt_irrefl _)
    | urlSession _ _ ends =>
      rw [ends.world_eq] at issued
      exact absurd issued (lt_irrefl _)
    | unfound _ _ finds =>
      obtain ⟨s, rfl, same, -⟩ := finds.exists_store
      exact absurd issued (same ▸ lt_irrefl _)
    | protect _ other => exact absurd (other.symm.trans signsIn.callback) nofun
    | callback _ _ finds answers =>
      cases finds with
      | nobody =>
        cases answers with
        | noCode _ ends => exact absurd issued (ends.world_eq ▸ lt_irrefl _)
        | noSession _ ends => exact absurd issued (ends.world_eq ▸ lt_irrefl _)
      | @found id n s named' given found =>
        obtain rfl : id = x.oldId := Option.some.inj (named'.symm.trans signsIn.named)
        have own := signsIn.found
        have renewal := signsIn.renewal
        rw [found] at own renewal
        obtain rfl : n = x.session := Option.some.inj (Except.ok.inj own)
        have sessions := SessionStore.sessions_get w.store w.now x.oldId
        rw [found] at sessions
        have stays : ∀ {y : Visit}, y.world.store.sessions = s.sessions →
            ¬ w.store.sessions.length < y.world.store.sessions.length := by
          intro y same lt
          rw [same, sessions] at lt
          exact lt_irrefl _ lt
        cases answers with
        | noCode _ ends => exact absurd issued (stays (by rw [ends.world_eq]; rfl))
        | unreadable => exact absurd issued (stays rfl)
        | wrongState _ _ ends => exact absurd issued (stays (by rw [ends.world_eq]; rfl))
        | redeemed _ _ redeems =>
          exact redeems.dormant (v := { world := w, request := q, channel }) named apart distinct
            found renewal issued

/-- **A session that was renewed is gone.** -/
theorem SignsIn.gone (orderly : w.Orderly ttl) (clock : Seconds.Reliable ttl w.now (c :: es))
    (h : SignsIn g w c x) : Gone g (g.after w c) es x.session := by
  have dormant := h.dormant orderly.named orderly.apart orderly.distinct
  obtain ⟨mandatory, q, channel, rfl, signsIn⟩ := h.call
  have now : (g.after w (.call (.validate mandatory) q channel)).now = w.now :=
    (visit_evolves g w (.validate mandatory) q channel).now
  refine gone_of_dormant (signsIn.session_lt.trans_le (after_length ..)) (fun l hl serial => ?_) ?_
  · rw [now]
    exact (dormant l hl serial).1
  · obtain steady | lasting := reliable_after (g := g) clock
    · exact .inl steady
    · -- A lease of the session that is left was set now, and so it would be live.
      refine .inr fun l hl serial => ?_
      obtain ⟨expired, name, set⟩ := dormant l hl serial
      rw [orderly.ttl name] at set
      have lives := lasting.1 l.expires (now ▸ set)
      rw [now] at lives
      exact absurd (lives.symm.trans expired) nofun

/-! ## Lineages -/

/-- In a run from a world the session `m` is `n`, or was renewed from `n` in one or more steps. -/
inductive Descends (g : Gate) (w : World) (n : Serial) : List Event → Serial → Prop
  | self {es : List Event} : Descends g w n es n
  | renewed {pre post : List Event} {c : Event} {x : SignIn}
      (signsIn : SignsIn g (g.run w pre) c x) (earlier : Descends g w n pre x.session) :
      Descends g w n (pre ++ c :: post) x.next

/-- A lineage stays what it is when the run goes on. -/
theorem Descends.append (h : Descends g w n es m) (fs : List Event) :
    Descends g w n (es ++ fs) m := by
  cases h with
  | self => exact .self
  | renewed signsIn earlier =>
    rw [List.append_assoc, List.cons_append]
    exact .renewed signsIn earlier

/-- The last event of a run renewed a session of the lineage, or the lineage was there before. -/
theorem Descends.of_concat (h : Descends g w n (es ++ [c]) m) :
    Descends g w n es m ∨
      ∃ x : SignIn, SignsIn g (g.run w es) c x ∧ Descends g w n es x.session ∧ m = x.next := by
  generalize split : es ++ [c] = fs at h
  cases h with
  | self => exact .inl .self
  | @renewed pre post d x signsIn earlier =>
    obtain rfl | ⟨post, e, rfl⟩ := List.eq_nil_or_concat post
    · obtain ⟨rfl, last⟩ := List.append_inj' split rfl
      obtain rfl := (List.cons.inj last).1
      exact .inr ⟨x, signsIn, earlier, rfl⟩
    · rw [List.concat_eq_append, ← List.cons_append, ← List.append_assoc] at split
      obtain ⟨rfl, -⟩ := List.append_inj' split rfl
      exact .inl (.renewed signsIn earlier)

/-- A sign-in goes on in the next session to be issued. -/
theorem SignsIn.next_eq (h : SignsIn g w c x) : x.next = w.store.sessions.length := by
  obtain ⟨mandatory, q, channel, -, signsIn⟩ := h.call
  exact signsIn.next_eq

/-- An event that signs in renews one session. -/
theorem SignsIn.session_eq {y : SignIn} (h : SignsIn g w c x) (h' : SignsIn g w c y) :
    x.session = y.session := by
  obtain ⟨mandatory, q, channel, rfl, one⟩ := h.call
  obtain ⟨_, _, _, same, other⟩ := h'.call
  obtain ⟨-, rfl, -⟩ := Event.call.inj same
  have named : x.oldId = y.oldId := Option.some.inj (one.named.symm.trans other.named)
  have found := one.found
  rw [named] at found
  exact Option.some.inj (Except.ok.inj (found.symm.trans other.found))

/-- A lineage goes on in the lineage of each of its sessions. -/
theorem Descends.trans (first : Descends g w n es m) (h : Descends g (g.run w es) m fs k) :
    Descends g w n (es ++ fs) k := by
  induction h with
  | self => exact first.append _
  | renewed signsIn _ ih =>
    rw [← List.append_assoc]
    exact .renewed (run_append g w es _ ▸ signsIn) ih

/-- A session that was renewed from another one is there. -/
theorem Descends.eq_or_lt (h : Descends g w n es m) :
    m = n ∨ m < (g.run w es).store.sessions.length := by
  cases h with
  | self => exact .inl rfl
  | renewed signsIn =>
    have issued := (List.getElem?_eq_some_iff.1 signsIn.issued).1
    rw [SessionStore.length_issuedIds] at issued
    rw [run_append]
    exact .inr (issued.trans_le (run_length ..))

/-- The sessions of a lineage were all issued. -/
theorem Descends.lt (old : n < w.store.sessions.length) (h : Descends g w n es m) :
    m < (g.run w es).store.sessions.length := by
  obtain rfl | lt := h.eq_or_lt
  · exact old.trans_le (run_length w es)
  · exact lt

/-- A session that is not there yet was not renewed. -/
theorem Descends.eq_of_le (h : Descends g w n es m)
    (new : (g.run w es).store.sessions.length ≤ n) : m = n := by
  induction h with
  | self => rfl
  | @renewed pre post c x signsIn _ ih =>
    rw [run_append] at new
    have before := (run_length (g.run w pre) (c :: post)).trans new
    obtain ⟨mandatory, q, channel, -, here⟩ := signsIn.call
    exact absurd (ih before) (here.session_lt.trans_le before).ne

/-- **Of a lineage one session at most is not gone.** -/
theorem Descends.unique (orderly : w.Orderly ttl)
    (clock : Seconds.Reliable ttl w.now (es ++ fs)) (h : Descends g w n es m)
    (h' : Descends g w n es k) : m = k ∨ Gone g (g.run w es) fs m ∨ Gone g (g.run w es) fs k := by
  induction es using List.reverseRecOn generalizing fs m k with
  | nil =>
    generalize split : ([] : List Event) = es at h h'
    cases h with
    | renewed => simp at split
    | self =>
      cases h' with
      | self => exact .inl rfl
      | renewed => simp at split
  | append_singleton es c ih =>
    rw [List.append_assoc, List.singleton_append] at clock
    have later := reliable_run (g := g) clock
    have orderly := orderly_run (g := g) orderly es
    rw [run_concat]
    -- A session that is renewed is live, and so the other sessions of the lineage are gone.
    have renews : ∀ {x : SignIn} {j : Serial}, SignsIn g (g.run w es) c x →
        Descends g w n es x.session → Descends g w n es j →
        Gone g (g.after (g.run w es) c) fs j := by
      intro x j signsIn own other
      obtain same | gone | gone := ih clock own other
      · exact same ▸ signsIn.gone orderly later
      · exact absurd signsIn gone.not_signsIn
      · exact gone.after
    obtain h | ⟨x, signsIn, own, rfl⟩ := h.of_concat
    · obtain h' | ⟨y, signsIn', own', rfl⟩ := h'.of_concat
      · exact (ih clock h h').imp_right fun gone => gone.imp Gone.after Gone.after
      · exact .inr (.inl (renews signsIn' own' h))
    · obtain h' | ⟨y, signsIn', own', rfl⟩ := h'.of_concat
      · exact .inr (.inr (renews signsIn own h'))
      · exact .inl (signsIn.next_eq.trans signsIn'.next_eq.symm)

end Gate
end LoginGate
