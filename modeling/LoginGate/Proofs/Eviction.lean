/-
# Who loses a session

A logged-in session stays as long as its lease lasts, whatever visitors do who neither name its id
nor sign in.  A sign-in lets go of one other session at most, and of that one only because the pool
is full.

| event | lets go of a live lease, that of its own session aside |
| --- | --- |
| looking for a session | never |
| a challenge | of pending sessions alone |
| a sign-in | the one used least recently, where the pool of logins is full |

A full pool may hold leases that have expired, as only those at the front are dropped.  Where the
clock is never set back no lease ends before one that was set earlier, so that there are none behind
a live one, and all leases of a full pool are live.
-/

import LoginGate.Proofs.Clock
import LoginGate.Proofs.Custody

namespace LoginGate

/-! ## Leases in order -/

/-- The leases of a pool are in the order of their ends, and those that are set at these times, one
after the other, come after them. -/
structure Pool.InOrder (p : Pool) (ts : List Instant) : Prop where
  sorted : p.leases.Pairwise fun a b => a.expires.EndsBy b.expires
  ahead : ∀ l ∈ p.leases, ∀ t ∈ ts, ∀ e, t.add p.ttl = .ok e → l.expires.EndsBy e
  onward : Seconds.Onward p.ttl ts

namespace Pool

variable {p q : Pool} {now t : Instant} {id : String} {n : Serial} {l : Lease} {ts : List Instant}

/-- Where the leases are in order, all that are left when the expired ones at the front are dropped
are live. -/
theorem InOrder.live (h : p.InOrder ts) (now : Instant) :
    ∀ l ∈ (p.expire now).leases, l.isLive now = true := by
  have rest := h.sorted.sublist (expire_sublist now p)
  have front := List.head?_dropWhile_not (fun l : Lease => !l.isLive now) p.leases
  have dropped : (p.expire now).leases = p.leases.dropWhile fun l => !l.isLive now := rfl
  rw [← dropped] at front
  cases left : (p.expire now).leases with
  | nil => nofun
  | cons first more =>
    rw [left] at rest front
    have live : first.isLive now = true := by simpa using front
    intro l hl
    obtain rfl | hl := List.mem_cons.1 hl
    · exact live
    · exact (List.pairwise_cons.1 rest).1 l hl now live

/-- Leases in order before some times are so before the later ones of them. -/
theorem InOrder.tail (h : p.InOrder (t :: ts)) : p.InOrder ts :=
  ⟨h.sorted, fun l hl u hu => h.ahead l hl u (List.mem_cons_of_mem t hu),
    (List.pairwise_cons.1 h.onward).2⟩

/-- Setting a lease at the first of the times keeps the order. -/
theorem InOrder.set (h : p.InOrder (now :: ts)) (set : p.set now id n = .ok q) :
    q.InOrder (now :: ts) := by
  obtain ⟨expires, time, -, ⟨-, ttl⟩, leases⟩ := set_eq_ok set
  have kept : ∀ l ∈ (p.expire now).leases.filter fun l =>
      l.id ≠ id ∧ some l.id ≠ (p.evicted now id).map Lease.id, l ∈ p.leases := fun l hl =>
    (expire_sublist now p).subset (List.mem_filter.1 hl).1
  refine ⟨?_, fun l hl t ht e ends => ?_, ttl ▸ h.onward⟩
  · rw [leases, List.pairwise_append]
    refine ⟨h.sorted.sublist (List.filter_sublist.trans (expire_sublist now p)),
      List.pairwise_singleton .., fun l hl k hk => ?_⟩
    obtain rfl := List.mem_singleton.1 hk
    exact h.ahead l (kept l hl) now List.mem_cons_self expires time
  · rw [ttl] at ends
    rw [leases] at hl
    obtain old | new := List.mem_append.1 hl
    · exact h.ahead l (kept l old) t ht e ends
    · obtain rfl := List.mem_singleton.1 new
      obtain rfl | later := List.mem_cons.1 ht
      · obtain rfl := Except.ok.inj (time.symm.trans ends)
        exact fun _ before => before
      · exact (List.pairwise_cons.1 h.onward).1 t later expires e time ends

/-- A use moves no lease. -/
theorem InOrder.use (h : p.InOrder ts) (id : String) : (p.use id).InOrder ts := by
  have expires : ∀ l : Lease,
      (if l.id = id then { l with used := p.uses } else l).expires = l.expires := by
    intro l
    split <;> rfl
  refine ⟨List.pairwise_map.2 (h.sorted.imp fun ends => ?_), fun l hl => ?_, h.onward⟩
  · rw [expires, expires]
    exact ends
  · obtain ⟨k, hk, rfl⟩ := List.mem_map.1 hl
    rw [expires]
    exact h.ahead k hk

/-- Leases stay in order when one goes. -/
theorem InOrder.remove (h : p.InOrder ts) (id : String) : (p.remove id).InOrder ts :=
  ⟨h.sorted.sublist List.filter_sublist, fun l hl => h.ahead l (List.mem_filter.1 hl).1, h.onward⟩

/-- Every operation on a pool at a time leaves its leases in order, before the times to come. -/
theorem inOrder_stable (now : Instant) (ts : List Instant) :
    Stable (fun p => p.InOrder (now :: ts)) now :=
  ⟨fun h set => h.set set, fun id h => h.use id, fun id h => h.remove id⟩

end Pool

/-! ## Ids that find what they found -/

namespace SessionStore

variable {s : SessionStore} {now : Instant} {id j : String} {b : PoolName} {l : Lease} {n : Serial}

/-- The lease that is found by an id other than the one looked for is found after that. -/
theorem holder?_get (tidy : s.Tidy)
    (h : s.holder? now id = some (b, l)) (other : id ≠ j) :
    (s.get now j).2.holder? now id = some (b, l) := by
  obtain ⟨mem, live, rfl, alone⟩ := (holder?_eq_some_iff tidy).1 h
  have after : (s.get now j).2.Tidy :=
    get_of_stable (Pool.tidy_stable now) tidy j
  refine (holder?_eq_some_iff after).2
    ⟨mem_get mem live other, live, rfl, fun pending there => alone pending ?_⟩
  obtain ⟨i, hi, same⟩ := List.mem_map.1 there
  obtain ⟨held, lives⟩ := List.mem_filter.1 hi
  obtain ⟨i', hi', same'⟩ := live_of_continues
    (get_continues s now j .authenticated i held) lives
  exact List.mem_map.2 ⟨i', hi', same'.trans same⟩

/-- The lease that is found by an id other than the renewed one is found after a renewal, unless it
made room. -/
theorem holder?_renew (tidy : s.Tidy) (distinct : s.ids.Distinct)
    (h : s.holder? now id = some (b, l)) (other : id ≠ s.idOf n) :
    (s.renew now n).store.holder? now id = some (b, l) ∨ b = .authenticated ∧
      (s.authenticated.evicted now (s.ids.drawFree (s.liveIds now)).1).map Lease.id = some id := by
  obtain ⟨mem, live, rfl, alone⟩ := (holder?_eq_some_iff tidy).1 h
  have after : (s.renew now n).store.Tidy :=
    renew_of_stable (Pool.tidy_stable now) tidy n
  have taken : l.id ∈ s.liveIds now :=
    mem_liveIds (List.mem_filter.2 ⟨mem, live⟩)
  have drawn : l.id ≠ (s.ids.drawFree (s.liveIds now)).1 := fun same =>
    Supply.drawFree_not_mem distinct (same ▸ taken)
  refine (mem_renew mem live drawn other).imp_left fun stays => ?_
  refine (holder?_eq_some_iff after).2
    ⟨stays, live, rfl, fun pending there => ?_⟩
  obtain ⟨i, hi, same⟩ := List.mem_map.1 there
  obtain ⟨held, lives⟩ := List.mem_filter.1 hi
  obtain old | ⟨-, -, draws⟩ := renew_leases distinct now n .authenticated i held
  · exact alone pending (List.mem_map.2 ⟨i, List.mem_filter.2 ⟨old, lives⟩, same⟩)
  · exact draws.free (same ▸ taken)

end SessionStore

namespace Gate

variable {g : Gate} {w : World} {c : Event} {es : List Event} {x y : SignIn} {l : Lease}
  {id : String} {k : Serial} {ttl : Seconds} {capacity : Int} {ids : Supply} {result : AuthResult}

/-- Where no lease that is set in a run ends before an earlier one, the leases are in order. -/
theorem inOrder_run (h : ∀ b, (w.store.pool b).InOrder (times w.now es)) (b : PoolName) :
    ((g.run w es).store.pool b).InOrder [(g.run w es).now] := by
  induction es generalizing w with
  | nil => exact h b
  | cons c es ih =>
    refine ih fun b => ?_
    have kept := pools_after (g := g) (Pool.inOrder_stable w.now _) h c b
    cases c with
    | call e q channel =>
      rw [now_after_call]
      exact kept
    | tick later => exact kept.tail
    | wall => exact kept
    | add => exact kept
    | revoke => exact kept

/-- Where the clock is never set back, the leases of a store that was just set up will be in
order. -/
theorem inOrder_of_make (made : SessionStore.make ttl capacity ids = .ok w.store)
    (steady : Steady w.now es) (kind : Seconds.OneKind (times w.now es)) (b : PoolName) :
    (w.store.pool b).InOrder (times w.now es) := by
  rw [(SessionStore.pool_of_make made b).1]
  exact ⟨.nil, nofun, Seconds.onward_of_steady ttl steady kind⟩

/-- Where the clock was never set back, a lease that is set while another one is live is live too:
it ends no earlier. -/
theorem isBefore_of_live {b : PoolName} {e : Seconds}
    (made : SessionStore.make ttl capacity ids = .ok w.store)
    (steady : Steady w.now es) (kind : Seconds.OneKind (times w.now es))
    (hl : l ∈ ((g.run w es).store.pool b).leases) (live : l.isLive (g.run w es).now = true)
    (time : (g.run w es).now.add ttl = .ok e) : (g.run w es).now.isBefore e = true := by
  have order := inOrder_run (g := g) (inOrder_of_make made steady kind) b
  have kept : ((g.run w es).store.pool b).ttl = ttl := (pools_run_of_make made es b).2
  exact order.ahead l hl _ List.mem_cons_self e (kept.symm ▸ time) _ live

/-! ## Strangers -/

/-- The events of a run have nothing to do with the session of a lease: no call names its id, nobody
signs in, and the lease, which ends some time after its session was touched last, lasts. -/
structure Strange (g : Gate) (w : World) (es : List Event) (l : Lease) : Prop where
  unnamed : ∀ e q channel, Event.call e q channel ∈ es → q.sessionId ≠ some l.id
  unsigned : ∀ pre c post x, es = pre ++ c :: post → ¬ SignsIn g (g.run w pre) c x
  lasts : ∀ later, Event.tick later ∈ es → l.isLive later = true

/-- What a run has nothing to do with, the rest of it has nothing to do with. -/
theorem Strange.after (h : Strange g w (c :: es) l) : Strange g (g.after w c) es l :=
  ⟨fun e q channel call => h.unnamed e q channel (List.mem_cons_of_mem c call),
    fun pre d post x split => h.unsigned (c :: pre) d post x (by rw [split]; rfl),
    fun later tick => h.lasts later (List.mem_cons_of_mem c tick)⟩

/-- A live lease of a login stays after an event that has nothing to do with it. -/
theorem Strange.mem_after (h : Strange g w (c :: es) l) (hl : l ∈ w.store.authenticated.leases)
    (live : l.isLive w.now = true) :
    l ∈ (g.after w c).store.authenticated.leases ∧ l.isLive (g.after w c).now = true := by
  constructor
  · obtain ⟨s, handles, same⟩ := handlesTo_after g w c
    change l ∈ ((g.after w c).store.pool .authenticated).leases
    have sought : ∀ {e q channel id}, c = .call e q channel → q.sessionId = some id →
        l ∈ ((w.store.get w.now id).2.pool .authenticated).leases := by
      intro e q channel id call named
      refine SessionStore.mem_get hl live fun same => ?_
      exact h.unnamed e q channel (call ▸ List.mem_cons_self) (same ▸ named)
    rw [same.pool]
    cases handles with
    | kept => exact hl
    | sought call named => exact sought call named
    | created =>
      rw [(w.store.create_issuing w.now).pool_of_ne (b := .authenticated) nofun]
      exact hl
    | refused call named refused =>
      rw [SessionStore.pool_renew_of_error refused]
      exact sought call named
    | renewed signsIn => exact absurd signsIn (h.unsigned [] c es _ rfl)
  · cases c with
    | call e q channel =>
      rw [now_after_call]
      exact live
    | tick later => exact h.lasts later List.mem_cons_self
    | wall => exact live
    | add => exact live
    | revoke => exact live

/-- The session of a lease stays as it is in an event that has nothing to do with it. -/
theorem Strange.session?_after (h : Strange g w (c :: es) l) (named : w.store.Named)
    (hl : l ∈ w.store.leases) :
    (g.after w c).store.session? l.serial = w.store.session? l.serial := by
  cases c with
  | call e q channel =>
    refine visit_session?_of_ne (SessionStore.lt_of_named named hl) fun live => ?_
    obtain ⟨id, own, -, found⟩ := World.live?_eq_some.1 live
    have same : some id = some l.id := (named.of_find? found).symm.trans (named l hl)
    exact h.unnamed e q channel List.mem_cons_self (own.trans same)
  | tick => rfl
  | wall => rfl
  | add => rfl
  | revoke => rfl

/-- **A login stays in its session** along a run that has nothing to do with it. -/
theorem Strange.stays (h : Strange g w es l) (named : w.store.Named)
    (hl : l ∈ w.store.authenticated.leases) (live : l.isLive w.now = true) :
    l ∈ (g.run w es).store.authenticated.leases ∧ l.isLive (g.run w es).now = true ∧
      (g.run w es).store.session? l.serial = w.store.session? l.serial := by
  induction es generalizing w with
  | nil => exact ⟨hl, live, rfl⟩
  | cons c es ih =>
    obtain ⟨stays, lives⟩ := h.mem_after hl live
    obtain ⟨mem, later, same⟩ := ih h.after (named_after named c) stays lives
    exact ⟨mem, later, same.trans (h.session?_after named (List.mem_append_left _ hl))⟩

/-! ## Sign-ins -/

/-- A session, not the one that a sign-in renews, is found under its id before the sign-in and not
after it. -/
structure Loses (g : Gate) (w : World) (c : Event) (x : SignIn) (id : String) (k : Serial) :
    Prop where
  other : k ≠ x.session
  found : w.store.find? w.now id = some k
  lost : (g.after w c).store.find? (g.after w c).now id ≠ some k

/-- The leases in the pool of logins when a callback issues its session: the session that it names
was looked for, and what expired at the front is dropped. -/
def held (w : World) (x : SignIn) : List Lease :=
  ((w.store.get w.now x.oldId).2.authenticated.expire w.now).leases

/-- The lease that goes when a callback issues its session. -/
def leaver? (w : World) (x : SignIn) : Option Lease :=
  let s := (w.store.get w.now x.oldId).2
  s.authenticated.evicted w.now (s.ids.drawFree (s.liveIds w.now)).1

/-- The lease that makes room for the session of a sign-in: the pool of logins is full, and none of
its leases was used less recently. -/
structure MakesRoom (w : World) (x : SignIn) (capacity : Int) (l : Lease) : Prop where
  mem : l ∈ held w x
  stalest : ∀ j ∈ held w x, l.used ≤ j.used
  full : ((held w x).length : Int) = capacity

/-- What else a sign-in does is the same for every way to describe it. -/
theorem SignsIn.eq_old (h : SignsIn g w c x) (h' : SignsIn g w c y) :
    y.oldId = x.oldId ∧ y.session = x.session := by
  obtain ⟨_, q, _, call, here⟩ := h.call
  obtain ⟨_, q', _, call', here'⟩ := h'.call
  cases call.symm.trans call'
  have id : y.oldId = x.oldId := Option.some.inj (here'.named.symm.trans here.named)
  have found := here'.found
  rw [id] at found
  exact ⟨id, Option.some.inj (Except.ok.inj (found.symm.trans here.found))⟩

/-- The pools after a sign-in are as they were, or as after looking for the session, or as after its
renewal. -/
theorem SignsIn.pools (h : SignsIn g w c x) :
    (∀ b, (g.after w c).store.pool b = w.store.pool b) ∨
      (∀ b, (g.after w c).store.pool b = (w.store.get w.now x.oldId).2.pool b) ∨
      ∀ b, (g.after w c).store.pool b =
        ((w.store.get w.now x.oldId).2.renew w.now x.session).store.pool b := by
  obtain ⟨_, q, _, call, here⟩ := h.call
  obtain ⟨s, handles, same⟩ := handlesTo_after g w c
  cases handles with
  | kept => exact .inl same.pool
  | sought call' named =>
    cases call.symm.trans call'
    obtain rfl := Option.some.inj (here.named.symm.trans named)
    exact .inr (.inl same.pool)
  | created call' other =>
    cases call.symm.trans call'
    exact absurd (here.callback.symm.trans other) nofun
  | refused call' named refused =>
    cases call.symm.trans call'
    obtain rfl := Option.some.inj (here.named.symm.trans named)
    have pools := SessionStore.pool_renew_of_error refused
    exact .inr (.inl fun b => (same.pool b).trans (pools b))
  | @renewed y signsIn =>
    obtain ⟨old, own⟩ := h.eq_old signsIn
    rw [old, own] at same
    exact .inr (.inr same.pool)

/-- The session of a sign-in stands under the id that the callback names. -/
theorem SignsIn.idOf (h : SignsIn g w c x) (named : w.store.Named) :
    (w.store.get w.now x.oldId).2.idOf x.session = x.oldId := by
  obtain ⟨_, q, _, -, here⟩ := h.call
  have evolves := SessionStore.get_evolves w.store w.now x.oldId
  refine SessionStore.idOf_of_issued (SessionStore.issued_mono evolves.ids ?_)
  exact named.of_find? (SessionStore.find?_of_get here.found)

/-- **A session that is lost in a sign-in** is that of the lease which made room for the new one. -/
theorem Loses.leaver (orderly : w.Orderly ttl) (tidy : w.store.Tidy) (signsIn : SignsIn g w c x)
    (h : Loses g w c x id k) : ∃ l, leaver? w x = some l ∧ l.id = id ∧ l.serial = k := by
  obtain ⟨_, q, _, call, here⟩ := signsIn.call
  obtain ⟨⟨b, l⟩, holder, serial⟩ := Option.map_eq_some_iff.1 h.found
  have other : id ≠ x.oldId := by
    rintro rfl
    have own := SessionStore.find?_of_get here.found
    exact h.other (Option.some.inj (h.found.symm.trans own))
  have sought := SessionStore.holder?_get tidy holder other
  -- Were the lease still found, so were the session.
  have gone : ∀ {s : SessionStore}, (∀ b, (g.after w c).store.pool b = s.pool b) →
      s.holder? w.now id ≠ some (b, l) := by
    intro s same found
    refine h.lost ?_
    rw [call, now_after_call, ← call, SessionStore.find?, SessionStore.holder?_congr same, found,
      ← serial]
    rfl
  obtain same | same | same := signsIn.pools
  · exact absurd holder (gone same)
  · exact absurd sought (gone same)
  · have evolves := SessionStore.get_evolves w.store w.now x.oldId
    have kept : (w.store.get w.now x.oldId).2.Tidy :=
      SessionStore.get_of_stable (Pool.tidy_stable w.now) tidy x.oldId
    obtain stays | ⟨rfl, evicted⟩ :=
      SessionStore.holder?_renew kept (evolves.distinct orderly.distinct) sought
        (signsIn.idOf orderly.named ▸ other)
    · exact absurd stays (gone same)
    · obtain ⟨j, leaver, rfl⟩ := Option.map_eq_some_iff.1 evicted
      obtain ⟨mem, live, hid, -⟩ := (SessionStore.holder?_eq_some_iff kept).1 sought
      have inside := (Pool.expire_sublist w.now _).subset (Pool.evicted_eq_some leaver).1
      obtain rfl := List.inj_on_of_nodup_map (kept .authenticated).nodup inside mem hid.symm
      exact ⟨j, leaver, rfl, serial⟩

/-- The lease that goes makes room in a full pool. -/
theorem makesRoom_of_leaver (tidy : w.store.Tidy)
    (full : (w.store.authenticated.capacity : Int) = capacity) (h : leaver? w x = some l) :
    MakesRoom w x capacity l := by
  have kept : (w.store.get w.now x.oldId).2.Tidy :=
    SessionStore.get_of_stable (Pool.tidy_stable w.now) tidy x.oldId
  have space := ((SessionStore.get_evolves w.store w.now x.oldId).pools .authenticated).1
  obtain ⟨mem, stalest, most⟩ := Pool.evicted_eq_some h
  have room := ((kept .authenticated).expire w.now).room
  refine ⟨mem, stalest, ?_⟩
  rw [← full]
  exact congrArg Int.ofNat ((room.antisymm most).trans space)

/-- **Strangers log nobody out.**  Take any run from an empty store.  A login that is live after it
stays in its session, which stays as it is, along every further run that has nothing to do with the
session.  And a sign-in, which renews its own session, loses one other session at most: that of the
lease used least recently in the full pool of logins.  All leases of the pool are live then, if the
clock was never set back. -/
theorem kept_from_strangers (made : SessionStore.make ttl capacity ids = .ok w.store)
    (distinct : ids.Distinct) (pre : List Event) :
    (∀ es id b l result, (g.run w pre).store.holder? (g.run w pre).now id = some (b, l) →
        (g.run w pre).Holds l.serial result → Strange g (g.run w pre) es l →
        (g.run w (pre ++ es)).store.holder? (g.run w (pre ++ es)).now id = some (b, l) ∧
          (g.run w (pre ++ es)).store.session? l.serial =
            (g.run w pre).store.session? l.serial) ∧
      ∀ c x, SignsIn g (g.run w pre) c x →
        (∀ id k id' k', Loses g (g.run w pre) c x id k → Loses g (g.run w pre) c x id' k' →
          k = k') ∧
        ∀ id k, Loses g (g.run w pre) c x id k → ∃ l, l.id = id ∧ l.serial = k ∧
          MakesRoom (g.run w pre) x capacity l ∧
          (Steady w.now pre → Seconds.OneKind (times w.now pre) →
            ∀ j ∈ held (g.run w pre) x, j.isLive (g.run w pre).now = true) := by
  have pool := SessionStore.pool_of_make made
  have orderly := orderly_run (g := g) (orderly_of_make made distinct) pre
  have tidy : (g.run w pre).store.Tidy := tidy_run (SessionStore.tidy_of_make made) pre
  refine ⟨fun es id b l result found login strange => ?_, fun c x signsIn => ⟨?_, ?_⟩⟩
  · obtain ⟨mem, live, rfl, -⟩ := (SessionStore.holder?_eq_some_iff tidy).1 found
    -- A login is in no pending session.
    obtain rfl : b = .authenticated := by
      obtain ⟨s, hs, held⟩ := login
      cases b with
      | authenticated => rfl
      | pending =>
        have anonymous := anonymous_of_make made distinct pre l mem s hs
        exact absurd (anonymous.authenticated.symm.trans held) nofun
    obtain ⟨stays, lives, same⟩ := strange.stays orderly.named mem live
    rw [run_append]
    refine ⟨(SessionStore.holder?_eq_some_iff ?_).2 ⟨stays, lives, rfl, nofun⟩, same⟩
    exact tidy_run tidy es
  · intro id k id' k' first second
    obtain ⟨l, leaver, -, rfl⟩ := first.leaver orderly tidy signsIn
    obtain ⟨l', leaver', -, rfl⟩ := second.leaver orderly tidy signsIn
    rw [Option.some.inj (leaver.symm.trans leaver')]
  · intro id k loses
    obtain ⟨l, leaver, hid, serial⟩ := loses.leaver orderly tidy signsIn
    have space : (g.run w pre).store.authenticated.capacity = capacity.toNat :=
      (pools_run (g := g) w pre .authenticated).1.trans
        (congrArg Pool.capacity (pool .authenticated).1)
    have full : ((g.run w pre).store.authenticated.capacity : Int) = capacity := by
      rw [space]
      exact Int.toNat_of_nonneg (pool .authenticated).2.1
    refine ⟨l, hid, serial, makesRoom_of_leaver tidy full leaver, fun steady kind => ?_⟩
    · have start : ∀ b, (w.store.pool b).InOrder (times w.now pre) := by
        intro b
        rw [(pool b).1]
        exact ⟨.nil, nofun, Seconds.onward_of_steady ttl steady kind⟩
      have order := SessionStore.get_of_stable (Pool.inOrder_stable _ _)
        (inOrder_run (g := g) start) x.oldId .authenticated
      exact order.live _

/-- A small world with room for as many sessions. -/
def narrowWorld (capacity : Nat) : World :=
  { smallWorld none with
    store :=
      { pending := { capacity, ttl := .whole 60 }
        authenticated := { capacity, ttl := .whole 60 }
        ids := { given := ["first", "second"] } } }

/-- The callback in a session that has a token. -/
def callbackIn (id token : String) : Event :=
  .call (.validate true) (smallRequest "/j_security_check" ("code=abc&state=" ++ token) (some id))
    .fresh

/-- A visitor without a session. -/
def visitor : Event :=
  .call (.validate true) (smallRequest "/page" "" none) .fresh

/-- Where there is room for one login, `alice` stays in her session while visitors come, and loses
it when somebody else signs in. -/
theorem kept_from_strangers_small :
    let g := smallGate true
    let w := narrowWorld 1
    let ids : Supply := { given := ["first", "second"] }
    let pre := smallLogin ++ [visitor]
    let es := [.tick (.whole 5), visitor]
    let c := callbackIn "1" "1"
    let x : SignIn :=
      { session := 2, next := 3, oldId := "1", newId := "2", code := "abc", token := "1"
        result := smallResult }
    let l : Lease := { id := "second", serial := 1, expires := .whole 60, used := 0 }
    SessionStore.make (.whole 60) 1 ids = .ok w.store ∧ ids.Distinct ∧
      (g.run w pre).store.holder? (g.run w pre).now "second" = some (.authenticated, l) ∧
      (g.run w pre).Holds 1 smallResult ∧ Strange g (g.run w pre) es l ∧
      SignsIn g (g.run w pre) c x ∧ Loses g (g.run w pre) c x "second" 1 ∧
      Steady w.now pre ∧ Seconds.OneKind (times w.now pre) ∧
      (g.run w (pre ++ es)).store.holder? (g.run w (pre ++ es)).now "second" =
        some (.authenticated, l) ∧
      (g.run w (pre ++ es)).store.session? 1 = (g.run w pre).store.session? 1 ∧
      MakesRoom (g.run w pre) x 1 l ∧
      ∀ j ∈ held (g.run w pre) x, j.isLive (g.run w pre).now = true := by
  intro g w ids pre es c x l
  have made : SessionStore.make (.whole 60) 1 ids = .ok w.store := rfl
  have distinct : ids.Distinct := Series.name_injective _ (by decide) le_rfl
  have found : (g.run w pre).store.holder? (g.run w pre).now "second" =
      some (.authenticated, l) := by
    decide +kernel
  have login : (g.run w pre).Holds 1 smallResult :=
    Option.bind_eq_some_iff.1 (by decide +kernel)
  have strange : Strange g (g.run w pre) es l := by
    refine ⟨?_, ?_, ?_⟩
    · intro e q channel call
      obtain ⟨-, rfl, -⟩ : Event.call e q channel = visitor := by simpa [es] using call
      decide
    · rintro a d b y split signsIn
      obtain ⟨mandatory, q, channel, rfl, here⟩ := signsIn.call
      have mem : Event.call (.validate mandatory) q channel ∈ es := by
        rw [split]
        exact List.mem_append_right _ List.mem_cons_self
      obtain ⟨-, rfl, -⟩ : Event.call (.validate mandatory) q channel = visitor := by
        simpa [es] using mem
      exact absurd here.named nofun
    · intro later tick
      obtain rfl : later = .whole 5 := by simpa [es, visitor] using tick
      decide
  have signsIn : SignsIn g (g.run w pre) c x :=
    ⟨⟨true, _, .fresh, rfl,
        ⟨by decide +kernel, rfl, by decide +kernel, by decide +kernel, by decide +kernel,
          by decide +kernel, by decide +kernel, by decide +kernel, by decide +kernel⟩⟩,
      by decide +kernel, Option.bind_eq_some_iff.1 (by decide +kernel)⟩
  have loses : Loses g (g.run w pre) c x "second" 1 :=
    ⟨by decide, by decide +kernel, by decide +kernel⟩
  have steady : Steady w.now pre := trivial
  have kind : Seconds.OneKind (times w.now pre) :=
    .inl fun t ht => ⟨0, List.mem_singleton.1 ht⟩
  obtain ⟨stays, leaves⟩ := kept_from_strangers (g := g) made distinct pre
  obtain ⟨holder, same⟩ := stays es "second" .authenticated l smallResult found login strange
  obtain ⟨j, hid, serial, room, live⟩ := (leaves c x signsIn).2 "second" 1 loses
  obtain rfl : j = l := by
    have only : held (g.run w pre) x = [l] := by decide +kernel
    exact List.mem_singleton.1 (only ▸ room.mem)
  exact ⟨made, distinct, found, login, strange, signsIn, loses, steady, kind, holder, same, room,
    live steady kind⟩

/-- Where the clock is set back, a live login may go though another lease of the pool has expired:
the expired one is not at the front. -/
theorem lost_beside_expired :
    let g := smallGate true
    let w := narrowWorld 2
    ¬ ∀ (es : List Event) (c : Event) (x : SignIn) (id : String) (k : Serial),
      SignsIn g (g.run w es) c x → Loses g (g.run w es) c x id k →
      ((g.run w es).store.authenticated.live (g.run w es).now).length = 2 := by
  intro g w claim
  let es : List Event := .tick (.whole 1000) :: smallLogin ++
    [.tick (.whole 0), visitor, callbackIn "1" "1", .tick (.whole 500), visitor]
  let c := callbackIn "3" "2"
  let x : SignIn :=
    { session := 4, next := 5, oldId := "3", newId := "4", code := "abc", token := "2"
      result := smallResult }
  have signsIn : SignsIn g (g.run w es) c x :=
    ⟨⟨true, _, .fresh, rfl,
        ⟨by decide +kernel, rfl, by decide +kernel, by decide +kernel, by decide +kernel,
          by decide +kernel, by decide +kernel, by decide +kernel, by decide +kernel⟩⟩,
      by decide +kernel, Option.bind_eq_some_iff.1 (by decide +kernel)⟩
  have loses : Loses g (g.run w es) c x "second" 1 :=
    ⟨by decide, by decide +kernel, by decide +kernel⟩
  exact absurd (claim es c x "second" 1 signsIn loses) (by decide +kernel)

end Gate
end LoginGate
