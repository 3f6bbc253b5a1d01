/-
# Browsers that share a gate

Several clients use one gate, each of them naming no session but its own.  What one of them gets of
its calls is what it would get alone, at the same times.

| that holds where | since |
| --- | --- |
| its sessions get the same ids and tokens, its codes the same answers | the supplies are shared |
| no session expires, and none is evicted | the pools are shared |

The shared world is compared with the world of the client alone after each move.  The second mirrors
the first at the serials of the client, and a session of the client has a lease in both or in none.
-/

import LoginGate.Proofs.Beside
import LoginGate.Proofs.Custody

namespace LoginGate

/-! ## Clients -/

/-- What happens to a gate that several clients use: a client makes a call, or a clock is set. -/
inductive Move (κ : Type) where
  | act (client : κ) (e : Errand) (q : Submission) (channel : Channel)
  | tick (now : Instant)
  | wall (time : Instant)
  deriving DecidableEq, Repr

namespace Move

variable {κ : Type}

/-- A move without its client. -/
def event : Move κ → Event
  | .act _ e q channel => .call e q channel
  | .tick now => .tick now
  | .wall time => .wall time

/-- A client is there at a move: it makes the call, or a clock is set. -/
def concerns [DecidableEq κ] (client : κ) : Move κ → Bool
  | .act other _ _ _ => other = client
  | .tick _ | .wall _ => true

/-- A call names no session that was issued to another client, where `known` are the clients of the
sessions. -/
def Own (w : World) (known : List κ) : Move κ → Prop
  | .act client _ q _ => ∀ n < w.store.sessions.length,
      w.store.issuedIds[n]? = q.sessionId → known[n]? = some client
  | .tick _ | .wall _ => True

end Move

/-- What is left of moves where a client is alone. -/
def alone {κ : Type} [DecidableEq κ] (client : κ) (ms : List (Move κ)) : List (Move κ) :=
  ms.filter (Move.concerns client)

/-- What a client gets of a call: how it ends, and the request and the channel after it. -/
structure Sight where
  result : Except Fault (Option Outcome)
  request : Request
  channel : Channel
  deriving DecidableEq

namespace Gate

variable {κ : Type}

/-- The world after moves. -/
def play (g : Gate) (w : World) (ms : List (Move κ)) : World :=
  g.run w (ms.map Move.event)

/-- The clients of all sessions after a move, given those before it: a call issues its sessions to
its client. -/
def enrol (g : Gate) (w : World) (known : List κ) : Move κ → List κ
  | .act client e q channel =>
    known ++ List.replicate ((g.after w (.call e q channel)).store.sessions.length -
      w.store.sessions.length) client
  | .tick _ | .wall _ => known

/-- The clients of all sessions after moves, by serial. -/
def clients (g : Gate) : World → List κ → List (Move κ) → List κ
  | _, known, [] => known
  | w, known, m :: ms => clients g (g.after w m.event) (g.enrol w known m) ms

/-- What a client gets of a move. -/
def sight? [DecidableEq κ] (g : Gate) (client : κ) (w : World) : Move κ → Option Sight
  | .act other e q channel =>
    let (result, v) := g.visit w e q channel
    if other = client then some ⟨result, v.request, v.channel⟩ else none
  | .tick _ | .wall _ => none

/-- What a client gets of its calls among moves, one after the other. -/
def sights [DecidableEq κ] (g : Gate) (client : κ) : World → List (Move κ) → List Sight
  | _, [] => []
  | w, m :: ms => (g.sight? client w m).toList ++ sights g client (g.after w m.event) ms

/-- No call among moves names a session of another client. -/
def Honest (g : Gate) : World → List κ → List (Move κ) → Prop
  | _, _, [] => True
  | w, known, m :: ms => m.Own w known ∧ Honest g (g.after w m.event) (g.enrol w known m) ms

/-- An event is a callback that signs in, and renews the session of a serial. -/
def Renews (g : Gate) (w : World) (c : Event) (n : Serial) : Prop :=
  ∃ x, SignsIn g w c x ∧ x.session = n

/-- No session expires in an event, and none is evicted: every lease after it is live, and a session
that had a lease before has one still, unless it was renewed. -/
structure Spares (g : Gate) (w : World) (c : Event) : Prop where
  live : ∀ l ∈ (g.after w c).store.leases, l.isLive (g.after w c).now = true
  stays : ∀ l ∈ w.store.leases, (g.after w c).store.Leased l.serial ∨ Renews g w c l.serial

/-- No session expires in moves, and none is evicted. -/
def Lossless (g : Gate) : World → List (Move κ) → Prop
  | _, [] => True
  | w, m :: ms => Spares g w m.event ∧ Lossless g (g.after w m.event) ms

/-- Each call of a client among moves is dealt the same in a world that it shares and in one where
it is alone. -/
def Dealt [DecidableEq κ] (g : Gate) (client : κ) : World → World → List (Move κ) → Prop
  | _, _, [] => True
  | w, s, .act other e q channel :: ms =>
    if other = client then
      Deals g { world := w, request := q, channel } (g.visit w e q channel).2
          { world := s, request := q, channel } (g.visit s e q channel).2 ∧
        Dealt g client (g.after w (.call e q channel)) (g.after s (.call e q channel)) ms
    else Dealt g client (g.after w (.call e q channel)) s ms
  | w, s, .tick now :: ms => Dealt g client (g.after w (.tick now)) (g.after s (.tick now)) ms
  | w, s, .wall time :: ms =>
    Dealt g client (g.after w (.wall time)) (g.after s (.wall time)) ms

end Gate

/-! ## Leases that stay -/

/-- A store as moves leave it in which no session expires. -/
structure World.Settled (w : World) (ttl : Seconds) : Prop extends w.Orderly ttl where
  tidy : w.store.Tidy
  unshared : w.store.Unshared w.now
  live : ∀ l ∈ w.store.leases, l.isLive w.now = true

namespace World.Settled

variable {w : World} {ttl : Seconds} {id : String} {n : Serial}

/-- A settled store is one that calls go on in. -/
theorem ready (h : w.Settled ttl) : w.store.Ready :=
  ⟨h.named, h.distinct, fun a b => (h.ttl a).trans (h.ttl b).symm⟩

/-- A session that an id finds was issued under it. -/
theorem lt_of_find? (h : w.Settled ttl) (found : w.store.find? w.now id = some n) :
    n < w.store.sessions.length ∧ w.store.issuedIds[n]? = some id := by
  have issued := h.named.of_find? found
  rw [← SessionStore.length_issuedIds]
  exact ⟨(List.getElem?_eq_some_iff.1 issued).1, issued⟩

/-- **An id finds the session that was issued under it** and has a lease. -/
theorem find?_iff (h : w.Settled ttl) : w.store.find? w.now id = some n ↔
    w.store.Leased n ∧ w.store.issuedIds[n]? = some id := by
  constructor
  · intro found
    obtain ⟨l, hl, -, rfl, rfl⟩ := SessionStore.exists_of_find? found
    exact ⟨⟨l, hl, rfl⟩, h.named l hl⟩
  · rintro ⟨⟨l, hl, rfl⟩, issued⟩
    obtain rfl : l.id = id := Option.some.inj ((h.named l hl).symm.trans issued)
    obtain ⟨name, mem⟩ := SessionStore.exists_pool_of_mem_leases hl
    have live := h.live l hl
    have holder : w.store.holder? w.now l.id = some (name, l) := by
      refine (SessionStore.holder?_eq_some_iff h.tidy).2 ⟨mem, live, rfl, ?_⟩
      rintro rfl there
      obtain ⟨k, hk, same⟩ := List.mem_map.1 there
      exact h.unshared l (List.mem_filter.2 ⟨mem, live⟩) k hk same.symm
    rw [SessionStore.find?, holder]
    rfl

end World.Settled

namespace Gate

variable {κ : Type} {g : Gate} {w s : World} {c : Event} {e : Errand} {q : Submission}
  {channel : Channel} {n k : Serial} {ttl : Seconds} {id : String}

/-- A store that was just set up is settled, without a lease. -/
theorem settled_of_make {capacity : Int} {ids : Supply}
    (made : SessionStore.make ttl capacity ids = .ok w.store) (distinct : ids.Distinct) :
    w.Settled ttl := by
  have pool := SessionStore.pool_of_make made
  have empty : ∀ b, (w.store.pool b).leases = [] := fun b => by rw [(pool b).1]
  refine ⟨orderly_of_make made distinct, SessionStore.tidy_of_make made, fun l hl => ?_,
    fun l hl => ?_⟩
  · exact absurd (empty .pending ▸ (List.mem_filter.1 hl).1) List.not_mem_nil
  · obtain ⟨b, mem⟩ := SessionStore.exists_pool_of_mem_leases hl
    exact absurd (empty b ▸ mem) List.not_mem_nil

/-- An event in which no session is lost leaves a settled store. -/
theorem settled_after (h : w.Settled ttl) (spares : Spares g w c) : (g.after w c).Settled ttl := by
  refine ⟨orderly_after h.toOrderly c, tidy_run h.tidy [c], ?_, spares.live⟩
  have untimed : Steady w.now [c] → (g.after w c).store.Unshared (g.after w c).now :=
    fun steady => unshared_after h.distinct steady h.unshared
  cases c with
  | call => exact untimed trivial
  | tick now =>
    -- The clock may be set back, but what is live after it was live before.
    intro l hl k hk
    have pending := (List.mem_filter.1 hl).1
    have authenticated := (List.mem_filter.1 hk).1
    exact h.unshared l
      (List.mem_filter.2 ⟨pending, h.live l (List.mem_append_right _ pending)⟩) k
      (List.mem_filter.2 ⟨authenticated, h.live k (List.mem_append_left _ authenticated)⟩)
  | wall => exact untimed trivial
  | add => exact untimed trivial
  | revoke => exact untimed trivial

/-- **When a call renews a session:** its request names it, and the session that the call issues
holds a login. -/
theorem renews_iff : Renews g w (.call e q channel) n ↔
    (∃ id, q.sessionId = some id ∧ w.store.find? w.now id = some n) ∧
      ∃ r, (g.after w (.call e q channel)).Holds w.store.sessions.length r := by
  constructor
  · rintro ⟨x, signsIn, rfl⟩
    obtain ⟨mandatory, _, _, call, here⟩ := signsIn.call
    obtain ⟨rfl, rfl, rfl⟩ := Event.call.inj call
    exact ⟨⟨x.oldId, here.named, SessionStore.find?_of_get here.found⟩, x.result,
      here.next_eq ▸ signsIn.holds⟩
  · rintro ⟨⟨id, named, found⟩, r, a, ha, held⟩
    obtain ⟨b, hb, -⟩ | ⟨x, here, ⟨mandatory, rfl⟩, next, -, rfl, new⟩ :=
      (visit_leaves ha).login held
    · exact absurd (SessionStore.lt_of_session? hb) (lt_irrefl _)
    · refine ⟨x, signsIn_of_leaves here (next ▸ ha) held new, ?_⟩
      obtain rfl := Option.some.inj (here.named.symm.trans named)
      exact Option.some.inj ((SessionStore.find?_of_get here.found).symm.trans found)

/-- **Which sessions have a lease after an event** that spares them: those that had one and were not
renewed. -/
theorem Spares.leased_iff (h : Spares g w c) (orderly : w.Orderly ttl)
    (old : n < w.store.sessions.length) :
    (g.after w c).store.Leased n ↔ w.store.Leased n ∧ ¬ Renews g w c n := by
  constructor
  · rintro ⟨l, hl, rfl⟩
    refine ⟨?_, ?_⟩
    · obtain ⟨k, hk, -, serial, -⟩ | ⟨new, -⟩ := (store_after w c).leases l hl
      · exact ⟨k, hk, serial⟩
      · exact absurd old new.not_gt
    · rintro ⟨x, signsIn, serial⟩
      obtain ⟨_, _, _, rfl, _⟩ := signsIn.call
      have dormant := signsIn.dormant orderly.named orderly.apart orderly.distinct
      have live := h.live l hl
      rw [now_after_call, (dormant l hl serial.symm).1] at live
      cases live
  · rintro ⟨⟨l, hl, rfl⟩, kept⟩
    exact (h.stays l hl).resolve_right kept

/-! ## The world of one client -/

section Enrol

variable {client : κ} {known : List κ}

/-- After a call every session has a client. -/
theorem length_enrol (length : w.store.sessions.length = known.length) :
    (g.after w (.call e q channel)).store.sessions.length =
      (g.enrol w known (.act client e q channel)).length := by
  have longer := after_length (g := g) w (.call e q channel)
  rw [enrol, List.length_append, List.length_replicate, ← length]
  exact (Nat.add_sub_cancel' longer).symm

/-- The sessions that a call issued are those of its client. -/
theorem enrol_eq (length : w.store.sessions.length = known.length) {more : Nat}
    (after : (g.after w (.call e q channel)).store.sessions.length = known.length + more) :
    g.enrol w known (.act client e q channel) = known ++ List.replicate more client := by
  rw [enrol, after, length, Nat.add_sub_cancel_left]

/-- The sessions of a client are the serials at which it stands. -/
theorem mem_idxsOf [DecidableEq κ] : n ∈ known.idxsOf client ↔ known[n]? = some client := by
  rw [List.mem_idxsOf_iff_exists_getElem_pos, List.getElem?_eq_some_iff]
  simp

end Enrol

/-- The second world is what the first is to a client: it mirrors the first at the serials of the
client, and a session of the client has a lease in both or in none. -/
structure Reflects [DecidableEq κ] (client : κ) (known : List κ) (ttl : Seconds) (w s : World) :
    Prop where
  mirrors : World.Mirrors (known.idxsOf client) known.length w s
  leased : ∀ k n, (known.idxsOf client)[k]? = some n → (s.store.Leased k ↔ w.store.Leased n)
  shared : w.Settled ttl
  alone : s.Settled ttl

namespace Reflects

variable [DecidableEq κ] {client other : κ} {known : List κ}

/-- An id finds a session of the client in the one world where it finds the session at its place in
the other. -/
theorem find?_iff (h : Reflects client known ttl w s) (place : (known.idxsOf client)[k]? = some n) :
    s.store.find? s.now id = some k ↔ w.store.find? w.now id = some n := by
  rw [h.shared.find?_iff, h.alone.find?_iff, h.leased k n place,
    h.mirrors.store.issuedIds_eq place]

/-- **An id of the client finds the same session,** or none in both worlds. -/
theorem places (h : Reflects client known ttl w s)
    (own : ∀ n < w.store.sessions.length, w.store.issuedIds[n]? = some id →
      known[n]? = some client) :
    Places (known.idxsOf client) (w.store.find? w.now id) (s.store.find? s.now id) := by
  cases found : w.store.find? w.now id with
  | some n =>
    obtain ⟨old, issued⟩ := h.shared.lt_of_find? found
    obtain ⟨k, place⟩ := List.getElem?_of_mem (mem_idxsOf.2 (own n old issued))
    rw [(h.find?_iff place).2 found]
    exact .somebody place
  | none =>
    cases there : s.store.find? s.now id with
    | none => exact .nobody
    | some k =>
      have old := (h.alone.lt_of_find? there).1
      rw [h.mirrors.store.length_eq] at old
      have place := List.getElem?_eq_getElem old
      exact absurd (found.symm.trans ((h.find?_iff place).1 there)) nofun

/-- A call of the client finds the same session in both worlds, or none. -/
theorem live? (h : Reflects client known ttl w s)
    (own : (Move.act client e q channel).Own w known) :
    Places (known.idxsOf client) (w.live? q) (s.live? q) := by
  unfold World.live?
  cases named : q.sessionId with
  | none => exact .nobody
  | some id =>
    rw [Option.filter_some]
    split
    · exact h.places fun n old issued => own n old (issued.trans named.symm)
    · exact .nobody

/-! ## One move -/

/-- Setting the clock of the stores in both worlds. -/
theorem tick (h : Reflects client known ttl w s) {now : Instant}
    (spares : Spares g w (.tick now)) (spares' : Spares g s (.tick now)) :
    Reflects client known ttl (g.after w (.tick now)) (g.after s (.tick now)) :=
  ⟨⟨h.mirrors.users, rfl, h.mirrors.wall, h.mirrors.store⟩, h.leased,
    settled_after h.shared spares, settled_after h.alone spares'⟩

/-- Setting the clock of the systems in both worlds. -/
theorem wall (h : Reflects client known ttl w s) {wall : Instant}
    (spares : Spares g w (.wall wall)) (spares' : Spares g s (.wall wall)) :
    Reflects client known ttl (g.after w (.wall wall)) (g.after s (.wall wall)) :=
  ⟨⟨h.mirrors.users, h.mirrors.now, rfl, h.mirrors.store⟩, h.leased,
    settled_after h.shared spares, settled_after h.alone spares'⟩

/-- The id that a call of another client names finds no session of this one. -/
theorem find?_ne (h : Reflects client known ttl w s) (ne : other ≠ client)
    (own : (Move.act other e q channel).Own w known) (named : q.sessionId = some id)
    (hn : known[n]? = some client) : w.store.find? w.now id ≠ some n := by
  intro found
  obtain ⟨old, issued⟩ := h.shared.lt_of_find? found
  exact ne (Option.some.inj ((own n old (issued.trans named.symm)).symm.trans hn))

/-- **A call of another client** leaves the world of this one as it is. -/
theorem of_other (h : Reflects client known ttl w s) (ne : other ≠ client)
    (own : (Move.act other e q channel).Own w known) (spares : Spares g w (.call e q channel)) :
    Reflects client (g.enrol w known (.act other e q channel)) ttl
      (g.after w (.call e q channel)) s := by
  have evolves := visit_evolves g w e q channel
  have length := h.mirrors.store.length
  have serials : (g.enrol w known (.act other e q channel)).idxsOf client =
      known.idxsOf client := by
    rw [enrol, List.idxsOf_append, List.append_right_eq_self, List.idxsOf_eq_nil_iff]
    intro a ha
    rw [List.eq_of_mem_replicate ha]
    exact beq_false_of_ne ne
  have old : ∀ n ∈ known.idxsOf client, n < w.store.sessions.length := fun n hn => by
    rw [length]
    exact (List.getElem?_eq_some_iff.1 (mem_idxsOf.1 hn)).1
  have lost : ∀ n ∈ known.idxsOf client, w.live? q ≠ some n := fun n hn live => by
    obtain ⟨id, named, -, found⟩ := World.live?_eq_some.1 live
    exact h.find?_ne ne own named (mem_idxsOf.1 hn) found
  refine ⟨?_, ?_, settled_after h.shared spares, h.alone⟩
  · rw [serials]
    refine ⟨h.mirrors.users.trans evolves.users.symm, h.mirrors.now.trans evolves.now.symm,
      h.mirrors.wall.trans evolves.wall.symm, length_enrol length, h.mirrors.store.nodup, ?_,
      fun a b => ?_⟩
    · rw [h.mirrors.store.sessions]
      exact List.map_congr_left fun n hn => (visit_session?_of_ne (old n hn) (lost n hn)).symm
    · rw [(h.mirrors.store.size a b).1, (h.mirrors.store.size a b).2]
      exact ⟨(evolves.store.pools b).1.symm, (evolves.store.pools b).2.symm⟩
  · rw [serials]
    intro k n place
    have hn := List.mem_of_getElem? place
    rw [h.leased k n place, spares.leased_iff h.shared.toOrderly (old n hn), iff_self_and]
    intro _ renews
    obtain ⟨⟨id, named, found⟩, -⟩ := renews_iff.1 renews
    exact h.find?_ne ne own named (mem_idxsOf.1 hn) found

/-- A session of the client that was there before has a lease after a call of it in both worlds or
in none. -/
theorem leased_after (h : Reflects client known ttl w s) (spares : Spares g w (.call e q channel))
    (spares' : Spares g s (.call e q channel))
    (new : (g.after s (.call e q channel)).store.session? s.store.sessions.length =
      (g.after w (.call e q channel)).store.session? w.store.sessions.length)
    (place : (known.idxsOf client)[k]? = some n) :
    (g.after s (.call e q channel)).store.Leased k ↔
      (g.after w (.call e q channel)).store.Leased n := by
  have oldL : n < w.store.sessions.length :=
    h.mirrors.store.length ▸ h.mirrors.store.lt_total place
  have oldR : k < s.store.sessions.length :=
    h.mirrors.store.length_eq ▸ (List.getElem?_eq_some_iff.1 place).1
  rw [spares.leased_iff h.shared.toOrderly oldL, spares'.leased_iff h.alone.toOrderly oldR,
    h.leased k n place, renews_iff, renews_iff]
  simp only [h.find?_iff place, World.Holds, new]

/-- **A call of the client** ends alike in both worlds. -/
theorem of_own (h : Reflects client known ttl w s)
    (own : (Move.act client e q channel).Own w known) (spares : Spares g w (.call e q channel))
    (spares' : Spares g s (.call e q channel))
    (deals : Deals g { world := w, request := q, channel } (g.visit w e q channel).2
      { world := s, request := q, channel } (g.visit s e q channel).2) :
    Reflects client (g.enrol w known (.act client e q channel)) ttl
        (g.after w (.call e q channel)) (g.after s (.call e q channel)) ∧
      g.sight? client s (.act client e q channel) =
        g.sight? client w (.act client e q channel) := by
  have length := h.mirrors.store.length
  have length' := h.mirrors.store.length_eq
  have sights : ∀ {τ : List Serial} {m : Nat},
      Step.Alike τ m (g.visit w e q channel) (g.visit s e q channel) →
      g.sight? client s (.act client e q channel) =
        g.sight? client w (.act client e q channel) := by
    intro τ m alike
    simp only [sight?, alike.result, alike.visit.request, alike.visit.channel]
  have settled := settled_after h.shared spares
  have settled' := settled_after h.alone spares'
  cases visit_beside h.mirrors (h.live? own) h.shared.ready h.alone.ready deals with
  | same alike =>
    have store := alike.visit.world.store
    have after : (g.after w (.call e q channel)).store.sessions.length = known.length + 0 :=
      store.length
    have same : g.enrol w known (.act client e q channel) = known :=
      (enrol_eq length after).trans (List.append_nil _)
    rw [same]
    refine ⟨⟨alike.visit.world, fun k n => h.leased_after spares spares' ?_, settled, settled'⟩,
      sights alike⟩
    have none : ∀ {u : World} {m : Nat}, u.store.sessions.length = m → u.store.session? m = none :=
      fun h => List.getElem?_eq_none h.le
    exact (none (store.length_eq.trans length'.symm)).trans
      (none (store.length.trans length.symm)).symm
  | issued alike leased =>
    have store := alike.visit.world.store
    have more : g.enrol w known (.act client e q channel) = known ++ [client] :=
      enrol_eq length store.length
    have serials : (known ++ [client]).idxsOf client = known.idxsOf client ++ [known.length] := by
      simp
    rw [more]
    refine ⟨⟨?_, fun k n place => ?_, settled, settled'⟩, sights alike⟩
    · rw [serials, List.length_append]
      exact alike.visit.world
    · rw [serials] at place
      by_cases old : k < (known.idxsOf client).length
      · rw [List.getElem?_append_left old] at place
        refine h.leased_after spares spares' ?_ place
        rw [length, length']
        exact store.session?_eq last_place
      · obtain rfl : k = (known.idxsOf client).length := by
          have := (List.getElem?_eq_some_iff.1 place).1
          rw [List.length_append, List.length_singleton] at this
          exact Nat.le_antisymm (Nat.le_of_lt_succ this) (Nat.not_lt.1 old)
        obtain rfl := Option.some.inj (place.symm.trans last_place)
        exact leased.symm

end Reflects

/-! ## Moves -/

variable [DecidableEq κ] {client : κ} {known : List κ} {ms : List (Move κ)}

/-- **What moves leave:** the world of the client alone is still what the shared one is to it, and
it got the same in both. -/
theorem reflects_play (h : Reflects client known ttl w s) (honest : Honest g w known ms)
    (lossless : Lossless g w ms) (lossless' : Lossless g s (alone client ms))
    (dealt : Dealt g client w s ms) :
    Reflects client (g.clients w known ms) ttl (g.play w ms) (g.play s (alone client ms)) ∧
      g.sights client s (alone client ms) = g.sights client w ms := by
  induction ms generalizing w s known with
  | nil => exact ⟨h, rfl⟩
  | cons m ms ih =>
    obtain ⟨own, honest⟩ := honest
    obtain ⟨spares, lossless⟩ := lossless
    cases m with
    | tick now =>
      have stays : alone client (.tick now :: ms) = .tick now :: alone client ms := rfl
      rw [stays] at lossless' ⊢
      obtain ⟨spares', lossless'⟩ := lossless'
      exact ih (h.tick spares spares') honest lossless lossless' dealt
    | wall wall =>
      have stays : alone client (.wall wall :: ms) = .wall wall :: alone client ms := rfl
      rw [stays] at lossless' ⊢
      obtain ⟨spares', lossless'⟩ := lossless'
      exact ih (h.wall spares spares') honest lossless lossless' dealt
    | act other e q channel =>
      by_cases mine : other = client
      · subst mine
        have stays : alone other (.act other e q channel :: ms) =
            .act other e q channel :: alone other ms :=
          List.filter_cons_of_pos (by simp [Move.concerns])
        rw [Dealt, if_pos rfl] at dealt
        rw [stays] at lossless' ⊢
        obtain ⟨spares', lossless'⟩ := lossless'
        obtain ⟨after, sight⟩ := h.of_own own spares spares' dealt.1
        obtain ⟨reflects, sights⟩ := ih after honest lossless lossless' dealt.2
        exact ⟨reflects, congrArg₂ (fun a l => a.toList ++ l) sight sights⟩
      · have goes : alone client (.act other e q channel :: ms) = alone client ms :=
          List.filter_cons_of_neg (by simp [Move.concerns, mine])
        rw [Dealt, if_neg mine] at dealt
        rw [goes] at lossless' ⊢
        obtain ⟨reflects, same⟩ := ih (h.of_other mine own spares) honest lossless lossless' dealt
        refine ⟨reflects, ?_⟩
        rw [same, sights, sight?]
        dsimp only
        rw [if_neg mine]
        rfl

/-- In worlds that were just set up alike no client has a session. -/
theorem reflects_of_make {capacity : Int} {ids ids' : Supply}
    (made : SessionStore.make ttl capacity ids = .ok w.store) (distinct : ids.Distinct)
    (made' : SessionStore.make ttl capacity ids' = .ok s.store) (distinct' : ids'.Distinct)
    (users : s.users = w.users) (now : s.now = w.now) (wall : s.wall = w.wall) :
    Reflects client [] ttl w s := by
  have empty : ∀ {u : World} {ids : Supply}, SessionStore.make ttl capacity ids = .ok u.store →
      u.store.sessions = [] := fun made => World.Fresh.store_eq ⟨_, _, _, made⟩ |>.1
  refine ⟨⟨users, now, wall, congrArg List.length (empty made), List.nodup_nil, ?_, fun a b => ?_⟩,
    nofun, settled_of_make made distinct, settled_of_make made' distinct'⟩
  · rw [empty made']
    rfl
  · rw [(SessionStore.pool_of_make made b).1, (SessionStore.pool_of_make made' a).1]
    exact ⟨rfl, rfl⟩

/-- **Clients do not interfere.**  Each of them names no session of another, its sessions are given
the same ids, its challenges the same tokens and its codes the same answers as when it is alone, and
no session expires or is evicted.  Then it gets the same outcomes, redirects and restored requests
of its calls as when it is alone, its sessions hold the same in the end, and an id of it finds the
same session. -/
theorem sights_alone {capacity : Int} {ids ids' : Supply}
    (made : SessionStore.make ttl capacity ids = .ok w.store) (distinct : ids.Distinct)
    (made' : SessionStore.make ttl capacity ids' = .ok s.store) (distinct' : ids'.Distinct)
    (users : s.users = w.users) (now : s.now = w.now) (wall : s.wall = w.wall)
    (honest : Honest g w [] ms) (lossless : Lossless g w ms)
    (lossless' : Lossless g s (alone client ms))
    (dealt : Dealt g client w s ms) :
    g.sights client w ms = g.sights client s (alone client ms) ∧
      ((g.clients w [] ms).idxsOf client).map (g.play w ms).store.session? =
        (g.play s (alone client ms)).store.sessions.map some ∧
      ∀ id : String, (∀ n : Serial, (g.play w ms).store.issuedIds[n]? = some id →
          (g.clients w [] ms)[n]? = some client) →
        ((g.play w ms).store.find? (g.play w ms).now id).bind (g.play w ms).store.session? =
          ((g.play s (alone client ms)).store.find? (g.play s (alone client ms)).now id).bind
            (g.play s (alone client ms)).store.session? := by
  have start : Reflects client [] ttl w s :=
    reflects_of_make made distinct made' distinct' users now wall
  obtain ⟨reflects, same⟩ := reflects_play start honest lossless lossless' dealt
  refine ⟨same.symm, reflects.mirrors.store.sessions.symm, fun id own => ?_⟩
  have places := reflects.places fun n _ => own n
  generalize (g.play w ms).store.find? (g.play w ms).now id = a at places ⊢
  generalize (g.play s (alone client ms)).store.find? (g.play s (alone client ms)).now id = b
    at places ⊢
  cases places with
  | nobody => rfl
  | somebody place => exact (reflects.mirrors.store.session?_eq place).symm

/-! ### Two clients -/

/-- A small world with ids and tokens to give. -/
def suppliedWorld (given tokens : List String) : World :=
  { smallWorld none with
    store := { (smallWorld none).store with ids := { given } }
    tokens := { given := tokens } }

/-- Two visitors are challenged; the one logs in and comes back, the other logs out. -/
def interleaved : List (Move Nat) :=
  [.act 0 (.validate true) (smallRequest "/page" "" none) .fresh,
    .act 1 (.validate true) (smallRequest "/other" "" none) .fresh,
    .tick (.whole 10),
    .act 0 (.validate true)
      (smallRequest "/j_security_check" "code=abc&state=token" (some "first")) .fresh,
    .act 1 .logout (smallRequest "/other" "" (some "second")) .fresh,
    .act 0 (.validate true) (smallRequest "/page" "" (some "third")) .fresh]

/-- The visitor who logs in is sent to the page and gets it back with the same login as alone, and
what its two sessions hold is the same. -/
theorem sights_alone_interleaved :
    let g := smallGate true
    let w := suppliedWorld ["first", "second", "third"] ["token", "other"]
    let s := suppliedWorld ["first", "third"] ["token"]
    let ids : Supply := { given := ["first", "second", "third"] }
    let ids' : Supply := { given := ["first", "third"] }
    SessionStore.make (.whole 60) 4 ids = .ok w.store ∧ ids.Distinct ∧
      SessionStore.make (.whole 60) 4 ids' = .ok s.store ∧ ids'.Distinct ∧
      s.users = w.users ∧ s.now = w.now ∧ s.wall = w.wall ∧ Honest g w [] interleaved ∧
      Lossless g w interleaved ∧
      Lossless g s (alone 0 interleaved) ∧ Dealt g 0 w s interleaved ∧
      g.sights 0 w interleaved = g.sights 0 s (alone 0 interleaved) ∧
      [(0 : Serial), 2].map (g.play w interleaved).store.session? =
        (g.play s (alone 0 interleaved)).store.sessions.map some := by
  intro g w s ids ids'
  have made : SessionStore.make (.whole 60) 4 ids = .ok w.store := rfl
  have distinct : ids.Distinct := Series.name_injective _ (by decide) le_rfl
  have made' : SessionStore.make (.whole 60) 4 ids' = .ok s.store := rfl
  have distinct' : ids'.Distinct := Series.name_injective _ (by decide) le_rfl
  let c : Event := .call (.validate true)
    (smallRequest "/j_security_check" "code=abc&state=token" (some "first")) .fresh
  have renewed : Renews g (g.play w (interleaved.take 3)) c 0 :=
    renews_iff.2 ⟨⟨"first", rfl, by decide +kernel⟩, smallResult,
      Option.bind_eq_some_iff.1 (by decide +kernel)⟩
  have renewed' : Renews g (g.play s ((alone 0 interleaved).take 2)) c 0 :=
    renews_iff.2 ⟨⟨"first", rfl, by decide +kernel⟩, smallResult,
      Option.bind_eq_some_iff.1 (by decide +kernel)⟩
  have honest : Honest g w [] interleaved := by
    refine ⟨?_, ?_, trivial, ?_, ?_, ?_, trivial⟩ <;> unfold Move.Own <;> decide +kernel
  have spares : ∀ {w : World} {c : Event}, ((∀ l ∈ (g.after w c).store.leases,
      l.isLive (g.after w c).now = true) ∧
      ∀ l ∈ w.store.leases, (g.after w c).store.Leased l.serial) → Spares g w c :=
    fun h => ⟨h.1, fun l hl => .inl (h.2 l hl)⟩
  have lossless : Lossless g w interleaved := by
    refine ⟨spares (by decide +kernel), spares (by decide +kernel), spares (by decide +kernel),
      ⟨by decide +kernel, fun l hl => ?_⟩, spares (by decide +kernel), spares (by decide +kernel),
      trivial⟩
    have kept : ∀ l ∈ (g.play w (interleaved.take 3)).store.leases,
        (g.play w (interleaved.take 4)).store.Leased l.serial ∨ l.serial = 0 := by decide +kernel
    obtain stays | first := kept l hl
    · exact .inl stays
    · rw [first]
      exact .inr renewed
  have lossless' : Lossless g s (alone 0 interleaved) := by
    refine ⟨spares (by decide +kernel), spares (by decide +kernel),
      ⟨by decide +kernel, fun l hl => ?_⟩, spares (by decide +kernel), trivial⟩
    have kept : ∀ l ∈ (g.play s ((alone 0 interleaved).take 2)).store.leases, l.serial = 0 := by
      decide +kernel
    rw [kept l hl]
    exact .inr renewed'
  have deals : ∀ {w s : World} {e : Errand} {q : Submission} {channel : Channel},
      (g.after s (.call e q channel)).store.issuedIds[s.store.sessions.length]? =
        (g.after w (.call e q channel)).store.issuedIds[w.store.sessions.length]? →
      ((g.after s (.call e q channel)).tokens ≠ s.tokens → s.tokens.draw.1 = w.tokens.draw.1) →
      Deals g { world := w, request := q, channel } (g.visit w e q channel).2
        { world := s, request := q, channel } (g.visit s e q channel).2 := fun ids tokens =>
    ⟨fun id id' left right => Option.some.inj (right.symm.trans (ids.trans left)),
      fun _ => tokens, fun _ _ _ _ => rfl⟩
  have dealt : Dealt g 0 w s interleaved :=
    ⟨deals (by decide +kernel) (by decide +kernel), deals (by decide +kernel) (by decide +kernel),
      deals (by decide +kernel) (by decide +kernel), trivial⟩
  obtain ⟨same, sessions, -⟩ := sights_alone made distinct made' distinct' rfl rfl rfl honest
    lossless lossless' dealt
  have own : (g.clients w [] interleaved).idxsOf 0 = [0, 2] := by decide +kernel
  rw [own] at sessions
  exact ⟨made, distinct, made', distinct', rfl, rfl, rfl, honest, lossless, lossless', dealt, same,
    sessions⟩

end Gate
end LoginGate
