/-
# Where a login may send the browser

The redirect after a login leads to a request that a challenge saved in the lineage of the session,
or to the root of the application.  A challenge saves its request before it sends the browser to the
provider, so the request may be one whose challenge broke off after that, because the channel failed
or the provider has no address.  Nothing that the callback brings but its context path has a part in
the redirect.

| the session holds | the redirect leads to |
| --- | --- |
| a saved request | its address |
| none | the root of the application |
-/

import LoginGate.Proofs.Destination
import LoginGate.Proofs.SingleReplay

namespace LoginGate
namespace Gate

variable {g : Gate} {w : World} {c : Event} {n : Serial} {q r : Submission} {es : List Event}
  {mandatory : Bool} {channel : Channel} {location : Attribute}

/-- An event is a challenge of a request that breaks off after the request was saved. -/
def BreaksOff (g : Gate) (w : World) (c : Event) (q : Submission) : Prop :=
  ∃ mandatory channel fault, c = .call (.validate mandatory) q channel ∧
    (g.visit w (.validate mandatory) q channel).1 = .error fault ∧ fault.isLate = true

/-- A request is saved by its challenge, be it that the challenge breaks off after that. -/
theorem Saves.challenged_or (h : Saves g w c n q) : Challenged g w c n q ∨ BreaksOff g w c q := by
  obtain ⟨mandatory, channel, rfl, reaches⟩ := h.call
  obtain done | ⟨fault, broken, late⟩ := reaches.result
  · exact .inl ⟨⟨mandatory, channel, rfl, done⟩, reaches.session⟩
  · exact .inr ⟨mandatory, channel, fault, rfl, broken, late⟩

/-- A callback that logs in sends the browser to the target of its session. -/
theorem Arrives.eq_target (h : Arrives g w (.call (.validate mandatory) r channel) n location) :
    location = SavedRequest.target r (w.session n) := by
  obtain ⟨_, _, _, result, status, same, own, done, sent⟩ := h.call
  obtain ⟨rfl, rfl, rfl⟩ : _ ∧ _ ∧ _ := by simpa using same
  obtain ⟨m, live, target⟩ := target_of_authenticated done sent
  obtain rfl := Option.some.inj (live.symm.trans own)
  exact target

/-- Where nothing is saved the browser goes to the root of the application. -/
theorem target_of_blank (fresh : w.Fresh) (blank : (g.run w es).slot n = {}) (r : Request) :
    SavedRequest.target r ((g.run w es).session n) = .text (SavedRequest.root r) := by
  have uri : ((g.run w es).session n).uri = none := congrArg Slot.uri blank
  have destination : ((g.run w es).session n).destination = none := by
    cases hs : (g.run w es).store.session? n with
    | none => rw [World.session_of_length_le (List.getElem?_eq_none_iff.1 hs)]
    | some s =>
      rw [World.session_of_session? hs] at uri ⊢
      cases held : s.destination with
      | none => rfl
      | some d =>
        have same := (filed_run fresh es n s hs).destination d held
        exact absurd (same.symm.trans uri) nofun
  rw [SavedRequest.target, uri, destination]
  rfl

/-- The root of the application is that of the context path. -/
theorem target_congr {q r : Request} (h : q.context = r.context) (s : Session) :
    SavedRequest.target q s = SavedRequest.target r s := by
  rw [SavedRequest.target, SavedRequest.target, SavedRequest.root, SavedRequest.root, h]

/-- **A login sends the browser only to a request of its own.**  After any run from an empty store,
a callback that logs in sends the browser to the address of a request that was saved in the lineage
of its session, by a challenge that was sent or broke off after the request was saved, or to the
root of the application.  And any two callbacks in the same world with one context path, whatever
else they bring, that log in in the same session send the browser to the same address. -/
theorem location_of_lineage (fresh : w.Fresh)
    (arrives : Arrives g (g.run w es) (.call (.validate mandatory) r channel) n location) :
    ((∃ pre c post m q, es = pre ++ c :: post ∧ Saves g (g.run w pre) c m q ∧
        (Challenged g (g.run w pre) c m q ∨ BreaksOff g (g.run w pre) c q) ∧
        Descends g w m es n ∧ location = .text q.url) ∨
      location = .text (SavedRequest.root r)) ∧
    ∀ mandatory' r' channel' location', r'.context = r.context →
      Arrives g (g.run w es) (.call (.validate mandatory') r' channel') n location' →
      location' = location := by
  refine ⟨?_, fun mandatory' r' channel' location' same arrives' => ?_⟩
  · by_cases blank : (g.run w es).slot n = {}
    · right
      rw [arrives.eq_target, target_of_blank fresh blank]
    · left
      obtain ⟨pre, c, post, m, q, split, saves, own, held⟩ := exists_saves fresh blank
      exact ⟨pre, c, post, m, q, split, saves, saves.challenged_or, own,
        arrives.location_eq fresh held⟩
  · rw [arrives.eq_target, arrives'.eq_target, target_congr same]

/-- The first callback of a small world goes to the page that was asked for, also where it brings
another form and comes to another path. -/
theorem location_of_lineage_small :
    let g := smallGate true
    let w := smallWorld none
    let asked := Event.call (.validate true) (smallRequest "/page" "" none) .fresh
    let back := smallRequest "/j_security_check" "code=abc&state=token" (some "first")
    let other : Submission :=
      { smallRequest "/evil/j_security_check" "state=token&destination=http://evil" (some "first")
        with form := some [("code", ["abc"])], isText := rfl }
    let location := Attribute.text "http://app/page"
    w.Fresh ∧ Arrives g (g.run w [asked]) (.call (.validate true) back .fresh) 0 location ∧
      other.context = back.context ∧
      Arrives g (g.run w [asked]) (.call (.validate true) other .fresh) 0 location ∧
      ((∃ pre c post m q, [asked] = pre ++ c :: post ∧ Saves g (g.run w pre) c m q ∧
          (Challenged g (g.run w pre) c m q ∨ BreaksOff g (g.run w pre) c q) ∧
          Descends g w m [asked] 0 ∧ location = .text q.url) ∨
        location = .text (SavedRequest.root back)) ∧
      ∀ location', Arrives g (g.run w [asked]) (.call (.validate true) other .fresh) 0 location' →
        location' = location := by
  intro g w asked back other location
  have arrives : Arrives g (g.run w [asked]) (.call (.validate true) back .fresh) 0 location :=
    ⟨true, back, .fresh, smallResult, some 303, rfl, by decide +kernel, by decide +kernel,
      by decide +kernel⟩
  have arrives' : Arrives g (g.run w [asked]) (.call (.validate true) other .fresh) 0 location :=
    ⟨true, other, .fresh, smallResult, some 303, rfl, by decide +kernel, by decide +kernel,
      by decide +kernel⟩
  obtain ⟨saved, one⟩ := location_of_lineage (smallWorld_fresh none) arrives
  exact ⟨smallWorld_fresh none, arrives, rfl, arrives', saved, fun _ => one true other .fresh _ rfl⟩

/-- A page whose challenge could not be sent is gone to after a login, although no request was
challenged. -/
theorem location_of_broken_challenge :
    let g := smallGate true
    let w := smallWorld none
    ¬ ∀ (es : List Event) (mandatory : Bool) (r : Submission) (channel : Channel) (n : Serial)
        (location : Attribute),
      Arrives g (g.run w es) (.call (.validate mandatory) r channel) n location →
      (∃ pre c post m q, es = pre ++ c :: post ∧ Challenged g (g.run w pre) c m q ∧
        Descends g w m es n ∧ location = .text q.url) ∨
      location = .text (SavedRequest.root r) := by
  intro g w claim
  let asked := Event.call (.validate true) (smallRequest "/page" "" none) .broken
  let back := smallRequest "/j_security_check" "code=abc&state=token" (some "first")
  have arrives : Arrives g (g.run w [asked]) (.call (.validate true) back .fresh) 0
      (.text "http://app/page") :=
    ⟨true, back, .fresh, smallResult, some 303, rfl, by decide +kernel, by decide +kernel,
      by decide +kernel⟩
  obtain ⟨pre, c, post, m, q, split, challenged, -⟩ | root := claim _ _ _ _ _ _ arrives
  · obtain ⟨mandatory, channel, rfl, done⟩ := challenged.call
    cases pre with
    | nil =>
      obtain ⟨same, -⟩ := List.cons.inj split
      obtain ⟨errand, rfl, rfl⟩ := Event.call.inj same
      rw [← errand] at done
      exact absurd done (by decide +kernel)
    | cons d pre =>
      have long := congrArg List.length split
      simp only [List.length_append, List.length_cons, List.length_nil] at long
      omega
  · exact absurd root (by decide +kernel)

end Gate
end LoginGate
