/-
# What the guard admits

The guard and the router each cut the mount off the path.  They agree unless the mount ends inside a
segment: the guard then sees what is left of the segment, without a slash in front, and the router
the whole path.

| the path | guard | router |
| --- | --- | --- |
| does not begin with the mount | the path | the path |
| is the mount | `/` | `/` |
| goes on with a slash after the mount | the rest | the rest |
| goes on with another character | the rest | the path |

In the last case the guard protects the request only if a protected path covers a path without a
slash in front, which the path `/` does not.
-/

import LoginGate.Proofs.Run
import LoginGate.Web.Guard

namespace LoginGate
namespace Inbound

/-- The path that the router matches, `/` where nothing is left of it. -/
def routed (i : Inbound) : String :=
  orRoot i.routePath

/-- A text begins with another one if that is in front of the rest. -/
theorem begins_iff {p s : String} :
    Text.begins p s = true ↔ ∃ r, s.toList = p.toList ++ r := by
  rw [Text.begins, List.isPrefixOf_iff_prefix]
  exact ⟨fun ⟨r, h⟩ => ⟨r, h.symm⟩, fun ⟨r, h⟩ => ⟨r, h.symm⟩⟩

/-- A path that begins with a slash is taken as it is. -/
theorem orRoot_of_begins {s : String} (h : Text.begins "/" s = true) : orRoot s = s := by
  obtain ⟨r, h⟩ := begins_iff.1 h
  have filled : s.isEmpty = false := by
    rw [String.isEmpty_eq_false_iff]
    rintro rfl
    cases h
  rw [orRoot, filled, if_neg Bool.false_ne_true]

/-- No path is empty: the empty one is the root. -/
theorem orRoot_isEmpty (s : String) : (orRoot s).isEmpty = false := by
  unfold orRoot
  split
  · rfl
  · rename_i filled
    exact Bool.eq_false_iff.2 filled

/-- The path that the gate sees is never empty. -/
theorem pathInContext_isEmpty (i : Inbound) : i.pathInContext.isEmpty = false := by
  unfold pathInContext
  dsimp only
  split <;> exact orRoot_isEmpty _

/-- Where the path begins with the mount, the guard sees what is left of it. -/
theorem pathInContext_of_after? {i : Inbound} {r : List Char}
    (path : Text.begins "/" i.path = true) (mounted : i.mount.isEmpty = false)
    (rest : Text.after? i.mount.toList i.path.toList = some r) :
    i.pathInContext = orRoot (String.ofList r) := by
  have split := Text.after?_eq_some_iff.1 rest
  have begins : Text.begins i.mount i.path = true := begins_iff.2 ⟨r, split⟩
  have left : Text.dropChars i.mount.length i.path = String.ofList r := by
    rw [Text.dropChars, split, ← String.length_toList, List.drop_left]
  simp only [pathInContext, orRoot_of_begins path, mounted, begins, left, Bool.not_false,
    Bool.and_self, if_true]

/-- Where it does not, the guard sees the whole path. -/
theorem pathInContext_of_not_mounted {i : Inbound} (path : Text.begins "/" i.path = true)
    (other : i.mount.isEmpty = true ∨ Text.after? i.mount.toList i.path.toList = none) :
    i.pathInContext = i.path := by
  have apart : (!i.mount.isEmpty && Text.begins i.mount i.path) = false := by
    obtain root | none := other
    · simp [root]
    · refine Bool.and_eq_false_iff.2 (.inr (Bool.eq_false_iff.2 fun begins => ?_))
      obtain ⟨r, h⟩ := begins_iff.1 begins
      rw [Text.after?_eq_some_iff.2 h] at none
      cases none
  rw [pathInContext, orRoot_of_begins path, if_neg (by simp [apart])]

/-- The guard and the router see the same path, or the guard sees one without a slash in front. -/
theorem pathInContext_cases {i : Inbound} (path : Text.begins "/" i.path = true) :
    i.pathInContext = i.routed ∧ Text.begins "/" i.routed = true ∨
      Text.begins "/" i.pathInContext = false ∧ i.pathInContext ≠ i.routed := by
  have whole := orRoot_of_begins path
  by_cases root : i.mount.isEmpty = true
  · have route : i.routed = i.path := by rw [routed, routePath, if_pos root, whole]
    rw [pathInContext_of_not_mounted path (.inl root), route]
    exact .inl ⟨rfl, path⟩
  · have mounted : i.mount.isEmpty = false := Bool.eq_false_iff.2 root
    cases rest : Text.after? i.mount.toList i.path.toList with
    | none =>
      have route : i.routed = i.path := by
        simp only [routed, routePath, mounted, rest, whole, Bool.false_eq_true, if_false]
      rw [pathInContext_of_not_mounted path (.inr rest), route]
      exact .inl ⟨rfl, path⟩
    | some r =>
      rw [pathInContext_of_after? path mounted rest]
      cases r with
      | nil =>
        have route : i.routePath = "" := by
          simp only [routePath, mounted, rest, Bool.false_eq_true, if_false]
        rw [routed, route]
        exact .inl ⟨rfl, rfl⟩
      | cons c r =>
        by_cases slash : c = '/'
        · subst slash
          have route : i.routePath = String.ofList ('/' :: r) := by
            simp only [routePath, mounted, rest, Bool.false_eq_true, if_false]
          have begins : Text.begins "/" (String.ofList ('/' :: r)) = true :=
            begins_iff.2 ⟨r, String.toList_ofList⟩
          rw [routed, route, orRoot_of_begins begins]
          exact .inl ⟨rfl, begins⟩
        · have route : i.routed = i.path := by
            simp only [routed, routePath, mounted, rest, Bool.false_eq_true, if_false]
            split <;> simp_all
          have seen : orRoot (String.ofList (c :: r)) = String.ofList (c :: r) := by
            rw [orRoot, if_neg (by simp [String.isEmpty_iff])]
          have bare : Text.begins "/" (String.ofList (c :: r)) = false := by
            refine Bool.eq_false_iff.2 fun begins => ?_
            obtain ⟨t, h⟩ := begins_iff.1 begins
            rw [String.toList_ofList] at h
            exact slash (List.cons.inj h).1
          rw [seen, route]
          refine .inr ⟨bare, fun same => ?_⟩
          rw [same, path] at bare
          cases bare

end Inbound

namespace Settings

/-- The path is open to everybody: it is the error page, or it lies under a public path. -/
def isOpen (s : Settings) (path : String) : Bool :=
  s.isErrorPage (some path) || Address.isUnderAny path s.publicPaths

/-- An error page in its normal form has a slash in front. -/
theorem exists_of_normalPage {given : Option String} {page : String}
    (normal : normalPage given = some page) : ∃ r, page.toList = '/' :: r := by
  unfold normalPage at normal
  split at normal
  · cases normal
  · split at normal
    · cases normal
    · split at normal <;> obtain rfl := Option.some.inj normal
      · rename_i begins
        exact Inbound.begins_iff.1 begins
      · exact ⟨_, String.toList_append⟩

/-- So has its path. -/
theorem begins_of_isErrorPage {given : Settings} {path : String}
    (h : (make given).isErrorPage (some path) = true) : Text.begins "/" path = true := by
  simp only [isErrorPage, Option.isSome_some, Bool.true_and, beq_iff_eq] at h
  obtain ⟨page, normal, rfl⟩ := Option.map_eq_some_iff.1 h.symm
  obtain ⟨r, slash⟩ := exists_of_normalPage normal
  refine Inbound.begins_iff.2 ⟨(Text.cutAt '?' r).1, ?_⟩
  rw [Address.withoutQuery, Text.upTo, slash, String.toList_ofList]
  rfl

/-- Where everything is protected, a path is unprotected under a public path alone. -/
theorem isProtected_of_root {s : Settings} {path : String} (root : "/" ∈ s.protectedPaths)
    (begins : Text.begins "/" path = true) :
    s.isProtected path = !Address.isUnderAny path s.publicPaths := by
  have covered : Address.isUnderAny path s.protectedPaths = true := by
    refine List.any_eq_true.2 ⟨"/", root, Bool.or_eq_true_iff.2 (.inr ?_)⟩
    exact begins
  rw [isProtected, covered, Bool.and_true]

end Settings

namespace Gate

variable {g : Gate} {v w : Visit} {o : Outcome}

/-- On a channel that can be written to, what is left to the application is deferred by its address
or logged in. -/
theorem Decides.of_unsent {mandatory : Bool} (h : Decides g mandatory v (.ok o) w)
    (sendable : v.channel.isDeferred = false) (unsent : o.isSent = false) :
    o = .deferred ∧ IsDeferred g mandatory v ∨
      (∃ result, o = .authenticated result false) ∧ isCallback v.request.uri = false ∧
        ¬ IsDeferred g mandatory v := by
  have silent (sent : o.isSent = true) : False := by simp [sent] at unsent
  cases h with
  | deferred h => exact .inl ⟨rfl, h⟩
  | urlSession _ _ ends => exact (silent (ends_isSent ends rfl)).elim
  | callback _ _ _ answers => exact (silent answers.isSent).elim
  | @protect session u _ _ h other _ finds protects =>
    have same : u.channel.isDeferred = false := by
      cases finds <;> exact sendable
    cases protects with
    | held => exact .inr ⟨⟨_, rfl⟩, other, h⟩
    | passed _ deferred => exact absurd (deferred.symm.trans same) (by simp)
    | challenged _ _ challenges => exact (silent challenges.isSent).elim
    | started _ _ _ _ challenges => exact (silent challenges.isSent).elim

end Gate

namespace Handling

variable {α β : Type} {h : Handling α} {f : α → Handling β} {r : Reception} {b : β}

/-- Work in two parts comes to an end only if both do. -/
theorem of_bind_eq_ok (done : ((h >>= f).on r).1 = .ok b) :
    ∃ a s, h.on r = (.ok a, s) ∧ ((f a).on s).1 = .ok b := by
  rw [on_bind] at done
  rcases first : h.on r with ⟨crash | a, s⟩
  · simp [first] at done
  · rw [first] at done
    exact ⟨a, s, rfl, done⟩

/-- A part of the address that a handling goes on with was there. -/
theorem of_address_eq_ok {part : Except UrlFault α} {a : α} {s : Reception}
    (done : (address part).on r = (.ok a, s)) : part = .ok a := by
  cases part with
  | error => cases done
  | ok => exact congrArg Except.ok (Except.ok.inj (Prod.mk.inj done).1)

/-- A handling that goes on after a visit goes on from what the visit left. -/
theorem of_visit_eq_ok {q : Request} {step : Step α} {a : α} {v : Visit} {s : Reception}
    (done : (visit q step).on r = (.ok (a, v), s)) :
    step.on { world := r.world, request := q } = (.ok a, v) := by
  rw [on_visit] at done
  rcases h : step.on { world := r.world, request := q } with ⟨fault | b, w⟩
  · simp [h] at done
  · rw [h] at done
    obtain ⟨rfl, rfl⟩ := Prod.mk.inj (Except.ok.inj (Prod.mk.inj done).1)
    rfl

end Handling

namespace Guard

open Gate (Decides IsDeferred Prepares)

variable {g : Gate} {c : Option String} {i : Inbound} {r : Reception} {a : Admission}

/-- The gate sees the path below the mount. -/
theorem requestOf_eq_ok {cookieName : String} {form : Option Form} {q : Request}
    (h : requestOf cookieName form c i = .ok q) :
    q.path = i.pathInContext := by
  unfold requestOf at h
  cases url : Url.ofInbound i with
  | error => simp [url, Except.bind] at h
  | ok u =>
    cases port : u.port? with
    | error => simp [url, port, Except.bind, Except.map] at h
    | ok p =>
      simp only [url, port, Except.bind, Except.map, Except.ok.injEq] at h
      subst h
      rfl

/-- A decision of the guard is one of the gate on a request that has another method at most. -/
theorem decision_eq_ok {mandatory : Bool} {v w : Visit} {o : Outcome}
    (h : (decision g mandatory).on v = (.ok o, w)) :
    ∃ u x, u.channel = v.channel ∧ (∃ method, u.request = { v.request with method }) ∧
      Decides g mandatory u (.ok o) x := by
  have prepares := Gate.prepare_prepares v
  rw [decision, Step.on_bind] at h
  rcases hp : Gate.prepare.on v with ⟨fault | done, u⟩
  · simp [hp] at h
  · rw [hp] at h prepares
    have decides := Gate.validate_decides g mandatory u
    dsimp only at h
    rw [Step.on_bind] at h
    rcases hv : (g.validate mandatory).on u with ⟨fault | p, x⟩
    · simp [hv] at h
    · rw [hv] at h decides
      obtain rfl : p = o := by
        dsimp only at h
        rw [Step.on_bind_ok (Step.on_get x), Step.on_bind_ok (Step.on_logAll ..)] at h
        exact Except.ok.inj (Prod.mk.inj h).1
      refine ⟨u, x, ?_, ?_, decides⟩
      · cases prepares with
        | found finds => cases finds <;> rfl
      · cases prepares with
        | found finds _ method => cases finds <;> exact ⟨method, rfl⟩

/-- What is admitted was decided on below the mount, and nothing was sent. -/
theorem exists_decides (h : ((enter g c i).on r).1 = .ok (.admitted a)) :
    ∃ u x, u.channel = .fresh ∧ u.request.path = i.pathInContext ∧
      Decides g (g.settings.isProtected u.request.pathInContext) u (.ok a.outcome) x ∧
      a.outcome.isSent = false := by
  obtain ⟨q, s, address, h⟩ := Handling.of_bind_eq_ok h
  have path := requestOf_eq_ok (Handling.of_address_eq_ok address)
  obtain ⟨⟨outcome, v⟩, t, visit, h⟩ := Handling.of_bind_eq_ok h
  obtain ⟨u, x, channel, ⟨method, request⟩, decides⟩ :=
    decision_eq_ok (Handling.of_visit_eq_ok visit)
  dsimp only at h
  split at h
  · cases h
  · cases sent : outcome.isSent with
    | true =>
      rw [if_pos sent] at h
      obtain ⟨_, _, _, h⟩ := Handling.of_bind_eq_ok h
      cases Except.ok.inj h
    | false =>
      have same : a.outcome = outcome := by
        have done : Passage.admitted (admission i v.request outcome) = .admitted a := by
          rw [if_neg (by simp [sent])] at h
          split at h
          · obtain ⟨-, -, -, h⟩ := Handling.of_bind_eq_ok h
            exact Except.ok.inj h
          · exact Except.ok.inj h
        rw [← Passage.admitted.inj done, admission_outcome]
      have below : u.request.pathInContext = q.pathInContext := by rw [request]; rfl
      rw [same]
      refine ⟨u, x, channel, ?_, below ▸ decides, sent⟩
      rw [request]
      exact path

/-- The guard leaves a request to the application without a login although its path is open to
nobody: it sees another path than the router, and does not protect the one that it sees. -/
def Overlooks (s : Settings) (i : Inbound) : Prop :=
  i.pathInContext ≠ i.routed ∧ s.isProtected i.pathInContext = false ∧ s.isOpen i.routed = false

/-- **Who gets in where everything is protected:** a request that is admitted is logged in, or its
path is open to everybody, unless the guard overlooks it; and nobody is logged in, nor is the path
open, where the guard does. -/
theorem admitted_iff_not_overlooks {given : Settings} (settings : g.settings = Settings.make given)
    (root : "/" ∈ g.settings.protectedPaths) (path : Text.begins "/" i.path = true)
    (h : ((enter g c i).on r).1 = .ok (.admitted a)) :
    (a.outcome.isAuthenticated = true ∨ g.settings.isOpen i.routed = true) ↔
      ¬ Overlooks g.settings i := by
  obtain ⟨u, x, channel, hpath, decides, unsent⟩ := exists_decides h
  have below : u.request.pathInContext = i.pathInContext := by
    rw [Request.pathInContext, hpath, i.pathInContext_isEmpty, if_neg Bool.false_ne_true]
  have sendable : u.channel.isDeferred = false := by rw [channel]; rfl
  rw [below] at decides
  obtain ⟨outcome, -, address⟩ | ⟨⟨result, outcome⟩, other, needed⟩ :=
    decides.of_unsent sendable unsent
  · have nobody : a.outcome.isAuthenticated = false := by rw [outcome]; rfl
    rw [below] at address
    rw [nobody]
    obtain ⟨same, begins⟩ | ⟨bare, apart⟩ := Inbound.pathInContext_cases path
    · rw [same, Settings.isProtected_of_root root begins] at address
      have opened : g.settings.isOpen i.routed = true := by
        rw [Settings.isOpen, Bool.or_eq_true_iff]
        obtain free | ⟨page, -⟩ := address
        · exact .inr (by simpa using free)
        · exact .inl page
      exact ⟨fun _ overlooks => overlooks.1 same, fun _ => .inr opened⟩
    · have free : g.settings.isProtected i.pathInContext = false := by
        obtain free | ⟨page, -⟩ := address
        · exact free
        · rw [settings] at page
          rw [Settings.begins_of_isErrorPage page] at bare
          cases bare
      simp [Overlooks, apart, free]
  · have somebody : a.outcome.isAuthenticated = true := by rw [outcome]; rfl
    exact ⟨fun _ overlooks => needed ⟨other, .inl overlooks.2.1⟩, fun _ => .inl somebody⟩

/-- A request to a path of a small application. -/
def smallInbound (mount path : String) : Inbound :=
  { mount, path, server := some ("app", some 80) }

/-- The request whether the application is up is admitted, since its path is public. -/
theorem admitted_iff_not_overlooks_health :
    let g := smallGate true
    let i := smallInbound "" "/healthz"
    g.settings = Settings.make {} ∧ "/" ∈ g.settings.protectedPaths ∧
      Text.begins "/" i.path = true ∧
      ((enter g none i).on { world := smallWorld none }).1 = .ok (.admitted ⟨i, .deferred, false⟩) ∧
      (((Outcome.deferred).isAuthenticated = true ∨ g.settings.isOpen i.routed = true) ↔
        ¬ Overlooks g.settings i) := by
  intro g i
  have admitted : ((enter g none i).on { world := smallWorld none }).1 =
      .ok (.admitted ⟨i, .deferred, false⟩) := by decide +kernel
  have settings : g.settings = Settings.make {} := rfl
  have root : "/" ∈ g.settings.protectedPaths := by decide
  have path : Text.begins "/" i.path = true := by decide
  exact ⟨settings, root, path, admitted,
    admitted_iff_not_overlooks settings root path admitted⟩

/-- A path that begins with the mount and goes on in the same segment is admitted without a login,
although the router matches the whole path and everything is protected. -/
theorem admitted_inside_segment :
    ¬ ∀ (g : Gate) (given : Settings) (c : Option String) (i : Inbound) (r : Reception)
      (a : Admission), g.settings = Settings.make given → "/" ∈ g.settings.protectedPaths →
      Text.begins "/" i.path = true → ((enter g c i).on r).1 = .ok (.admitted a) →
      a.outcome.isAuthenticated = true ∨ g.settings.isOpen i.routed = true := by
  intro claim
  have admitted : ((enter (smallGate true) none (smallInbound "/app" "/apple")).on
      { world := smallWorld none }).1 =
        .ok (.admitted ⟨smallInbound "/app" "/apple", .deferred, false⟩) := by decide +kernel
  obtain somebody | opened := claim _ {} _ _ _ _ rfl (by decide) (by decide) admitted
  · cases somebody
  · exact absurd opened (by decide +kernel)

end Guard
end LoginGate
