/-
# The error page

A failed login is answered with a redirect to the error page, and the browser asks for its path:
what stands before the first `?` and the first `#`.  The gate leaves this request to the application
if it is the path that it compares with, and if the path does not lead to the callback.

| the error page | the request for it |
| --- | --- |
| holds a `#` before its query | needs a login, as the fragment is compared too |
| leads to the callback | is answered as a callback, and fails again |
| any other | is left to the application |
-/

import LoginGate.Proofs.Admission
import LoginGate.Proofs.Precedence

namespace LoginGate

/-! ## The path of an address -/

/-- What stands before the first `c` are the elements in front that are not `c`. -/
theorem Text.cutAt_fst {α : Type} [DecidableEq α] (c : α) (l : List α) :
    (cutAt c l).1 = l.takeWhile fun x => x ≠ c := by
  induction l with
  | nil => rfl
  | cons x l ih =>
    by_cases same : x = c
    · simp [cutAt, same]
    · simp [cutAt, same, ih]

namespace Address

/-- The path that a browser asks for at an address without an origin. -/
def pathOf (s : String) : String :=
  String.ofList (s.toList.takeWhile fun c => c ≠ '?' ∧ c ≠ '#')

/-- It is what stands before the query, unless a fragment begins there. -/
theorem pathOf_eq_iff (s : String) :
    pathOf s = withoutQuery s ↔ '#' ∉ (withoutQuery s).toList := by
  have whole : (withoutQuery s).toList = s.toList.takeWhile fun c => c ≠ '?' := by
    rw [withoutQuery, Text.upTo, String.toList_ofList, Text.cutAt_fst]
  have path : (pathOf s).toList = (withoutQuery s).toList.takeWhile fun c => c ≠ '#' := by
    rw [pathOf, String.toList_ofList, whole, List.takeWhile_takeWhile]
    simp [and_comm]
  rw [← String.toList_inj, path, List.takeWhile_eq_self_iff]
  constructor
  · exact fun all mark => of_decide_eq_true (all _ mark) rfl
  · exact fun none c hc => decide_eq_true fun mark => none (mark ▸ hc)

/-- The path of an address that has a slash in front is not empty. -/
theorem pathOf_isEmpty {s : String} {r : List Char} (slash : s.toList = '/' :: r) :
    (pathOf s).isEmpty = false := by
  rw [pathOf, slash, String.isEmpty_eq_false_iff]
  exact fun empty => absurd (congrArg String.toList empty) (by simp)

end Address

namespace Gate

variable {g : Gate} {v : Visit} {given : Settings} {page : String} {mandatory : Bool}
  {status : Int} {location : Attribute}

/-- A failed login that redirects leads to the error page. -/
theorem exists_of_sendFailure (fresh : v.channel = .fresh)
    (redirects : ((Step.sendFailure g.settings).on v).2.channel =
      .buffered (some status) (some location)) :
    ∃ page, g.settings.errorPage = some page ∧
      location = .text (Address.join v.request.context (some page)) := by
  rw [Step.on_sendFailure, Step.write, Step.on_bind_ok (Step.on_get v), fresh] at redirects
  unfold Step.failure at redirects
  cases found : g.settings.errorPage with
  | none =>
    rw [found] at redirects
    cases redirects
  | some page =>
    rw [found] at redirects
    exact ⟨page, rfl, (Option.some.inj (Channel.buffered.inj redirects).2).symm⟩

/-- The request for the error page is left to the application unless it is the callback, and where a
login is needed, only if the page holds no `#` before its query. -/
theorem isDeferred_page_iff (settings : g.settings = Settings.make given)
    (normal : Settings.normalPage given.errorPage = some page)
    (path : v.request.path = Address.pathOf page) (sendable : v.channel.isDeferred = false) :
    IsDeferred g mandatory v ↔ isCallback (v.request.context ++ Address.pathOf page) = false ∧
      (mandatory = false ∨ '#' ∉ (Address.withoutQuery page).toList) := by
  obtain ⟨r, slash⟩ := Settings.exists_of_normalPage normal
  have filled := Address.pathOf_isEmpty slash
  have uri : v.request.uri = v.request.context ++ Address.pathOf page := by
    rw [Request.uri, path, if_neg]
    rw [String.isEmpty_iff, String.append_eq_empty_iff]
    exact fun empty => String.isEmpty_eq_false_iff.1 filled empty.2
  have compared : g.settings.isErrorPage (some v.request.pathInContext) = true ↔
      '#' ∉ (Address.withoutQuery page).toList := by
    have errorPath : g.settings.errorPath = some (Address.withoutQuery page) := by
      rw [settings, Settings.errorPath, Settings.make, normal, Option.map_some]
    rw [← Address.pathOf_eq_iff, Request.pathInContext, path, filled, Settings.isErrorPage,
      errorPath]
    simp
  rw [IsDeferred, uri, compared, sendable]
  simp

/-- **When the error page is shown.**  Where a failed login redirects, it leads to the error page of
the settings.  Any request for the path of that page, in any state of the gate, is left to the
application, and nothing is written for it, exactly if the path is not the callback and, where a
login is needed, the page holds no `#` before its query. -/
theorem deferred_page_iff (settings : g.settings = Settings.make given) (fresh : v.channel = .fresh)
    (redirects : ((Step.sendFailure g.settings).on v).2.channel =
      .buffered (some status) (some location)) :
    ∃ page, Settings.normalPage given.errorPage = some page ∧
      location = .text (Address.join v.request.context (some page)) ∧
      ∀ (w : World) (q : Request) (mandatory : Bool), q.context = v.request.context →
        q.path = Address.pathOf page →
        ((g.visit w (.validate mandatory) q .fresh).1 = .ok (some .deferred) ∧
            (g.visit w (.validate mandatory) q .fresh).2.channel = .fresh ∧
            (g.visit w (.validate mandatory) q .fresh).2.world = w ↔
          isCallback (v.request.context ++ Address.pathOf page) = false ∧
            (mandatory = false ∨ '#' ∉ (Address.withoutQuery page).toList)) := by
  obtain ⟨page, found, rfl⟩ := exists_of_sendFailure fresh redirects
  have normal : Settings.normalPage given.errorPage = some page := by
    rw [settings] at found
    exact found
  refine ⟨page, normal, rfl, fun w q mandatory context path => ?_⟩
  rw [← context, ← isDeferred_page_iff (v := { world := w, request := q }) settings normal path rfl]
  have decides := validate_decides g mandatory { world := w, request := q }
  rw [visit_validate, visit_validate_snd]
  constructor
  · rintro ⟨done, -⟩
    rw [eq_of_map_some (b := .ok .deferred) done] at decides
    exact decides.isDeferred
  · intro here
    obtain ⟨done, world, channel⟩ := decides.of_isDeferred here
    rw [done]
    exact ⟨rfl, channel, world⟩

/-- A callback without a code leads to the error page below the context path, and the request for it
is left to the application, in any state. -/
theorem deferred_page_small :
    let g : Gate :=
      { smallGate true with settings := Settings.make { errorPage := some "fail?x=1" } }
    let back := { smallRequest "/j_security_check" "" none with context := "/app" }
    let page := { smallRequest "/fail" "x=1" (some "first") with context := "/app" }
    let v : Visit := { world := smallWorld none, request := back }
    v.channel = .fresh ∧
      ((Step.sendFailure g.settings).on v).2.channel =
        .buffered (some 303) (some (.text "/app/fail?x=1")) ∧
      ∀ (w : World) (mandatory : Bool),
        (g.visit w (.validate mandatory) page .fresh).1 = .ok (some .deferred) := by
  intro g back page v
  have redirects : ((Step.sendFailure g.settings).on v).2.channel =
      .buffered (some 303) (some (.text "/app/fail?x=1")) := by decide +kernel
  obtain ⟨s, normal, -, left⟩ := deferred_page_iff (g := g) rfl rfl redirects
  obtain rfl : "/fail?x=1" = s :=
    Option.some.inj ((by decide +kernel : some "/fail?x=1" = _).trans normal)
  refine ⟨rfl, redirects, fun w mandatory => ?_⟩
  have iff := left w page mandatory rfl (by decide +kernel)
  exact (iff.2 ⟨by decide +kernel, .inr (by decide +kernel)⟩).1

/-- An error page with a fragment is not left to the application: a callback that fails leads to it,
and the request for it is challenged. -/
theorem challenged_page :
    let g : Gate :=
      { smallGate true with settings := Settings.make { errorPage := some "/err#top" } }
    let w := smallWorld none
    let back := smallRequest "/j_security_check" "" none
    let page := smallRequest "/err" "" none
    (g.visit w (.validate true) back .fresh).2.channel =
        .buffered (some 303) (some (.text "/err#top")) ∧
      (g.visit w (.validate true) page .fresh).1 = .ok (some .challenged) ∧
      ¬ ∀ (w : World) (q : Request) (mandatory : Bool), q.context = back.context →
        q.path = Address.pathOf "/err#top" →
        (g.visit w (.validate mandatory) q .fresh).1 = .ok (some .deferred) := by
  intro g w back page
  have challenged : (g.visit w (.validate true) page .fresh).1 = .ok (some .challenged) := by
    decide +kernel
  refine ⟨by decide +kernel, challenged, fun claim => ?_⟩
  have deferred := claim w page true rfl (by decide +kernel)
  exact absurd (challenged.symm.trans deferred) nofun

end Gate
end LoginGate
