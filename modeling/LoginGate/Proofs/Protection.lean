/-
# Which paths are protected

A base covers itself and what is below it, and the slashes at its end should not matter.  Below a
base they do not: the test drops them there.  For the base itself it does not, and so a path that is
the base is overlooked where the base is written with a slash at its end.

| predicate | of a path and a base |
| --- | --- |
| `LiesUnder` | the path is the base without its slashes, or goes on from there with a slash |
| `Skips` | the path is the base without its slashes, and the base has some |

The settings decide on a path as they should unless the bases that would decide all skip it:
protected bases, and the path is left open (`Exposes`), or public ones, and it is shut (`Shuts`).
-/

import LoginGate.Proofs.Admission

namespace LoginGate

namespace Text

/-- What is dropped at the end of a list are elements to be dropped. -/
theorem exists_dropEndBy {α : Type} (p : α → Bool) (l : List α) :
    ∃ t, l = dropEndBy p l ++ t ∧ ∀ x ∈ t, p x = true := by
  refine ⟨(l.reverse.takeWhile p).reverse, ?_, fun x hx => ?_⟩
  · rw [dropEndBy, ← List.reverse_append, List.takeWhile_append_dropWhile, List.reverse_reverse]
  · exact List.all_eq_true.1 List.all_takeWhile x (List.mem_reverse.1 hx)

end Text

namespace Address

/-- A base without the slashes at its end. -/
def bare (base : String) : String :=
  Text.dropEndChar '/' base

/-- The path is the base, or it is below. -/
def LiesUnder (path base : String) : Prop :=
  path = bare base ∨ ∃ r, path = bare base ++ "/" ++ r

/-- The path is the base, which is written with a slash at its end. -/
def Skips (base path : String) : Prop :=
  path = bare base ∧ base ≠ bare base

variable {path base : String}

/-- Below a base a path begins with the base and a slash. -/
theorem begins_bare_iff :
    Text.begins (bare base ++ "/") path = true ↔ ∃ r, path = bare base ++ "/" ++ r := by
  rw [Inbound.begins_iff]
  constructor
  · rintro ⟨r, h⟩
    refine ⟨String.ofList r, String.toList_inj.1 ?_⟩
    rw [h, String.toList_append (s := bare base ++ "/"), String.toList_ofList]
  · rintro ⟨r, rfl⟩
    exact ⟨r.toList, String.toList_append⟩

instance (path base : String) : Decidable (LiesUnder path base) :=
  decidable_of_iff (path = bare base ∨ Text.begins (bare base ++ "/") path = true)
    (or_congr_right begins_bare_iff)

instance (base path : String) : Decidable (Skips base path) :=
  inferInstanceAs (Decidable (_ ∧ _))

/-- A base with a slash at its end is below itself. -/
theorem eq_bare_or (base : String) : base = bare base ∨ ∃ r, base = bare base ++ "/" ++ r := by
  obtain ⟨t, split, slashes⟩ := Text.exists_dropEndBy (· == '/') base.toList
  cases t with
  | nil =>
    refine .inl (String.toList_inj.1 ?_)
    rw [bare, Text.dropEndChar, String.toList_ofList]
    exact split.trans (List.append_nil _)
  | cons c t =>
    obtain rfl := eq_of_beq (slashes c List.mem_cons_self)
    refine .inr ⟨String.ofList t, String.toList_inj.1 ?_⟩
    rw [String.toList_append, String.toList_append, String.toList_ofList, bare, Text.dropEndChar,
      String.toList_ofList, List.append_assoc, String.toList_ofList]
    exact split

/-- No path is below itself. -/
theorem ne_append_slash (s r : String) : s ≠ s ++ "/" ++ r := by
  intro same
  have lengths := congrArg String.length same
  rw [String.length_append, String.length_append] at lengths
  have slash : "/".length = 1 := rfl
  omega

/-- **A base covers** what lies under it, unless it skips the path. -/
theorem isUnder_iff : isUnder path base = true ↔ LiesUnder path base ∧ ¬ Skips base path := by
  change (path == base || Text.begins (bare base ++ "/") path) = true ↔ _
  rw [Bool.or_eq_true, begins_bare_iff, beq_iff_eq]
  constructor
  · rintro (rfl | ⟨r, rfl⟩)
    · refine ⟨eq_bare_or path, fun skips => skips.2 skips.1⟩
    · exact ⟨.inr ⟨r, rfl⟩, fun skips => ne_append_slash _ r skips.1.symm⟩
  · rintro ⟨same | further, covers⟩
    · have plain : base = bare base := Classical.not_not.1 fun slash => covers ⟨same, slash⟩
      exact .inl (same.trans plain.symm)
    · exact .inr further

variable {bases others : List String}

/-- A path is under some bases where one of them covers it, and not by being the path with a slash
behind it. -/
theorem isUnderAny_iff :
    isUnderAny path bases = true ↔ ∃ b ∈ bases, LiesUnder path b ∧ ¬ Skips b path := by
  rw [isUnderAny, List.any_eq_true]
  simp only [isUnder_iff]

/-- A path is under none of the bases where each of them that covers it is skipped. -/
theorem isUnderAny_eq_false_iff :
    isUnderAny path bases = false ↔ ∀ b ∈ bases, LiesUnder path b → Skips b path := by
  rw [← Bool.not_eq_true, isUnderAny_iff]
  simp only [not_exists, not_and, not_not]

/-- What lies under a base lies under each base that is the same but for slashes at the end. -/
theorem exists_liesUnder_iff (same : others.map bare = bases.map bare) :
    (∃ b ∈ others, LiesUnder path b) ↔ ∃ b ∈ bases, LiesUnder path b := by
  have bares (l : List String) : (∃ b ∈ l, LiesUnder path b) ↔
      ∃ c ∈ l.map bare, path = c ∨ ∃ r, path = c ++ "/" ++ r := by
    simp [LiesUnder]
  rw [bares, bares, same]

end Address

namespace Settings

open Address (LiesUnder Skips bare)

/-- The path is to be protected: it lies under a protected base and under no public one. -/
def Guards (s : Settings) (path : String) : Prop :=
  (¬ ∃ b ∈ s.publicPaths, LiesUnder path b) ∧ ∃ b ∈ s.protectedPaths, LiesUnder path b

/-- The path is to be protected, but every protected base that it lies under skips it. -/
structure Exposes (s : Settings) (path : String) : Prop where
  guarded : s.Guards path
  skipped : ∀ b ∈ s.protectedPaths, LiesUnder path b → Skips b path

/-- The path is to be open, but every public base that it lies under skips it, and some protected
one does not. -/
structure Shuts (s : Settings) (path : String) : Prop where
  opened : ∃ b ∈ s.publicPaths, LiesUnder path b
  skipped : ∀ b ∈ s.publicPaths, LiesUnder path b → Skips b path
  covered : ∃ b ∈ s.protectedPaths, LiesUnder path b ∧ ¬ Skips b path

/-- The slashes at the end of the bases decide on the path. -/
def Misjudges (s : Settings) (path : String) : Prop :=
  s.Exposes path ∨ s.Shuts path

/-- The bases are the same but for slashes at their ends. -/
structure SameBases (t s : Settings) : Prop where
  publicPaths : t.publicPaths.map bare = s.publicPaths.map bare
  protectedPaths : t.protectedPaths.map bare = s.protectedPaths.map bare

variable {s t : Settings} {path : String}

/-- Slashes at the ends of the bases do not change what the settings guard. -/
theorem SameBases.guards_iff (h : t.SameBases s) : t.Guards path ↔ s.Guards path := by
  rw [Guards, Guards, Address.exists_liesUnder_iff h.publicPaths,
    Address.exists_liesUnder_iff h.protectedPaths]

/-- **The decision is the right one** unless the path is misjudged, and the wrong one if it is. -/
theorem isProtected_iff_guards (s : Settings) (path : String) :
    (s.isProtected path = true ↔ s.Guards path) ↔ ¬ s.Misjudges path := by
  rw [isProtected]
  cases opened : Address.isUnderAny path s.publicPaths with
  | true =>
    obtain ⟨b, hb, under, covers⟩ := Address.isUnderAny_iff.1 opened
    have unguarded : ¬ s.Guards path := fun guards => guards.1 ⟨b, hb, under⟩
    have judged : ¬ s.Misjudges path := by
      rintro (exposes | shuts)
      · exact unguarded exposes.guarded
      · exact covers (shuts.skipped b hb under)
    simp [unguarded, judged]
  | false =>
    have skipped := Address.isUnderAny_eq_false_iff.1 opened
    cases closed : Address.isUnderAny path s.protectedPaths with
    | true =>
      obtain ⟨b, hb, under, covers⟩ := Address.isUnderAny_iff.1 closed
      have guards : s.Guards path ↔ ¬ ∃ b ∈ s.publicPaths, LiesUnder path b :=
        ⟨And.left, fun free => ⟨free, b, hb, under⟩⟩
      have misjudges : s.Misjudges path ↔ ∃ b ∈ s.publicPaths, LiesUnder path b := by
        refine ⟨?_, fun opened => .inr ⟨opened, skipped, b, hb, under, covers⟩⟩
        rintro (exposes | shuts)
        · exact absurd (exposes.skipped b hb under) covers
        · exact shuts.opened
      rw [guards, misjudges]
      simp
    | false =>
      have misjudges : s.Misjudges path ↔ s.Guards path := by
        refine ⟨?_, fun guards => .inl ⟨guards, Address.isUnderAny_eq_false_iff.1 closed⟩⟩
        rintro (exposes | ⟨-, -, b, hb, under, covers⟩)
        · exact exposes.guarded
        · exact absurd (Address.isUnderAny_eq_false_iff.1 closed b hb under) covers
      rw [misjudges]
      simp

/-- **When the slashes at the end of a base matter.**  The decision on a path is the one that the
bases without their slashes give, unless the path is misjudged.  Settings with the same bases but
for slashes at their ends decide alike exactly if both misjudge the path or neither does. -/
theorem isProtected_iff_not_misjudges (s : Settings) (path : String) :
    ((s.isProtected path = true ↔ s.Guards path) ↔ ¬ s.Misjudges path) ∧
      ∀ t : Settings, t.SameBases s →
        (t.isProtected path = s.isProtected path ↔ (t.Misjudges path ↔ s.Misjudges path)) := by
  have here := isProtected_iff_guards s path
  refine ⟨here, fun t same => ?_⟩
  have there := isProtected_iff_guards t path
  rw [same.guards_iff] at there
  rw [Bool.eq_iff_iff]
  by_cases guarded : s.Guards path
  · simp only [guarded, iff_true] at here there
    rw [here, there, not_iff_not]
  · simp only [guarded, iff_false, not_iff_not] at here there
    rw [here, there]

/-- A slash at the end of a base is what opens the base. -/
theorem isProtected_iff_not_misjudges_small :
    let s : Settings := { protectedPaths := ["/api"] }
    let t : Settings := { protectedPaths := ["/api/"] }
    t.SameBases s ∧ t.isProtected "/api" ≠ s.isProtected "/api" ∧
      ¬ (t.Misjudges "/api" ↔ s.Misjudges "/api") := by
  intro s t
  have same : t.SameBases s := ⟨rfl, by decide +kernel⟩
  have apart : t.isProtected "/api" ≠ s.isProtected "/api" := by decide +kernel
  have decides := (isProtected_iff_not_misjudges s "/api").2 t same
  exact ⟨same, apart, fun alike => apart (decides.2 alike)⟩

/-- A protected base is left open where it is written with a slash at its end, and so the slash
changes the decision. -/
theorem unprotected_base :
    (¬ ∀ (s : Settings) (path : String), s.isProtected path = true ↔ s.Guards path) ∧
      ¬ ∀ (s t : Settings) (path : String), t.SameBases s →
        t.isProtected path = s.isProtected path := by
  constructor
  · intro claim
    have guarded : ({ protectedPaths := ["/api/"] } : Settings).Guards "/api" := by
      constructor <;> decide +kernel
    exact absurd ((claim _ _).2 guarded) (by decide +kernel)
  · intro claim
    have same := claim { protectedPaths := ["/api"] } { protectedPaths := ["/api/"] } "/api"
      ⟨rfl, by decide +kernel⟩
    exact absurd same (by decide +kernel)

end Settings
end LoginGate
