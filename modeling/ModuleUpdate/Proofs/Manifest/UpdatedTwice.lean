import ModuleUpdate.Proofs.Manifest.Lending
import ModuleUpdate.Proofs.Manifest.Sortable

namespace ModuleUpdate.Manifest

/-!
# Updating a manifest twice

A batch that goes over the manifest that its own formatted text is read as leads to the same text
again.  Modules that the batch requires and drops again pass through the manifest, and every other
line of it is adjusted already.  So its lines are in order, and they can be sorted again.
-/

variable {manifest again : Manifest} {dependencies : List Dependency}

/-- The paths that a batch moves away from. -/
def MovesFrom (dependencies : List Dependency) (path : Text) : Prop :=
  ∃ dependency ∈ dependencies, dependency.majorUpgradeFrom? = some path

/-- The updated manifest, once it is read back, is a base for the same batch. -/
private theorem isBase_reread
    (sound : manifest.IsSound)
    (accepted : ∀ dependency ∈ dependencies, dependency.IsAccepted)
    (inOrder : Dependency.AreInOrder dependencies)
    (againSound : again.IsSound)
    (same :
      again.directives.map (Directive.bare ∘ Directive.unnumbered) =
        (manifest.updated dependencies).canonical.directives.map
          (Directive.bare ∘ Directive.unnumbered)) :
    again.IsBase (MovesFrom dependencies) dependencies := by
  have saysSame : (again.said .require).Perm ((manifest.updated dependencies).said .require) := by
    rw [said_of_reread same]
    exact said_canonical _ _
  have sameRequires : ∀ path,
      again.Requires path ↔ (manifest.updated dependencies).Requires path := by
    intro path
    simp only [requires_iff_said, saysSame.mem_iff]
  refine ⟨fun directive member isRequire => ?_, ?_, fun dependency isDependency => ?_⟩
  · obtain ⟨name, _, _, requires⟩ := exists_requires againSound.isConsistent member isRequire
    refine ⟨name.value, ?_, requires⟩
    rintro ⟨dependency, isDependency, moves⟩
    obtain ⟨original, isOriginal, originalRequires⟩ :=
      (sameRequires name.value).mp ⟨directive, member, requires⟩
    rw [not_requires_updated sound accepted inOrder isDependency moves isOriginal]
      at originalRequires
    cases originalRequires
  · exact fun dependency isDependency old moves => ⟨dependency, isDependency, moves⟩
  · by_cases passes : MovesFrom dependencies dependency.name
    · exact .inl passes
    · refine .inr ((sameRequires dependency.name).mpr ?_)
      refine requires_updated sound accepted (.inr ⟨dependency, isDependency, rfl⟩) ?_
      exact fun other isOther moves => passes ⟨other, isOther, moves⟩

/--
A batch that is applied again, to what the formatted text of its first result is read as, adds
nothing but requirements that it drops again.
-/
private theorem grows_updated_again
    (sound : manifest.IsSound)
    (accepted : ∀ dependency ∈ dependencies, dependency.IsAccepted)
    (inOrder : Dependency.AreInOrder dependencies)
    (once : manifest.MarksOnce dependencies)
    (lends : (manifest.updated dependencies).LendsUnmarked dependencies)
    (reread : Manifest.ofText (manifest.updated dependencies).format = .ok again)
    (same :
      again.directives.map (Directive.bare ∘ Directive.unnumbered) =
        (manifest.updated dependencies).canonical.directives.map
          (Directive.bare ∘ Directive.unnumbered)) :
    again.Grows (MovesFrom dependencies) (again.updated dependencies) ∧
      ∀ directive ∈ (again.updated dependencies).directives,
        ∀ path, MovesFrom dependencies path → directive.requires path = false := by
  have againSound := isSound_ofText reread
  have isBase := isBase_reread sound accepted inOrder againSound same
  have grows := (grows_refl again).updated isBase againSound accepted
  have adjusted : again.mapRequirements (Dependency.adjustAll dependencies) = again :=
    mapRequirements_eq_self fun directive =>
      adjustAll_reread sound accepted once lends same
  rw [adjusted] at grows
  refine ⟨grows, ?_⟩
  rintro directive member path ⟨dependency, isDependency, moves⟩
  exact not_requires_updated againSound accepted inOrder isDependency moves member

/--
A batch that is applied again, to what the formatted text of its first result is read as, leads to
lines that can be sorted, and to the same formatted text.
-/
theorem format_updated_again
    (sound : manifest.IsSound)
    (accepted : ∀ dependency ∈ dependencies, dependency.IsAccepted)
    (inOrder : Dependency.AreInOrder dependencies)
    (once : manifest.MarksOnce dependencies)
    (lends : (manifest.updated dependencies).LendsUnmarked dependencies)
    (reread : Manifest.ofText (manifest.updated dependencies).format = .ok again) :
    (again.updated dependencies).isSortable = true ∧
      (again.updated dependencies).format = (manifest.updated dependencies).format := by
  obtain ⟨found, isFound, same, isCanonical, sameText⟩ :=
    exists_reread (isSound_updated sound accepted)
  obtain rfl : found = again := Except.ok.inj (isFound.symm.trans reread)
  obtain ⟨grows, nonePasses⟩ :=
    grows_updated_again sound accepted inOrder once lends reread same
  have areCanonical : Statement.AreCanonical found.statements :=
    isCanonical ▸ found.areCanonical_canonical
  have areTight := Statement.areTight_of_areReadable (isSound_ofText reread).readable
  refine ⟨grows.isSortable (isSortable_of_areCanonical areCanonical) nonePasses, ?_⟩
  rw [format, grows.canonical_eq areTight nonePasses, isCanonical, sameText]

end ModuleUpdate.Manifest
