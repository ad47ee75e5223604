import ModuleUpdate.Proofs.Manifest.Revisions

namespace ModuleUpdate

/-!
# Requirements as entries of an ordered map

Requirements stand in a row, one for each required module.  Requiring a module gives its entry
another version where it stands, or adds an entry behind all others.  Dropping a module takes its
entry away, and marking changes nothing but a marker.  The other entries stay as they are, and so
does what the manifest says beside its requirements.
-/

namespace Requirement

/-- The entries with one module's entry changed. -/
def adjust
    (path : Text)
    (effect : Requirement → Requirement)
    (requirements : List Requirement) :
    List Requirement :=
  requirements.map fun requirement =>
    if requirement.path = path then effect requirement else requirement

/-- The entries with a module at a version, in the place it has or behind all others. -/
def assign (path version : Text) (requirements : List Requirement) : List Requirement :=
  if requirements.any fun requirement => requirement.path = path then
    adjust path (fun requirement => { requirement with version }) requirements
  else
    requirements ++ [{ path, version, indirect := false, line := 0 }]

theorem any_path_iff
    {path : Text}
    {requirements : List Requirement} :
    (requirements.any fun requirement => requirement.path = path) = true ↔
      path ∈ requirements.map Requirement.path := by
  simp

/-- The entries of other modules stay. -/
private theorem adjust_of_not_mem
    {path : Text}
    {requirements : List Requirement}
    (absent : path ∉ requirements.map Requirement.path)
    (effect : Requirement → Requirement) :
    adjust path effect requirements = requirements := by
  have others : ∀ requirement ∈ requirements,
      (if requirement.path = path then effect requirement else requirement) = requirement := by
    intro requirement member
    rw [if_neg]
    rintro rfl
    exact absent (List.mem_map_of_mem member)
  exact (List.map_congr_left others).trans (List.map_id' requirements)

/-- Where no module has two entries, one place is changed. -/
theorem adjust_append_cons
    {path : Text}
    {entry : Requirement}
    {front behind : List Requirement}
    (distinct : ((front ++ entry :: behind).map Requirement.path).Nodup)
    (isPath : entry.path = path)
    (effect : Requirement → Requirement) :
    adjust path effect (front ++ entry :: behind) = front ++ effect entry :: behind := by
  rw [List.map_append, List.map_cons, isPath, List.nodup_append, List.nodup_cons] at distinct
  obtain ⟨_, ⟨notBehind, _⟩, apart⟩ := distinct
  have notInFront : path ∉ front.map Requirement.path :=
    fun member => apart path member path List.mem_cons_self rfl
  have frontStays := adjust_of_not_mem notInFront effect
  have behindStays := adjust_of_not_mem notBehind effect
  simp only [adjust] at frontStays behindStays ⊢
  rw [List.map_append, List.map_cons, frontStays, behindStays, if_pos isPath]

end Requirement

namespace Manifest

variable {manifest changed : Manifest}

theorem map_path_requirements (manifest : Manifest) :
    manifest.requirements.map Requirement.path = manifest.required.map Prod.fst := by
  simp only [required, List.map_map]
  rfl

/-- A changed line changes the entry of one module. -/
theorem requirements_changeRequirement?
    {path : Text}
    {change : Line → Line}
    (consistent : manifest.IsConsistent)
    (found : manifest.changeRequirement? path change = some changed) :
    path ∈ manifest.requirements.map Requirement.path ∧
      ∃ line : Line,
        line.requires path = true ∧
          ∀ effect : Requirement → Requirement,
            (∀ entry,
              Directive.requirement? { verb := .require, line } = some entry →
                Directive.requirement? { verb := .require, line := change line } =
                  some (effect entry)) →
              changed.requirements = Requirement.adjust path effect manifest.requirements := by
  obtain ⟨front, line, behind, before, isRequired, after⟩ := directives_changeRequirement? found
  obtain ⟨entry, states, isPath⟩ :
      ∃ entry,
        Directive.requirement? { verb := .require, line } = some entry ∧ entry.path = path :=
    Directive.requires_iff_requirement?.mp (by simp [Directive.requires, isRequired])
  have split :
      manifest.requirements =
        front.filterMap Directive.requirement? ++
          entry :: behind.filterMap Directive.requirement? := by
    rw [requirements, before, List.filterMap_append, List.filterMap_cons_some states]
  have distinct := consistent.distinct
  rw [← map_path_requirements, split] at distinct
  refine ⟨by simp [split, isPath], line, isRequired, fun effect changes => ?_⟩
  rw [split, Requirement.adjust_append_cons distinct isPath, requirements, after,
    List.filterMap_append, List.filterMap_cons_some (changes entry states)]

/-- Requiring a required module changes the version of its entry. -/
theorem requirements_withVersion
    {path version : Text}
    (consistent : manifest.IsConsistent)
    (found : manifest.changeRequirement? path (Line.withVersion version) = some changed) :
    changed.requirements = Requirement.assign path version manifest.requirements := by
  obtain ⟨isEntry, line, isRequired, adjusts⟩ := requirements_changeRequirement? consistent found
  obtain ⟨name, old, same, _⟩ := Line.requires_iff.mp isRequired
  rw [Requirement.assign, if_pos (Requirement.any_path_iff.mpr isEntry)]
  refine adjusts _ fun entry states => ?_
  simp only [Directive.requirement?, Directive.pathAndVersion?, same, Line.withVersion, if_true,
    Option.map_some, Option.some_inj, Token.value_ofValue] at states ⊢
  rw [← states]

/-- Marking a requirement changes the marker of its entry. -/
theorem requirements_withIndirect
    {path : Text}
    {indirect : Bool}
    (consistent : manifest.IsConsistent)
    (found : manifest.changeRequirement? path (Line.withIndirect indirect) = some changed) :
    ∃ marker,
      changed.requirements =
        Requirement.adjust path (fun entry => { entry with indirect := marker })
          manifest.requirements := by
  obtain ⟨_, line, isRequired, adjusts⟩ := requirements_changeRequirement? consistent found
  obtain ⟨name, version, same, _⟩ := Line.requires_iff.mp isRequired
  refine
    ⟨(Clauses.ofComment (line.withIndirect indirect).comments.trailing).isIndirect,
      adjusts _ fun entry states => ?_⟩
  simp only [Directive.requirement?, Directive.pathAndVersion?, same, Line.withIndirect, if_true,
    Option.map_some, Option.some_inj] at states ⊢
  rw [← states]

/-- Two manifests exclude and replace the same and name the same module, language and toolchain. -/
structure AgreesBeside (before after : Manifest) : Prop where
  exclusions : after.exclusions = before.exclusions
  replacements : after.replacements = before.replacements
  mainModule : after.value? .mainModule = before.value? .mainModule
  language : after.value? .language = before.value? .language
  toolchain : after.value? .toolchain = before.value? .toolchain

theorem KeepsOthers.agreesBeside (keeps : manifest.KeepsOthers changed) :
    manifest.AgreesBeside changed where
  exclusions := by rw [exclusions_eq, exclusions_eq manifest, keeps .exclude (by decide)]
  replacements := by rw [replacements_eq, replacements_eq manifest, keeps .replace (by decide)]
  mainModule := by rw [value?_eq, value?_eq manifest, keeps .mainModule (by decide)]
  language := by rw [value?_eq, value?_eq manifest, keeps .language (by decide)]
  toolchain := by rw [value?_eq, value?_eq manifest, keeps .toolchain (by decide)]

/-- Requiring a module at a version that is not valid is refused. -/
theorem require_eq_error
    (manifest : Manifest)
    (path : Text)
    {version : Text}
    (invalid : Version.isValid version = false) :
    manifest.require path version = .error (.invalidVersion path version) := by
  simp [require, invalid]

/-- Requiring a module at a valid version sets its entry and nothing else. -/
theorem exists_assigned
    (consistent : manifest.IsConsistent)
    (path : Text)
    {version : Text}
    (valid : Version.isValid version = true) :
    ∃ changed,
      manifest.require path version = .ok changed ∧
        changed.requirements = Requirement.assign path version manifest.requirements ∧
        manifest.AgreesBeside changed := by
  simp only [require]
  rw [if_pos valid]
  cases found : manifest.changeRequirement? path (Line.withVersion version) with
  | some changed =>
      exact
        ⟨changed, rfl, requirements_withVersion consistent found,
          (keepsOthers_changeRequirement? found).agreesBeside⟩
  | none =>
      have absent : path ∉ manifest.requirements.map Requirement.path := by
        rw [map_path_requirements]
        exact not_mem_required fun directive => not_requires_of_changeRequirement? found
      refine
        ⟨manifest.addRequirement path version, rfl, ?_,
          (keepsOthers_addRequirement manifest path version).agreesBeside⟩
      rw [requirements_addRequirement, Requirement.assign,
        if_neg fun isEntry => absent (Requirement.any_path_iff.mp isEntry)]

/-- What is required is required at a valid version. -/
theorem isValid_of_mem_requirements
    (consistent : manifest.IsConsistent)
    {requirement : Requirement}
    (member : requirement ∈ manifest.requirements) :
    Version.isValid requirement.version = true := by
  obtain ⟨directive, isDirective, states⟩ := List.mem_filterMap.mp member
  have faultless := consistent.faultless directive isDirective
  obtain ⟨_, isPair, rfl⟩ := Option.map_eq_some_iff.mp states
  simp only [Directive.pathAndVersion?] at isPair
  split at isPair
  · next path version same =>
      split at isPair
      · next isRequire =>
          cases isPair
          simpa [Directive.fault?, isRequire, same] using faultless
      · cases isPair
  · cases isPair

/--
A manifest that is an ordered map from modules to requirements at valid versions.  Requiring a
module at a version that is not valid is refused, and a valid one sets the module's entry.
Dropping a module takes its entry away, and marking changes at most its marker.  What the manifest
says beside its requirements stays.
-/
structure IsOrderedMap (manifest : Manifest) : Prop where
  distinct : (manifest.requirements.map Requirement.path).Nodup
  valid : ∀ entry ∈ manifest.requirements, Version.isValid entry.version = true
  refused : ∀ path version,
    Version.isValid version = false →
      manifest.require path version = .error (.invalidVersion path version) ∧
        Revision.apply manifest (.require path version) = manifest
  assigned : ∀ path version,
    Version.isValid version = true →
      ∃ changed,
        manifest.require path version = .ok changed ∧
          changed.requirements = Requirement.assign path version manifest.requirements ∧
          manifest.AgreesBeside changed
  dropped : ∀ path,
    (manifest.drop path).requirements =
        manifest.requirements.filter (fun entry => entry.path ≠ path) ∧
      manifest.AgreesBeside (manifest.drop path)
  marked : ∀ path indirect changed,
    manifest.markIndirect? path indirect = some changed →
      (∃ marker,
        changed.requirements =
          Requirement.adjust path (fun entry => { entry with indirect := marker })
            manifest.requirements) ∧
        manifest.AgreesBeside changed

theorem isOrderedMap (consistent : manifest.IsConsistent) : manifest.IsOrderedMap where
  distinct := by
    rw [map_path_requirements]
    exact consistent.distinct
  valid _ := isValid_of_mem_requirements consistent
  refused path version invalid := by
    have refused := require_eq_error manifest path invalid
    exact ⟨refused, by rw [Revision.apply, refused]⟩
  assigned path _ := exists_assigned consistent path
  dropped path :=
    ⟨requirements_drop consistent path, (keepsOthers_drop consistent path).agreesBeside⟩
  marked _ _ _ found :=
    ⟨requirements_withIndirect consistent found,
      (keepsOthers_changeRequirement? found).agreesBeside⟩

/-- A manifest that was read is an ordered map through any revisions. -/
theorem isOrderedMap_revised
    {text : Text}
    {manifest : Manifest}
    (read : Manifest.ofText text = .ok manifest)
    (revisions : List Revision) :
    (manifest.revised revisions).IsOrderedMap :=
  isOrderedMap (isConsistent_revised (isSound_ofText read).isConsistent revisions)

/-- A requirement that stands alone, and two in a block, one of them quoted. -/
private def scatteredText : Text :=
  ("module m.io/m\n\nrequire m.io/a v1.0.0 // indirect\n\n" ++
    "require (\n\t\"m.io/b\" v1.1.0\n\tm.io/c v1.2.0\n)\n\nexclude m.io/a v1.0.1\n").toList

/-- The block is left with one line, becomes a single directive, and is a block again. -/
private def scatteringRevisions : List Revision :=
  [.drop "m.io/c".toList, .sort, .tidy, .require "m.io/d".toList "v0.1.0".toList]

/-- The entries after these revisions, which a new version of the first one leaves in place. -/
theorem isOrderedMap_revised_scattered :
    ∃ manifest changed,
      Manifest.ofText scatteredText = .ok manifest ∧
        (manifest.revised scatteringRevisions).require "m.io/a".toList "v1.0.2".toList =
          .ok changed ∧
        changed.requirements =
          [{ path := "m.io/a".toList, version := "v1.0.2".toList, indirect := true, line := 3 },
            { path := "m.io/b".toList, version := "v1.1.0".toList, indirect := false, line := 6 },
            { path := "m.io/d".toList, version := "v0.1.0".toList, indirect := false, line := 0 }] ∧
        changed.exclusions = [{ path := "m.io/a".toList, version := "v1.0.1".toList }] := by
  have reached :
      (Manifest.ofText scatteredText).map (fun manifest =>
        ((manifest.revised scatteringRevisions).requirements,
          (manifest.revised scatteringRevisions).exclusions)) =
      .ok
        ([{ path := "m.io/a".toList, version := "v1.0.0".toList, indirect := true, line := 3 },
            { path := "m.io/b".toList, version := "v1.1.0".toList, indirect := false, line := 6 },
            { path := "m.io/d".toList, version := "v0.1.0".toList, indirect := false,
              line := 0 }],
          [{ path := "m.io/a".toList, version := "v1.0.1".toList }]) := by
    decide +kernel
  cases read : Manifest.ofText scatteredText with
  | error error =>
      rw [read] at reached
      cases reached
  | ok manifest =>
      obtain ⟨changed, required, entries, agrees⟩ :=
        (isOrderedMap_revised read scatteringRevisions).assigned "m.io/a".toList
          "v1.0.2".toList (by decide +kernel)
      simp only [read, Except.map, Except.ok.injEq, Prod.mk.injEq] at reached
      refine ⟨manifest, changed, rfl, required, ?_, agrees.exclusions.trans reached.2⟩
      rw [entries, reached.1]
      decide

end Manifest

end ModuleUpdate
