import ModuleUpdate.Proofs.Manifest.Growing

namespace ModuleUpdate

/-!
# Requirements that come and go

A requirement that is added and dropped again leaves no trace in the formatted text, and one that
is added at two versions in turn is the one added at the second.  A manifest in memory may well
show a trace: its last requirement stays the only line of a block.  Only the canonical form takes
the parentheses away, and it leaves out blank lines above what is left.  So it matters that
revisions keep no blank line above a directive that stands alone.
-/

namespace Content

/-- Changing a requirement puts no blank line above a directive. -/
theorem isTight_changeRequirement?
    {path : Text}
    {change : Line → Line}
    (keeps : ∀ line, (change line).comments.before = line.comments.before)
    {content changed : Content}
    (isTight : content.IsTight)
    (found : content.changeRequirement? path change = some changed) :
    changed.IsTight := by
  simp only [changeRequirement?] at found
  split at found
  · split at found
    · cases found
      simpa [IsTight, keeps] using isTight
    · cases found
  · split at found
    · obtain ⟨lines, _, rfl⟩ := Option.map_eq_some_iff.mp found
      trivial
    · cases found
  · cases found

/-- Adding a requirement puts no blank line above a directive. -/
theorem isTight_addRequirement?
    {added : Line}
    {content changed : Content}
    (found : content.addRequirement? added = some changed) :
    changed.IsTight := by
  simp only [addRequirement?] at found
  split at found
  · cases found
    trivial
  · split at found
    · cases found
      trivial
    · cases found
  · cases found

/-- Dropping a module puts no blank line above a directive. -/
theorem isTight_dropRequirement?
    {path : Text}
    {content changed : Content}
    (isTight : content.IsTight)
    (kept : content.dropRequirement? path = some changed) :
    changed.IsTight := by
  simp only [dropRequirement?] at kept
  split at kept
  · split at kept
    · cases kept
    · cases kept
      exact isTight
  · split at kept <;> cases kept <;> trivial
  · cases kept
    exact isTight

theorem isTight_sorted
    {content : Content}
    (isTight : content.IsTight) :
    content.sorted.IsTight := by
  cases content with
  | directive verb line => exact isTight
  | remark comments => trivial
  | block group => trivial

/-- Tidying puts no blank line above a directive. -/
theorem isTight_tidied?
    {content tidied : Content}
    (isTight : content.IsTight)
    (kept : content.tidied? = some tidied) :
    tidied.IsTight := by
  cases content with
  | directive verb line =>
      cases kept
      exact isTight
  | remark comments =>
      cases kept
      trivial
  | block group =>
      simp only [tidied?] at kept
      split at kept
      · cases kept
      · split at kept
        · next collapsed single =>
            cases kept
            obtain ⟨line, _, rfl⟩ := Block.collapsed?_eq_some_iff.mp single
            simp [IsTight, Block.collapsedTo]
        · cases kept
          trivial

end Content

namespace Manifest

variable {manifest : Manifest} {path : Text}

theorem areTight_changeRequirement?
    {change : Line → Line}
    (keeps : ∀ line, (change line).comments.before = line.comments.before)
    (areTight : Statement.AreTight manifest.statements)
    {changed : Manifest}
    (found : manifest.changeRequirement? path change = some changed) :
    Statement.AreTight changed.statements := by
  obtain ⟨statements, within, rfl⟩ := Option.map_eq_some_iff.mp found
  obtain ⟨front, before, after, behind, split, step, rfl⟩ := changeFirst?_eq_some within
  obtain ⟨content, stepped, rfl⟩ := Option.map_eq_some_iff.mp step
  rw [split] at areTight
  exact forall_of_change areTight fun isTight =>
    Content.isTight_changeRequirement? keeps isTight stepped

theorem areTight_addRequirement
    (areTight : Statement.AreTight manifest.statements)
    (path version : Text) :
    Statement.AreTight (manifest.addRequirement path version).statements := by
  unfold addRequirement
  dsimp only
  split
  · next statements found =>
      obtain ⟨front, before, after, behind, split, step, _, rfl⟩ := changeLast?_eq_some found
      obtain ⟨content, stepped, rfl⟩ := Option.map_eq_some_iff.mp step
      rw [split] at areTight
      exact forall_of_change areTight fun _ => Content.isTight_addRequirement? stepped
  · refine List.forall_mem_append.mpr ⟨areTight, List.forall_mem_singleton.mpr ?_⟩
    simp [Content.IsTight, Line.ofRequirement]

/-- One revision puts no blank line above a directive that stands alone. -/
theorem areTight_apply
    (areTight : Statement.AreTight manifest.statements)
    (revision : Revision) :
    Statement.AreTight (Revision.apply manifest revision).statements := by
  cases revision with
  | require path version =>
      simp only [Revision.apply, require]
      by_cases valid : Version.isValid version = true
      · rw [if_pos valid]
        cases found : manifest.changeRequirement? path (Line.withVersion version) with
        | some changed =>
            exact areTight_changeRequirement? (Line.before_withVersion version) areTight found
        | none => exact areTight_addRequirement areTight path version
      · rw [if_neg valid]
        exact areTight
  | drop path =>
      intro statement member
      obtain ⟨before, isBefore, step⟩ := List.mem_filterMap.mp member
      obtain ⟨content, stepped, rfl⟩ := Option.map_eq_some_iff.mp step
      exact Content.isTight_dropRequirement? (areTight before isBefore) stepped
  | markIndirect path indirect =>
      simp only [Revision.apply]
      cases found : manifest.markIndirect? path indirect with
      | none => exact areTight
      | some changed =>
          exact areTight_changeRequirement? (Line.before_withIndirect indirect) areTight found
  | sort =>
      intro statement member
      obtain ⟨original, isOriginal, rfl⟩ := List.mem_map.mp member
      exact Content.isTight_sorted (areTight original isOriginal)
  | tidy =>
      intro statement member
      obtain ⟨before, isBefore, step⟩ := List.mem_filterMap.mp member
      obtain ⟨content, stepped, rfl⟩ := Option.map_eq_some_iff.mp step
      exact Content.isTight_tidied? (areTight before isBefore) stepped

/-- Revisions put no blank line above a directive that stands alone. -/
theorem areTight_revised
    (areTight : Statement.AreTight manifest.statements)
    (revisions : List Revision) :
    Statement.AreTight (manifest.revised revisions).statements := by
  induction revisions generalizing manifest with
  | nil => exact areTight
  | cons revision following inductionHypothesis =>
      exact inductionHypothesis (areTight_apply areTight revision)

/-- A manifest does not require a module where none of its directives does. -/
theorem not_requires_iff :
    ¬manifest.Requires path ↔
      ∀ directive ∈ manifest.directives, directive.requires path = false := by
  simp [Requires]

/-- A module has no requirement exactly if it is not required. -/
theorem requirement?_eq_none_iff : manifest.requirement? path = none ↔ ¬manifest.Requires path := by
  simp only [requirement?, requirements, Requires, List.find?_eq_none, List.mem_filterMap,
    Directive.requires_iff_requirement?, beq_iff_eq]
  constructor
  · rintro none ⟨directive, member, requirement, states, same⟩
    exact none requirement ⟨directive, member, states⟩ same
  · rintro notRequired requirement ⟨directive, member, states⟩ same
    exact notRequired ⟨directive, member, requirement, states, same⟩

/-- A module that is not required is required by a new line. -/
theorem require_eq_addRequirement
    (consistent : manifest.IsConsistent)
    (notRequired : ¬manifest.Requires path)
    {version : Text}
    (valid : Version.isValid version = true) :
    manifest.require path version = .ok (manifest.addRequirement path version) := by
  have absent := not_requires_iff.mp notRequired
  have noneRequires : ¬manifest.directives.any (Directive.requires path) = true := by
    simpa using absent
  rw [require_eq consistent valid, withRequirement, if_neg noneRequires,
    mapRequirements_addRequirement absent]

/-- A manifest that does not require a module is a base while that module passes. -/
theorem isBase_of_not_requires
    (consistent : manifest.IsConsistent)
    (notRequired : ¬manifest.Requires path) :
    manifest.IsBase (· = path) [] where
  requirements directive member isRequire := by
    obtain ⟨name, _, _, requires⟩ := exists_requires consistent member isRequire
    exact ⟨name.value, fun same => notRequired ⟨directive, member, same ▸ requires⟩, requires⟩
  drops _ member := nomatch member
  asks _ member := nomatch member

/-- The canonical form shows nothing of a requirement that is added and dropped again. -/
theorem canonical_drop_addRequirement
    (consistent : manifest.IsConsistent)
    (areTight : Statement.AreTight manifest.statements)
    (notRequired : ¬manifest.Requires path)
    {version : Text}
    (valid : Version.isValid version = true) :
    ((manifest.addRequirement path version).drop path).canonical = manifest.canonical := by
  have addedConsistent :=
    isConsistent_addRequirement consistent valid (not_requires_iff.mp notRequired)
  have grown : manifest.Grows (· = path) (manifest.addRequirement path version) := by
    refine Grows.add ?_ version manifest.grows_refl
    rfl
  have dropped := grown.drop ((isBase_of_not_requires consistent notRequired).keeps rfl)
  refine dropped.canonical_eq areTight fun directive member passing same => ?_
  have left : directive ∈ (manifest.addRequirement path version).directives ∧
      ∀ other ∈ some path, directive.requires other = false :=
    mem_of_mem_dropped addedConsistent member
  exact left.2 passing (congrArg some same.symm)

/-- A requirement that is set to a version may have had any version before. -/
theorem mapRequirements_withRequirement (manifest : Manifest) (path first second : Text) :
    (manifest.withRequirement path first).mapRequirements
        (Line.changeAt path (Line.withVersion second)) =
      (manifest.withRequirement path second).mapRequirements
        (Line.changeAt path (Line.withVersion second)) := by
  simp only [withRequirement]
  split
  · rfl
  · next noneRequires =>
      have absent : ∀ directive ∈ manifest.directives, directive.requires path = false := by
        simpa using noneRequires
      rw [mapRequirements_addRequirement absent, mapRequirements_addRequirement absent]

/-- Requiring a module at one version and then at another is requiring it at the other. -/
theorem require_require
    (consistent : manifest.IsConsistent)
    (path : Text)
    {first second : Text}
    (firstValid : Version.isValid first = true)
    (secondValid : Version.isValid second = true) :
    ∃ once last,
      manifest.require path first = .ok once ∧
        once.require path second = .ok last ∧ manifest.require path second = .ok last := by
  let setFirst := Line.changeAt path (Line.withVersion first)
  let setSecond := Line.changeAt path (Line.withVersion second)
  let once := (manifest.withRequirement path first).mapRequirements setFirst
  have onceConsistent : once.IsConsistent := by
    have revisedConsistent := Revision.isConsistent_apply consistent (.require path first)
    rwa [apply_require consistent firstValid] at revisedConsistent
  have onceRequires : once.directives.any (Directive.requires path) = true := by
    have required := (requires_withRequirement manifest path first).1
    rw [List.any_eq_true]
    exact (requires_mapRequirements fun line => by
      simp only [setFirst, Line.changeAt]
      split <;> simp).mpr required
  have secondWins : ∀ line, setSecond (setFirst line) = setSecond line := by
    intro line
    by_cases isRequired : line.requires path = true
    · simp [setFirst, setSecond, Line.changeAt, isRequired]
    · simp [setFirst, setSecond, Line.changeAt, isRequired]
  refine
    ⟨once, once.mapRequirements setSecond, require_eq consistent firstValid path, ?_, ?_⟩
  · rw [require_eq onceConsistent secondValid, withRequirement, if_pos onceRequires]
  · have sameSecond : once.mapRequirements setSecond =
        (manifest.withRequirement path first).mapRequirements setSecond := by
      rw [mapRequirements_mapRequirements]
      simp only [secondWins]
    rw [require_eq consistent secondValid, sameSecond, Except.ok.injEq]
    exact (mapRequirements_withRequirement manifest path first second).symm

end Manifest

/--
However a manifest that was read is revised, a requirement that is added to it and dropped again
leaves no trace in its formatted text, and a requirement that is added at two versions in turn
leaves the manifest as if it was added at the second one only.
-/
theorem drop_of_require
    {text : Text}
    {manifest : Manifest}
    (read : Manifest.ofText text = .ok manifest)
    (revisions : List Manifest.Revision) :
    (∀ path version,
      (manifest.revised revisions).requirement? path = none →
        Version.isValid version = true →
          ∃ added,
            (manifest.revised revisions).require path version = .ok added ∧
              (added.drop path).format = (manifest.revised revisions).format) ∧
      ∀ path first second,
        Version.isValid first = true →
          Version.isValid second = true →
            ∃ once last,
              (manifest.revised revisions).require path first = .ok once ∧
                once.require path second = .ok last ∧
                (manifest.revised revisions).require path second = .ok last := by
  have sound := Manifest.isSound_ofText read
  have consistent := Manifest.isConsistent_revised sound.isConsistent revisions
  have areTight :=
    Manifest.areTight_revised (Statement.areTight_of_areReadable sound.readable) revisions
  constructor
  · intro path version noRequirement valid
    have notRequired := Manifest.requirement?_eq_none_iff.mp noRequirement
    refine ⟨_, Manifest.require_eq_addRequirement consistent notRequired valid, ?_⟩
    rw [Manifest.format, Manifest.format,
      Manifest.canonical_drop_addRequirement consistent areTight notRequired valid]
  · intro path first second firstValid secondValid
    exact Manifest.require_require consistent path firstValid secondValid

/-- A single requirement, spelled in quotes, with comments above and behind. -/
private def quotedText : Text :=
  "// kept\nrequire \"example.com/a\" v1.0.0 // pinned\n".toList

/-- What the text with the single requirement is read as. -/
private def quoted : Manifest where
  statements :=
    [{ content :=
        .directive .require
          { arguments := ["\"example.com/a\"".toList, "v1.0.0".toList]
            comments := { before := ["// kept".toList], trailing := some "// pinned".toList }
            number := 2 }
       blankBefore := false }]

/-- While a second module is required, the comment above stands above a block. -/
theorem drop_of_require_quoted :
    let marked := quoted.revised [.markIndirect "example.com/a".toList true]
    Manifest.ofText quotedText = .ok quoted ∧
      marked.format = "// kept\nrequire \"example.com/a\" v1.0.0 // indirect; pinned\n".toList ∧
      (∃ added,
        marked.require "b c".toList "v1.1.0".toList = .ok added ∧
          added.format =
              ("// kept\nrequire (\n\t\"b c\" v1.1.0\n" ++
                "\t\"example.com/a\" v1.0.0 // indirect; pinned\n)\n").toList ∧
            (added.drop "b c".toList).format = marked.format) ∧
      ∃ once last,
        marked.require "b c".toList "v1.1.0".toList = .ok once ∧
          once.require "b c".toList "v0.9.0".toList = .ok last ∧
          marked.require "b c".toList "v0.9.0".toList = .ok last := by
  intro marked
  have read : Manifest.ofText quotedText = .ok quoted := by decide +kernel
  obtain ⟨leavesNoTrace, secondWins⟩ :=
    drop_of_require read [.markIndirect "example.com/a".toList true]
  obtain ⟨added, required, sameText⟩ :=
    leavesNoTrace "b c".toList "v1.1.0".toList (by decide +kernel) (by decide +kernel)
  have addedText :
      (marked.require "b c".toList "v1.1.0".toList).toOption.map Manifest.format =
        some
          ("// kept\nrequire (\n\t\"b c\" v1.1.0\n" ++
            "\t\"example.com/a\" v1.0.0 // indirect; pinned\n)\n").toList := by
    decide +kernel
  rw [required] at addedText
  exact ⟨read, by decide +kernel, ⟨added, required, Option.some.inj addedText, sameText⟩,
    secondWins "b c".toList "v1.1.0".toList "v0.9.0".toList (by decide +kernel) (by decide +kernel)⟩

end ModuleUpdate
