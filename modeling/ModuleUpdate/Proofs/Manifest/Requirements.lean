import ModuleUpdate.Proofs.Lookup
import ModuleUpdate.Proofs.Manifest.Directives

namespace ModuleUpdate

/-!
# Requirements under edits

A sound manifest is a finite map from modules to versions.  Requiring a module sets one entry,
dropping a module erases one, and marking changes none.  Every edit keeps the manifest sound and
leaves what it says with other verbs as it was.
-/

/-- Whether a directive requires a module. -/
def Directive.requires (path : Text) (directive : Directive) : Bool :=
  directive.verb = .require && directive.line.requires path

namespace Line

/-- A line requires the module that it names in front of a version. -/
theorem requires_iff
    {path : Text}
    {line : Line} :
    line.requires path = true ↔
      ∃ name version, line.arguments = [name, version] ∧ Token.value name = path := by
  simp only [requires]
  split
  · next name version same => simp [same]
  · next other =>
      simp only [Bool.false_eq_true, false_iff]
      rintro ⟨name, version, same, _⟩
      exact other name version same

end Line

namespace Content

/-- A changed statement has one changed directive, which requires the module. -/
theorem directives_changeRequirement?
    {path : Text}
    {change : Line → Line}
    {content changed : Content}
    (found : content.changeRequirement? path change = some changed) :
    ∃ front line behind,
      content.directives = front ++ { verb := .require, line } :: behind ∧
        line.requires path = true ∧
        changed.directives = front ++ { verb := .require, line := change line } :: behind := by
  simp only [changeRequirement?] at found
  split at found
  · next line =>
      split at found
      · next isRequired =>
          cases found
          exact ⟨[], line, [], rfl, isRequired, rfl⟩
      · cases found
  · next group =>
      split at found
      · next isRequire =>
          obtain ⟨lines, within, rfl⟩ := Option.map_eq_some_iff.mp found
          obtain ⟨front, line, after, behind, split, step, rfl⟩ := changeFirst?_eq_some within
          split at step
          · next isRequired =>
              cases step
              refine
                ⟨front.map ({ verb := .require, line := · }), line,
                  behind.map ({ verb := .require, line := · }), ?_, isRequired, ?_⟩
              · simp [directives, split, isRequire]
              · simp [directives, isRequire]
          · cases step
      · cases found
  · cases found

/-- A statement that is not changed does not require the module. -/
theorem not_requires_of_changeRequirement?
    {path : Text}
    {change : Line → Line}
    {content : Content}
    (nothing : content.changeRequirement? path change = none)
    {directive : Directive}
    (member : directive ∈ content.directives)
    (isRequire : directive.verb = .require) :
    directive.line.requires path = false := by
  cases content with
  | directive verb line =>
      rw [directives, List.mem_singleton] at member
      subst member
      change verb = .require at isRequire
      subst isRequire
      simpa [changeRequirement?] using nothing
  | block group =>
      obtain ⟨line, inGroup, rfl⟩ := List.mem_map.mp member
      change group.verb = .require at isRequire
      simp only [changeRequirement?, isRequire, if_true, Option.map_eq_none_iff,
        changeFirst?_eq_none_iff] at nothing
      simpa using nothing line inGroup
  | remark comments => cases member

/-- A statement that takes a new requirement has it behind its directives. -/
theorem directives_addRequirement?
    {added : Line}
    {content changed : Content}
    (found : content.addRequirement? added = some changed) :
    changed.directives.map Directive.bare =
      content.directives.map Directive.bare ++
        [Directive.bare { verb := .require, line := added }] := by
  simp only [addRequirement?] at found
  split at found
  · cases found
    rfl
  · split at found
    · next isRequire =>
        cases found
        simp [directives, isRequire]
    · cases found
  · cases found

/-- A statement that takes no new requirement requires nothing. -/
theorem verb_ne_of_addRequirement?
    {added : Line}
    {content : Content}
    (nothing : content.addRequirement? added = none)
    {directive : Directive}
    (member : directive ∈ content.directives) :
    directive.verb ≠ .require := by
  cases content with
  | directive verb line =>
      rw [directives, List.mem_singleton] at member
      subst member
      rintro same
      change verb = .require at same
      subst same
      cases nothing
  | block group =>
      obtain ⟨line, inGroup, rfl⟩ := List.mem_map.mp member
      intro isRequire
      change group.verb = .require at isRequire
      simp [addRequirement?, isRequire] at nothing
  | remark comments => cases member

/--
The directives that are left when a module is dropped, as long as every requirement is a path and
a version.
-/
theorem directives_dropRequirement?
    {path : Text}
    {content : Content}
    (wellFormed : ∀ directive ∈ content.directives, directive.verb = .require →
      ∃ name version, directive.line.arguments = [name, version]) :
    (content.dropRequirement? path).elim [] directives =
      content.directives.filter fun directive => !directive.requires path := by
  cases content with
  | directive verb line =>
      by_cases isRequire : verb = .require
      · subst isRequire
        by_cases isRequired : line.requires path = true
        · simp [dropRequirement?, directives, Directive.requires, isRequired]
        · simp [dropRequirement?, directives, Directive.requires, isRequired]
      · have kept : dropRequirement? path (.directive verb line) = some (.directive verb line) := by
          simp only [dropRequirement?]
          split
          · next same => exact absurd (Content.directive.inj same).1 isRequire
          · next same => cases same
          · rfl
        simp [kept, directives, Directive.requires, isRequire]
  | block group =>
      by_cases isRequire : group.verb = .require
      · simp only [dropRequirement?, isRequire, if_true, Option.elim_some, directives,
          List.filter_map]
        congr 1
        apply List.filter_congr
        intro line member
        obtain ⟨name, version, same⟩ :=
          wellFormed { verb := group.verb, line } (List.mem_map.mpr ⟨line, member, rfl⟩) isRequire
        simp at same
        simp [Directive.requires, Line.requires, same]
      · simp only [dropRequirement?, isRequire, if_false, Option.elim_some, directives]
        rw [List.filter_eq_self.mpr]
        intro directive member
        obtain ⟨line, _, rfl⟩ := List.mem_map.mp member
        simp [Directive.requires, isRequire]
  | remark comments => rfl

end Content

namespace Manifest

variable {manifest changed : Manifest}

theorem directives_mk_append (front : List Statement) (behind : List Statement) :
    (Manifest.mk (front ++ behind)).directives =
      (Manifest.mk front).directives ++ (Manifest.mk behind).directives := by
  simp [directives]

theorem directives_mk_cons (statement : Statement) (behind : List Statement) :
    (Manifest.mk (statement :: behind)).directives =
      statement.content.directives ++ (Manifest.mk behind).directives := by
  simp [directives]

/-- A changed manifest has one changed directive, which requires the module. -/
theorem directives_changeRequirement?
    {path : Text}
    {change : Line → Line}
    (found : manifest.changeRequirement? path change = some changed) :
    ∃ front line behind,
      manifest.directives = front ++ { verb := .require, line } :: behind ∧
        line.requires path = true ∧
        changed.directives = front ++ { verb := .require, line := change line } :: behind := by
  obtain ⟨statements, within, rfl⟩ := Option.map_eq_some_iff.mp found
  obtain ⟨front, before, after, behind, split, step, rfl⟩ := changeFirst?_eq_some within
  obtain ⟨content, stepped, rfl⟩ := Option.map_eq_some_iff.mp step
  obtain ⟨inFront, line, inBehind, ofBefore, isRequired, ofAfter⟩ :=
    Content.directives_changeRequirement? stepped
  refine
    ⟨(Manifest.mk front).directives ++ inFront, line,
      inBehind ++ (Manifest.mk behind).directives, ?_, isRequired, ?_⟩
  · have whole : manifest.directives = (Manifest.mk (front ++ before :: behind)).directives :=
      congrArg (fun statements => (Manifest.mk statements).directives) split
    simp [whole, directives_mk_append, directives_mk_cons, ofBefore]
  · simp [directives_mk_append, directives_mk_cons, ofAfter]

/-- A manifest that is not changed does not require the module. -/
theorem not_requires_of_changeRequirement?
    {path : Text}
    {change : Line → Line}
    (nothing : manifest.changeRequirement? path change = none)
    {directive : Directive}
    (member : directive ∈ manifest.directives) :
    directive.requires path = false := by
  obtain ⟨statement, isStatement, inside⟩ := List.mem_flatMap.mp member
  rw [changeRequirement?, Option.map_eq_none_iff, changeFirst?_eq_none_iff] at nothing
  have untouched := Option.map_eq_none_iff.mp (nothing statement isStatement)
  simp only [Directive.requires]
  by_cases isRequire : directive.verb = .require
  · simp [isRequire, Content.not_requires_of_changeRequirement? untouched inside isRequire]
  · simp [isRequire]

/-- A new requirement stands behind all others. -/
theorem directives_addRequirement (manifest : Manifest) (path version : Text) :
    ∃ front behind,
      manifest.directives.map Directive.bare = front ++ behind ∧
        (∀ directive ∈ behind, directive.verb ≠ .require) ∧
        (manifest.addRequirement path version).directives.map Directive.bare =
          front ++ { verb := .require, line := .ofRequirement path version } :: behind := by
  unfold addRequirement
  dsimp only
  split
  · next statements found =>
      obtain ⟨front, before, after, behind, split, step, last, rfl⟩ := changeLast?_eq_some found
      obtain ⟨content, stepped, rfl⟩ := Option.map_eq_some_iff.mp step
      have added := Content.directives_addRequirement? stepped
      refine
        ⟨((Manifest.mk front).directives ++ before.content.directives).map Directive.bare,
          (Manifest.mk behind).directives.map Directive.bare, ?_, ?_, ?_⟩
      · have whole : manifest.directives = (Manifest.mk (front ++ before :: behind)).directives :=
          congrArg (fun statements => (Manifest.mk statements).directives) split
        simp [whole, directives_mk_append, directives_mk_cons]
      · intro directive member
        obtain ⟨original, isOriginal, rfl⟩ := List.mem_map.mp member
        obtain ⟨statement, isStatement, inside⟩ := List.mem_flatMap.mp isOriginal
        have untouched := Option.map_eq_none_iff.mp (last statement isStatement)
        have isOther : original.verb ≠ .require :=
          Content.verb_ne_of_addRequirement? untouched inside
        exact isOther
      · simp [directives_mk_append, directives_mk_cons, added]
        rfl
  · refine ⟨manifest.directives.map Directive.bare, [], by simp, by simp, ?_⟩
    simp [directives_mk_append, directives_mk_cons]
    rfl

/-- What is left when a module is dropped. -/
theorem directives_drop
    {path : Text}
    (wellFormed : ∀ directive ∈ manifest.directives, directive.verb = .require →
      ∃ name version, directive.line.arguments = [name, version]) :
    (manifest.drop path).directives =
      manifest.directives.filter fun directive => !directive.requires path := by
  obtain ⟨statements⟩ := manifest
  unfold drop
  dsimp only
  induction statements with
  | nil => rfl
  | cons statement following inductionHypothesis =>
      rw [directives_mk_cons] at wellFormed ⊢
      have others := inductionHypothesis fun directive member =>
        wellFormed directive (by simp [member])
      have own :
          (statement.content.dropRequirement? path).elim [] Content.directives =
            statement.content.directives.filter fun directive => !directive.requires path :=
        Content.directives_dropRequirement? fun directive member =>
          wellFormed directive (List.mem_append_left _ member)
      rw [List.filter_append, ← own, ← others]
      cases kept : statement.content.dropRequirement? path with
      | none => simp [Statement.changeContent?, kept]
      | some content => simp [Statement.changeContent?, kept, directives_mk_cons]

end Manifest

namespace Directive

/-- A requirement without a fault is a path and a valid version. -/
theorem arguments_of_fault?_eq_none
    {directive : Directive}
    (faultless : directive.fault? = none)
    (isRequire : directive.verb = .require) :
    ∃ name version, directive.line.arguments = [name, version] := by
  simp only [fault?, isRequire] at faultless
  split at faultless
  · next name version same => exact ⟨name, version, same⟩
  · cases faultless

/-- A directive requires a module exactly when it states a version of it. -/
theorem requires_iff
    {path : Text}
    {directive : Directive} :
    directive.requires path = true ↔ ∃ version, directive.required? = some (path, version) := by
  simp only [requires, required?, pathAndVersion?]
  rw [Bool.and_eq_true, Line.requires_iff, decide_eq_true_iff]
  constructor
  · rintro ⟨isRequire, name, version, same, isPath⟩
    exact ⟨version.value, by simp [same, isRequire, isPath]⟩
  · rintro ⟨version, states⟩
    split at states
    · next name token same =>
        split at states
        · next isRequire =>
            cases states
            exact ⟨isRequire, name, token, same, rfl⟩
        · cases states
    · cases states

/-- A directive requires a module exactly when it states a requirement of it. -/
theorem requires_iff_requirement?
    {path : Text}
    {directive : Directive} :
    directive.requires path = true ↔
      ∃ requirement, directive.requirement? = some requirement ∧ requirement.path = path := by
  rw [requires_iff, ← requirement?_map]
  simp only [Option.map_eq_some_iff, Prod.mk.injEq]
  constructor
  · rintro ⟨version, requirement, states, isPath, _⟩
    exact ⟨requirement, states, isPath⟩
  · rintro ⟨requirement, states, isPath⟩
    exact ⟨requirement.version, requirement, states, isPath, rfl⟩

end Directive

namespace Manifest

variable {manifest changed : Manifest}

/-- A new version takes the place of the old one. -/
theorem required_withVersion
    {path version : Text}
    (found : manifest.changeRequirement? path (Line.withVersion version) = some changed) :
    ∃ front old behind,
      manifest.required = front ++ (path, old) :: behind ∧
        changed.required = front ++ (path, version) :: behind := by
  obtain ⟨front, line, behind, before, isRequired, after⟩ := directives_changeRequirement? found
  obtain ⟨name, old, same, isPath⟩ := Line.requires_iff.mp isRequired
  refine
    ⟨front.filterMap Directive.required?, old.value, behind.filterMap Directive.required?, ?_, ?_⟩
  · rw [required_eq_directives, before]
    simp [Directive.required?, Directive.pathAndVersion?, same, isPath]
  · rw [required_eq_directives, after]
    simp [Directive.required?, Directive.pathAndVersion?, Line.withVersion, same, isPath]

/-- A new requirement is the last one. -/
theorem requirements_addRequirement (manifest : Manifest) (path version : Text) :
    (manifest.addRequirement path version).requirements =
      manifest.requirements ++ [{ path, version, indirect := false, line := 0 }] := by
  obtain ⟨front, behind, before, others, after⟩ := directives_addRequirement manifest path version
  have nothingBehind : behind.filterMap Directive.requirement? = [] := by
    rw [List.filterMap_eq_nil_iff]
    intro directive member
    rw [Directive.requirement?, Directive.pathAndVersion?_of_ne (others directive member)]
    rfl
  have states :
      Directive.requirement? { verb := .require, line := .ofRequirement path version } =
        some { path, version, indirect := false, line := 0 } := by
    simp only [Directive.requirement?, Directive.pathAndVersion?, Line.ofRequirement,
      Token.value_ofValue, if_true]
    rfl
  rw [requirements_eq_bare, requirements_eq_bare manifest, before, after, List.filterMap_append,
    List.filterMap_append, List.filterMap_cons_some states, nothingBehind, List.append_nil]

/-- A new requirement stands behind those before. -/
theorem required_addRequirement (manifest : Manifest) (path version : Text) :
    (manifest.addRequirement path version).required = manifest.required ++ [(path, version)] := by
  simp [required, requirements_addRequirement]

/-- A module that no directive requires has no requirement. -/
theorem not_mem_required
    {path : Text}
    (notRequired : ∀ directive ∈ manifest.directives, directive.requires path = false) :
    path ∉ manifest.required.map Prod.fst := by
  intro member
  obtain ⟨⟨name, version⟩, isEntry, rfl⟩ := List.mem_map.mp member
  rw [required_eq_directives] at isEntry
  obtain ⟨directive, isDirective, states⟩ := List.mem_filterMap.mp isEntry
  have isRequired := Directive.requires_iff.mpr ⟨version, states⟩
  rw [notRequired directive isDirective] at isRequired
  cases isRequired

/-- A consistent manifest requires a module at most once. -/
theorem pairwise_requires
    (consistent : manifest.IsConsistent)
    (path : Text) :
    manifest.directives.Pairwise fun earlier later =>
      earlier.requires path = false ∨ later.requires path = false := by
  have distinct := consistent.distinct
  rw [required_eq_directives, List.nodup_iff_pairwise_ne, List.pairwise_map,
    List.pairwise_filterMap] at distinct
  refine distinct.imp fun {earlier later} differ => ?_
  by_contra both
  rw [not_or, Bool.not_eq_false, Bool.not_eq_false, Directive.requires_iff,
    Directive.requires_iff] at both
  obtain ⟨⟨first, isFirst⟩, second, isSecond⟩ := both
  exact differ _ isFirst _ isSecond rfl

/-- Dropping a module erases what is required of it. -/
theorem requirements_drop
    (consistent : manifest.IsConsistent)
    (path : Text) :
    (manifest.drop path).requirements =
      manifest.requirements.filter fun requirement => requirement.path ≠ path := by
  simp only [requirements]
  rw [directives_drop fun directive member =>
      Directive.arguments_of_fault?_eq_none (consistent.faultless directive member),
    List.filterMap_filter, List.filter_filterMap]
  apply List.filterMap_congr
  intro directive _
  have requires :
      directive.requires path = true ↔
        ∃ requirement, directive.requirement? = some requirement ∧ requirement.path = path :=
    Directive.requires_iff_requirement?
  cases states : directive.requirement? with
  | none => simp
  | some requirement =>
      rw [states] at requires
      by_cases isPath : requirement.path = path
      · have isRequired : directive.requires path = true := requires.mpr ⟨requirement, rfl, isPath⟩
        simp [isRequired, Option.filter, isPath]
      · have notRequired : directive.requires path = false := by
          rw [Bool.eq_false_iff, Ne, requires]
          rintro ⟨_, ⟨⟩, same⟩
          exact isPath same
        simp [notRequired, Option.filter, isPath]

/-- Dropping a module drops its requirements. -/
theorem required_drop
    (consistent : manifest.IsConsistent)
    (path : Text) :
    (manifest.drop path).required = manifest.required.filter fun entry => entry.1 ≠ path := by
  simp only [required, requirements_drop consistent, List.filter_map]
  rfl

/-- What is said with other verbs than that of requirements stays. -/
def KeepsOthers (before after : Manifest) : Prop :=
  ∀ verb, verb ≠ .require → after.said verb = before.said verb

/-- Changing a requirement keeps what is said with other verbs. -/
theorem keepsOthers_changeRequirement?
    {path : Text}
    {change : Line → Line}
    (found : manifest.changeRequirement? path change = some changed) :
    manifest.KeepsOthers changed := by
  intro verb isOther
  obtain ⟨front, line, behind, before, _, after⟩ := directives_changeRequirement? found
  have notRequire : Verb.require ≠ verb := fun same => isOther same.symm
  simp [said, before, after, notRequire]

/-- Adding a requirement keeps what is said with other verbs. -/
theorem keepsOthers_addRequirement (manifest : Manifest) (path version : Text) :
    manifest.KeepsOthers (manifest.addRequirement path version) := by
  intro verb isOther
  obtain ⟨front, behind, before, _, after⟩ := directives_addRequirement manifest path version
  have notRequire : Verb.require ≠ verb := fun same => isOther same.symm
  simp [said_eq_bare, before, after, notRequire]

/-- Dropping a module keeps what is said with other verbs. -/
theorem keepsOthers_drop
    (consistent : manifest.IsConsistent)
    (path : Text) :
    manifest.KeepsOthers (manifest.drop path) := by
  intro verb isOther
  simp only [said]
  rw [directives_drop fun directive member =>
      Directive.arguments_of_fault?_eq_none (consistent.faultless directive member),
    List.filter_filter]
  congr 1
  apply List.filter_congr
  intro directive _
  by_cases isVerb : directive.verb = verb
  · simp [Directive.requires, isVerb, isOther]
  · simp [isVerb]

/-- Marking a requirement changes a comment only. -/
theorem said_withIndirect
    {path : Text}
    {indirect : Bool}
    (found : manifest.changeRequirement? path (Line.withIndirect indirect) = some changed)
    (verb : Verb) :
    changed.said verb = manifest.said verb := by
  obtain ⟨front, line, behind, before, _, after⟩ := directives_changeRequirement? found
  apply said_congr
  rw [before, after, List.map_append, List.map_append, List.map_cons, List.map_cons]
  rfl

/-- A valid version keeps a manifest consistent. -/
theorem isConsistent_withVersion
    {path version : Text}
    (consistent : manifest.IsConsistent)
    (valid : Version.isValid version = true)
    (found : manifest.changeRequirement? path (Line.withVersion version) = some changed) :
    changed.IsConsistent := by
  refine ⟨?_, ?_⟩
  · obtain ⟨front, line, behind, before, isRequired, after⟩ := directives_changeRequirement? found
    obtain ⟨name, old, same, _⟩ := Line.requires_iff.mp isRequired
    have faultless := consistent.faultless
    rw [before] at faultless
    rw [after]
    intro directive member
    rcases List.mem_append.mp member with inFront | inRest
    · exact faultless directive (by simp [inFront])
    · rcases List.mem_cons.mp inRest with rfl | inBehind
      · simp [Directive.fault?, Line.withVersion, same, valid]
      · exact faultless directive (by simp [inBehind])
  · obtain ⟨front, old, behind, before, after⟩ := required_withVersion found
    have distinct := consistent.distinct
    rw [before] at distinct
    rw [after]
    simpa using distinct

theorem isConsistent_withIndirect
    {path : Text}
    {indirect : Bool}
    (consistent : manifest.IsConsistent)
    (found : manifest.changeRequirement? path (Line.withIndirect indirect) = some changed) :
    changed.IsConsistent :=
  isConsistent_of_said consistent fun verb => .of_eq (said_withIndirect found verb)

/-- A requirement of a new module at a valid version keeps a manifest consistent. -/
theorem isConsistent_addRequirement
    {path version : Text}
    (consistent : manifest.IsConsistent)
    (valid : Version.isValid version = true)
    (notRequired : ∀ directive ∈ manifest.directives, directive.requires path = false) :
    (manifest.addRequirement path version).IsConsistent := by
  refine ⟨?_, ?_⟩
  · obtain ⟨front, behind, before, _, after⟩ := directives_addRequirement manifest path version
    have faultless := consistent.faultless
    rw [faultless_iff_bare, before] at faultless
    rw [faultless_iff_bare, after]
    intro directive member
    rcases List.mem_append.mp member with inFront | inRest
    · exact faultless directive (by simp [inFront])
    · rcases List.mem_cons.mp inRest with rfl | inBehind
      · simp [Directive.fault?, Line.ofRequirement, valid]
      · exact faultless directive (by simp [inBehind])
  · have absent := not_mem_required notRequired
    rw [required_addRequirement, List.map_append, List.map_singleton, List.nodup_append]
    refine ⟨consistent.distinct, by simp, ?_⟩
    rintro name isName other isOther rfl
    rw [List.mem_singleton.mp isOther] at isName
    exact absent isName

/-- Dropping a module keeps a manifest consistent. -/
theorem isConsistent_drop
    (consistent : manifest.IsConsistent)
    (path : Text) :
    (manifest.drop path).IsConsistent := by
  refine ⟨?_, ?_⟩
  · intro directive member
    rw [directives_drop fun directive member =>
      Directive.arguments_of_fault?_eq_none (consistent.faultless directive member)] at member
    exact consistent.faultless directive (List.mem_filter.mp member).1
  · rw [required_drop consistent]
    exact consistent.distinct.sublist (List.filter_sublist.map Prod.fst)

/-- A valid version of one line keeps a manifest sound. -/
theorem isSound_withVersion
    {path version : Text}
    (sound : manifest.IsSound)
    (valid : Version.isValid version = true)
    (oneLine : '\n' ∉ version)
    (found : manifest.changeRequirement? path (Line.withVersion version) = some changed) :
    changed.IsSound :=
  (isConsistent_withVersion sound.isConsistent valid found).isSound
    (areReadable_changeRequirement? (Line.keepsReadable_withVersion oneLine) sound.readable found)

theorem isSound_withIndirect
    {path : Text}
    {indirect : Bool}
    (sound : manifest.IsSound)
    (found : manifest.changeRequirement? path (Line.withIndirect indirect) = some changed) :
    changed.IsSound :=
  (isConsistent_withIndirect sound.isConsistent found).isSound
    (areReadable_changeRequirement? (Line.keepsReadable_withIndirect indirect)
      sound.readable found)

/-- A requirement of a new module, written in one line, keeps a manifest sound. -/
theorem isSound_addRequirement
    {path version : Text}
    (sound : manifest.IsSound)
    (valid : Version.isValid version = true)
    (pathOneLine : '\n' ∉ path)
    (versionOneLine : '\n' ∉ version)
    (notRequired : ∀ directive ∈ manifest.directives, directive.requires path = false) :
    (manifest.addRequirement path version).IsSound := by
  refine (isConsistent_addRequirement sound.isConsistent valid notRequired).isSound ?_
  refine areReadable_addRequirement pathOneLine versionOneLine sound.readable ?_
  intro directive member isRequire
  obtain ⟨name, old, same⟩ :=
    Directive.arguments_of_fault?_eq_none (sound.faultless directive member) isRequire
  simp [same]

theorem isSound_drop
    (sound : manifest.IsSound)
    (path : Text) :
    (manifest.drop path).IsSound :=
  (isConsistent_drop sound.isConsistent path).isSound (areReadable_drop sound.readable path)

/-- The version that a module is required at. -/
def versionOf? (manifest : Manifest) (path : Text) : Option Text :=
  (manifest.requirement? path).map Requirement.version

/-- The version of a module is looked up among the requirements. -/
theorem versionOf?_eq_lookup (manifest : Manifest) (path : Text) :
    manifest.versionOf? path = manifest.required.lookup path := by
  simp only [versionOf?, requirement?, required]
  induction manifest.requirements with
  | nil => rfl
  | cons requirement following inductionHypothesis =>
      by_cases isPath : requirement.path = path
      · simp [isPath]
      · have differs : (path == requirement.path) = false := by
          simpa using fun same : path = requirement.path => isPath same.symm
        simp [isPath, differs, List.lookup_cons, inductionHypothesis]

/-- What is said with the verb of requirements decides the versions. -/
theorem versionOf?_of_said
    (sound : manifest.IsSound)
    (same : (changed.said .require).Perm (manifest.said .require)) :
    changed.versionOf? = manifest.versionOf? := by
  have entries : changed.required.Perm manifest.required := by
    rw [required_eq, required_eq]
    exact same.filterMap _
  have distinct : (changed.required.map Prod.fst).Nodup :=
    (entries.map _).nodup_iff.mpr sound.distinct
  funext path
  rw [versionOf?_eq_lookup, versionOf?_eq_lookup]
  apply Option.ext
  intro version
  rw [lookup_eq_some_iff_mem distinct, lookup_eq_some_iff_mem sound.distinct]
  exact entries.mem_iff

/-- One entry is set where it stands. -/
private theorem lookup_replace
    {front behind : List (Text × Text)}
    {key old new : Text}
    (absent : key ∉ front.map Prod.fst)
    (other : Text) :
    (front ++ (key, new) :: behind).lookup other =
      if other = key then some new else (front ++ (key, old) :: behind).lookup other := by
  rw [List.lookup_append, List.lookup_append]
  by_cases same : other = key
  · subst same
    simp [lookup_eq_none_of_not_mem absent]
  · have differs : (other == key) = false := by simpa using same
    simp [List.lookup_cons, differs, same]

/-- Setting the version of a requirement sets that of its module only. -/
theorem versionOf?_withVersion
    {path version : Text}
    (sound : manifest.IsSound)
    (found : manifest.changeRequirement? path (Line.withVersion version) = some changed) :
    changed.versionOf? = Function.update manifest.versionOf? path (some version) := by
  obtain ⟨front, old, behind, before, after⟩ := required_withVersion found
  have distinct := sound.distinct
  rw [before, List.map_append, List.map_cons, List.nodup_append] at distinct
  have absent : path ∉ front.map Prod.fst :=
    fun member => distinct.2.2 path member path List.mem_cons_self rfl
  funext other
  rw [Function.update_apply, versionOf?_eq_lookup, versionOf?_eq_lookup, before, after]
  exact lookup_replace absent other

/-- A new requirement sets the version of its module only. -/
theorem versionOf?_addRequirement
    {path : Text}
    (notRequired : manifest.versionOf? path = none)
    (version : Text) :
    (manifest.addRequirement path version).versionOf? =
      Function.update manifest.versionOf? path (some version) := by
  funext other
  rw [versionOf?_eq_lookup] at notRequired
  rw [Function.update_apply, versionOf?_eq_lookup, versionOf?_eq_lookup,
    required_addRequirement, List.lookup_append]
  by_cases same : other = path
  · subst same
    simp [notRequired]
  · simp [same]

/-- Dropping a module takes its version away and no other. -/
theorem versionOf?_drop
    (sound : manifest.IsSound)
    (path : Text) :
    (manifest.drop path).versionOf? = Function.update manifest.versionOf? path none := by
  funext other
  apply Option.ext
  intro version
  rw [Function.update_apply, versionOf?_eq_lookup,
    lookup_eq_some_iff_mem (isSound_drop sound path).distinct, required_drop sound.isConsistent,
    List.mem_filter]
  by_cases same : other = path
  · simp [same]
  · simp [same, versionOf?_eq_lookup, lookup_eq_some_iff_mem sound.distinct]

/-- A module whose requirement cannot be changed is not required. -/
theorem versionOf?_eq_none_of_changeRequirement?
    {path : Text}
    {change : Line → Line}
    (nothing : manifest.changeRequirement? path change = none) :
    manifest.versionOf? path = none := by
  rw [versionOf?_eq_lookup]
  exact lookup_eq_none_of_not_mem
    (not_mem_required fun directive => not_requires_of_changeRequirement? nothing)

/-- Requiring a module at a valid version sets its version. -/
theorem require_eq_ok
    {path version : Text}
    (sound : manifest.IsSound)
    (valid : Version.isValid version = true)
    (pathOneLine : '\n' ∉ path)
    (versionOneLine : '\n' ∉ version) :
    ∃ changed,
      manifest.require path version = .ok changed ∧
        changed.IsSound ∧
        manifest.KeepsOthers changed ∧
        changed.versionOf? = Function.update manifest.versionOf? path (some version) := by
  simp only [require]
  rw [if_pos valid]
  cases found : manifest.changeRequirement? path (Line.withVersion version) with
  | some changed =>
      exact
        ⟨changed, rfl, isSound_withVersion sound valid versionOneLine found,
          keepsOthers_changeRequirement? found, versionOf?_withVersion sound found⟩
  | none =>
      have notRequired : ∀ directive ∈ manifest.directives, directive.requires path = false :=
        fun directive => not_requires_of_changeRequirement? found
      have noVersion := versionOf?_eq_none_of_changeRequirement? found
      exact
        ⟨manifest.addRequirement path version, rfl,
          isSound_addRequirement sound valid pathOneLine versionOneLine notRequired,
          keepsOthers_addRequirement manifest path version,
          versionOf?_addRequirement noVersion version⟩

end Manifest

end ModuleUpdate
