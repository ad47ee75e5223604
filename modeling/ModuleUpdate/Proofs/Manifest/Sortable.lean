import ModuleUpdate.Proofs.LongSort
import ModuleUpdate.Proofs.Manifest.Growing
import ModuleUpdate.Proofs.Manifest.LineOrder

namespace ModuleUpdate

/-!
# Manifests that can be sorted

Sorting breaks off only in a block that is too long to be sorted by insertion and whose lines are
tangled.  The lines of a canonical manifest are in order, so they can be sorted again.  A batch
edits requirements only.  So where it leads to lines that cannot be sorted, and the other statements
can be sorted in another manifest, requirements are tangled, and one of them is of a module whose
path is a version.
-/

/-- Lines that are not tangled can be sorted. -/
theorem Line.goesThrough_of_not_holdTangle
    {lines : List Line}
    (free : ¬HoldTangle lines) :
    LongSort.goesThrough precedes lines = true := by
  have transitive := areTransitive_iff.mpr free
  obtain ⟨rank, ranked⟩ :=
    LongSort.exists_areRanked isAsymmetric_precedes
      fun first isFirst second isSecond third isThird firstBelow secondBelow =>
        precedes_eq_false_iff.mpr
          (transitive first isFirst second isSecond third isThird
            (precedes_eq_false_iff.mp firstBelow) (precedes_eq_false_iff.mp secondBelow))
  exact LongSort.goesThrough_of_areRanked ranked

namespace Block

/-- A block of requirements that is too long to be sorted by insertion, with tangled lines. -/
structure IsLongTangle (block : Block) : Prop where
  verb : block.verb = .require
  isLong : LongSort.greatestInsertion < block.lines.length
  tangled : Line.HoldTangle block.lines

variable {block : Block}

/-- A block that is short enough is sorted by insertion. -/
theorem isSortable_of_short
    (isShort : block.lines.length ≤ LongSort.greatestInsertion) :
    block.isSortable = true := by
  rw [isSortable, LongSort.goesThrough, if_pos isShort, Bool.or_true]

/-- A block that cannot be sorted is long, and its lines are tangled. -/
theorem holdTangle_of_not_isSortable
    (notSortable : block.isSortable = false) :
    LongSort.greatestInsertion < block.lines.length ∧ Line.HoldTangle block.lines := by
  constructor
  · by_contra isShort
    rw [isSortable_of_short (Nat.not_lt.mp isShort)] at notSortable
    cases notSortable
  · by_contra free
    rw [isSortable, Line.goesThrough_of_not_holdTangle free, Bool.or_true] at notSortable
    cases notSortable

/-- The lines of a canonical block are in order already. -/
theorem IsCanonical.isSortable
    (isCanonical : block.IsCanonical) :
    block.isSortable = true := by
  rw [Block.isSortable]
  cases verbSorted : block.verb.isSorted with
  | false => rfl
  | true => exact LongSort.goesThrough_of_isSorted (isCanonical.isSorted verbSorted)

end Block

theorem Content.IsCanonical.isSortable
    {content : Content}
    (isCanonical : content.IsCanonical) :
    content.isSortable = true := by
  cases content with
  | directive verb line => rfl
  | remark comments => rfl
  | block group => exact Block.IsCanonical.isSortable isCanonical

/-- A canonical manifest is in order already. -/
theorem Manifest.isSortable_of_areCanonical
    {manifest : Manifest}
    (areCanonical : Statement.AreCanonical manifest.statements) :
    manifest.isSortable = true :=
  List.all_eq_true.mpr fun statement member => (areCanonical statement member).isSortable

section

variable {passing : Text → Prop}

/-- A statement that has grown can be sorted once none of it passes any more. -/
theorem Content.Grows.isSortable
    {base grown : Content}
    (grows : base.Grows passing grown)
    (sortable : base.isSortable = true)
    (nonePasses : ∀ directive ∈ grown.directives,
      ∀ path, passing path → directive.requires path = false) :
    grown.isSortable = true := by
  cases grows with
  | same => exact sortable
  | @extended group added isRequire arePassing =>
      have noneAdded : added = [] :=
        arePassing.eq_nil_of_block nonePasses (fun _ => List.mem_append_right _) isRequire
      rwa [noneAdded, List.append_nil]
  | @opened line added arePassing =>
      have noneAdded : added = [] :=
        arePassing.eq_nil_of_block nonePasses (fun _ => List.mem_cons_of_mem _) rfl
      subst noneAdded
      exact Block.isSortable_of_short (by simp [LongSort.greatestInsertion])

/-- A passing statement is empty, so there is nothing to sort. -/
theorem Content.IsPassing.isSortable
    {content : Content}
    (isPassing : content.IsPassing passing)
    (nonePasses : ∀ directive ∈ content.directives,
      ∀ path, passing path → directive.requires path = false) :
    content.isSortable = true := by
  have noDirective := isPassing.directives_eq_nil nonePasses
  cases content with
  | remark comments => rfl
  | directive verb line => rfl
  | block group =>
      have noLine : group.lines = [] := List.map_eq_nil_iff.mp noDirective
      exact Block.isSortable_of_short (by simp [noLine])

/-- A manifest that has grown can be sorted once none of it passes any more. -/
theorem Manifest.Grows.isSortable
    {base grown : Manifest}
    (grows : base.Grows passing grown)
    (sortable : base.isSortable = true)
    (nonePasses : ∀ directive ∈ grown.directives,
      ∀ path, passing path → directive.requires path = false) :
    grown.isSortable = true := by
  obtain ⟨kept, added, split, areGrown, arePassing⟩ := grows
  have nonePassesIn : ∀ statement ∈ grown.statements, ∀ directive ∈ statement.content.directives,
      ∀ path, passing path → directive.requires path = false :=
    fun statement isStatement directive inside =>
      nonePasses directive (List.mem_flatMap.mpr ⟨statement, isStatement, inside⟩)
  refine List.all_eq_true.mpr fun statement member => ?_
  have nonePassesHere := nonePassesIn statement member
  rw [split] at member
  rcases List.mem_append.mp member with isKept | isAdded
  · obtain ⟨index, atIndex, rfl⟩ := List.getElem_of_mem isKept
    have inBase : index < base.statements.length := areGrown.length_eq ▸ atIndex
    exact (areGrown.get inBase atIndex).content.isSortable
      (List.all_eq_true.mp sortable _ (List.getElem_mem inBase)) nonePassesHere
  · exact (arePassing statement isAdded).isSortable nonePassesHere

end

/-- The statements that are not about requirements, without the blank lines between them. -/
def Statement.otherContents (statements : List Statement) : List Content :=
  (statements.map Statement.content).filter fun content => content.verb? ≠ some .require

namespace Content

variable {content changed : Content}

/-- Only statements about requirements are changed, and they stay so. -/
theorem verb?_of_changeRequirement?
    {path : Text}
    {change : Line → Line}
    (isChanged : content.changeRequirement? path change = some changed) :
    content.verb? = some .require ∧ changed.verb? = some .require := by
  unfold changeRequirement? at isChanged
  split at isChanged
  · split at isChanged
    · cases isChanged
      exact ⟨rfl, rfl⟩
    · cases isChanged
  · split at isChanged
    · next isRequire =>
        obtain ⟨lines, _, rfl⟩ := Option.map_eq_some_iff.mp isChanged
        simp [verb?, isRequire]
    · cases isChanged
  · cases isChanged

/-- Only statements about requirements take one more, and they stay so. -/
theorem verb?_of_addRequirement?
    {added : Line}
    (isChanged : content.addRequirement? added = some changed) :
    content.verb? = some .require ∧ changed.verb? = some .require := by
  unfold addRequirement? at isChanged
  split at isChanged
  · cases isChanged
    exact ⟨rfl, rfl⟩
  · split at isChanged
    · next isRequire =>
        cases isChanged
        simp [verb?, isRequire]
    · cases isChanged
  · cases isChanged

/-- The directives of a statement have its verb. -/
theorem verb?_of_mem_directives
    {directive : Directive}
    (member : directive ∈ content.directives) :
    content.verb? = some directive.verb := by
  cases content with
  | remark comments => cases member
  | directive verb line =>
      rw [List.mem_singleton.mp member]
      rfl
  | block group =>
      obtain ⟨line, _, rfl⟩ := List.mem_map.mp member
      rfl

/-- Dropping a module from requirements leaves requirements. -/
theorem verb?_of_dropRequirement?
    {path : Text}
    (isRequire : content.verb? = some .require)
    (isDropped : content.dropRequirement? path = some changed) :
    changed.verb? = some .require := by
  unfold dropRequirement? at isDropped
  split at isDropped
  · split at isDropped
    · cases isDropped
    · cases isDropped
      rfl
  · split at isDropped
    · cases isDropped
      exact isRequire
    · cases isDropped
      exact isRequire
  · cases isDropped
    exact isRequire

end Content

theorem Statement.otherContents_cons_of_require
    {statement : Statement}
    (isRequire : statement.content.verb? = some .require)
    (following : List Statement) :
    otherContents (statement :: following) = otherContents following := by
  simp [otherContents, isRequire]

theorem Statement.otherContents_cons_of_other
    {statement : Statement}
    (isOther : statement.content.verb? ≠ some .require)
    (following : List Statement) :
    otherContents (statement :: following) = statement.content :: otherContents following := by
  simp [otherContents, isOther]

/-- Changing one statement about requirements leaves the others. -/
private theorem Statement.otherContents_change
    {front behind : List Statement}
    {before after : Statement}
    (verbs : before.content.verb? = some .require ∧ after.content.verb? = some .require) :
    otherContents (front ++ after :: behind) = otherContents (front ++ before :: behind) := by
  simp [otherContents, verbs.1, verbs.2]

namespace Manifest

variable {manifest : Manifest} {dependency : Dependency} {dependencies : List Dependency}

/-- Changing a requirement leaves the statements that are about other things. -/
theorem otherContents_changeRequirement?
    {path : Text}
    {change : Line → Line}
    {changed : Manifest}
    (isChanged : manifest.changeRequirement? path change = some changed) :
    Statement.otherContents changed.statements = Statement.otherContents manifest.statements := by
  obtain ⟨statements, within, rfl⟩ := Option.map_eq_some_iff.mp isChanged
  obtain ⟨front, before, after, behind, split, step, rfl⟩ := changeFirst?_eq_some within
  obtain ⟨content, stepped, rfl⟩ := Option.map_eq_some_iff.mp step
  rw [split]
  exact Statement.otherContents_change (Content.verb?_of_changeRequirement? stepped)

/-- Adding a requirement leaves the statements that are about other things. -/
theorem otherContents_addRequirement
    (manifest : Manifest)
    (path version : Text) :
    Statement.otherContents (manifest.addRequirement path version).statements =
      Statement.otherContents manifest.statements := by
  unfold addRequirement
  dsimp only
  split
  · next statements found =>
      obtain ⟨front, before, after, behind, split, step, _, rfl⟩ := changeLast?_eq_some found
      obtain ⟨content, stepped, rfl⟩ := Option.map_eq_some_iff.mp step
      rw [split]
      exact Statement.otherContents_change (Content.verb?_of_addRequirement? stepped)
  · simp [Statement.otherContents, Content.verb?]

/-- Dropping a module leaves the statements that are about other things. -/
theorem otherContents_drop
    (manifest : Manifest)
    (path : Text) :
    Statement.otherContents (manifest.drop path).statements =
      Statement.otherContents manifest.statements := by
  unfold drop
  dsimp only
  generalize manifest.statements = statements
  induction statements with
  | nil => rfl
  | cons statement following inductionHypothesis =>
      rw [List.filterMap_cons]
      by_cases isRequire : statement.content.verb? = some .require
      · rw [Statement.otherContents_cons_of_require isRequire, Statement.changeContent?]
        cases isDropped : statement.content.dropRequirement? path with
        | none => exact inductionHypothesis
        | some dropped =>
            have stillRequires := Content.verb?_of_dropRequirement? isRequire isDropped
            exact (Statement.otherContents_cons_of_require stillRequires _).trans
              inductionHypothesis
      · have keeps : statement.content.Keeps path := fun directive member sameVerb =>
          absurd (sameVerb ▸ Content.verb?_of_mem_directives member) isRequire
        rw [Statement.changeContent?, Content.dropRequirement?_of_keeps keeps]
        dsimp only [Option.map_some]
        rw [Statement.otherContents_cons_of_other isRequire,
          Statement.otherContents_cons_of_other isRequire, inductionHypothesis]

/-- Requiring a module leaves the statements that are about other things. -/
theorem otherContents_require
    {path version : Text}
    {required : Manifest}
    (isRequired : manifest.require path version = .ok required) :
    Statement.otherContents required.statements = Statement.otherContents manifest.statements := by
  unfold Manifest.require at isRequired
  split at isRequired
  · split at isRequired
    · next changed isChanged =>
        cases isRequired
        exact otherContents_changeRequirement? isChanged
    · cases isRequired
      exact otherContents_addRequirement manifest path version
  · cases isRequired

/-- An edit of a requirement leaves the statements that are not about requirements. -/
private theorem otherContents_apply
    (manifest : Manifest)
    {revision : Revision}
    (isEdit : revision ≠ .sort ∧ revision ≠ .tidy) :
    Statement.otherContents (Revision.apply manifest revision).statements =
      Statement.otherContents manifest.statements := by
  cases revision with
  | require path version =>
      rw [Revision.apply]
      split
      · next required isRequired => exact otherContents_require isRequired
      · rfl
  | drop path => exact otherContents_drop manifest path
  | markIndirect path indirect =>
      rw [Revision.apply]
      cases isMarked : manifest.markIndirect? path indirect with
      | none => rfl
      | some marked => exact otherContents_changeRequirement? isMarked
  | sort => exact absurd rfl isEdit.1
  | tidy => exact absurd rfl isEdit.2

/-- A batch leaves the statements that are not about requirements. -/
theorem otherContents_updated
    (manifest : Manifest)
    (dependencies : List Dependency) :
    Statement.otherContents (manifest.updated dependencies).statements =
      Statement.otherContents manifest.statements := by
  have areEdits : ∀ revision ∈ dependencies.flatMap Dependency.revisions,
      revision ≠ .sort ∧ revision ≠ .tidy := by
    intro revision member
    obtain ⟨dependency, _, isRevision⟩ := List.mem_flatMap.mp member
    simp only [Dependency.revisions, List.mem_append, List.mem_map, List.mem_cons,
      List.not_mem_nil, or_false] at isRevision
    rcases isRevision with ⟨old, _, rfl⟩ | rfl | rfl <;> simp
  unfold updated
  generalize dependencies.flatMap Dependency.revisions = revisions at areEdits ⊢
  induction revisions generalizing manifest with
  | nil => rfl
  | cons revision following inductionHypothesis =>
      obtain ⟨isEdit, others⟩ := List.forall_mem_cons.mp areEdits
      exact (inductionHypothesis _ others).trans (otherContents_apply manifest isEdit)

/--
A manifest that cannot be sorted, though one with the same statements about other things can, holds
a long block of requirements with tangled lines.
-/
theorem exists_isLongTangle
    {sortable unsortable : Manifest}
    (sameOthers :
      Statement.otherContents unsortable.statements =
        Statement.otherContents sortable.statements)
    (isSortable : sortable.isSortable = true)
    (notSortable : unsortable.isSortable = false) :
    ∃ statement ∈ unsortable.statements, ∃ block,
      statement.content = .block block ∧ block.IsLongTangle := by
  obtain ⟨statement, member, breaksOff⟩ := List.all_eq_false.mp notSortable
  rw [Bool.not_eq_true] at breaksOff
  cases content : statement.content with
  | directive verb line =>
      rw [content] at breaksOff
      cases breaksOff
  | remark comments =>
      rw [content] at breaksOff
      cases breaksOff
  | block group =>
      rw [content] at breaksOff
      obtain ⟨isLong, tangled⟩ := Block.holdTangle_of_not_isSortable breaksOff
      refine ⟨statement, member, group, content, ?_, isLong, tangled⟩
      by_contra isOther
      have inOthers : Content.block group ∈ Statement.otherContents unsortable.statements :=
        List.mem_filter.mpr
          ⟨List.mem_map.mpr ⟨statement, member, content⟩, by simpa [Content.verb?] using isOther⟩
      rw [sameOthers] at inOthers
      obtain ⟨other, isStatement, sameContent⟩ :=
        List.mem_map.mp (List.mem_filter.mp inOthers).1
      have sorts := List.all_eq_true.mp isSortable other isStatement
      rw [sameContent, breaksOff] at sorts
      cases sorts

/-- Where a batch leads to tangled requirements, some path from before or from it is a version. -/
theorem exists_versionPath_of_isLongTangle
    (sound : manifest.IsSound)
    (accepted : ∀ dependency ∈ dependencies, dependency.IsAccepted)
    {statement : Statement}
    (member : statement ∈ (manifest.updated dependencies).statements)
    {block : Block}
    (isBlock : statement.content = .block block)
    (isLongTangle : block.IsLongTangle) :
    ∃ path,
      Version.isValid path = true ∧
        (manifest.Requires path ∨ ∃ dependency ∈ dependencies, dependency.name = path) := by
  obtain ⟨line, isLine, name, version, arguments, valid⟩ :=
    exists_versionPath_of_holdTangle (isSound_updated sound accepted) member isBlock
      (.inl isLongTangle.verb) isLongTangle.tangled
  have isDirective : { verb := .require, line } ∈ (manifest.updated dependencies).directives := by
    refine List.mem_flatMap.mpr ⟨statement, member, ?_⟩
    rw [isBlock, ← isLongTangle.verb]
    exact List.mem_map_of_mem isLine
  have requires : Directive.requires name.value { verb := .require, line } = true := by
    simp [Directive.requires, Line.requires, arguments]
  refine ⟨name.value, valid, ?_⟩
  rcases origin_of_updated sound accepted isDirective requires with
    ⟨_, original, isOriginal, originalRequires, _⟩ | ⟨earlier, asking, later, rfl, isPath, _⟩
  · exact .inl ⟨original, isOriginal, originalRequires⟩
  · exact .inr ⟨asking, by simp, isPath⟩

/--
Where a batch leads to lines that can be sorted, but in another order to some that cannot, there is
a long block of requirements with tangled lines, and a path from before or from the batch is a
version.
-/
theorem exists_isLongTangle_of_reordered
    {reordered : List Dependency}
    (sound : manifest.IsSound)
    (accepted : ∀ dependency ∈ dependencies, dependency.IsAccepted)
    (perm : reordered.Perm dependencies)
    (isSortable : (manifest.updated dependencies).isSortable = true)
    (notSortable : (manifest.updated reordered).isSortable = false) :
    (∃ statement ∈ (manifest.updated reordered).statements, ∃ block,
        statement.content = .block block ∧ block.IsLongTangle) ∧
      ∃ path,
        Version.isValid path = true ∧
          (manifest.Requires path ∨ ∃ dependency ∈ dependencies, dependency.name = path) := by
  have sameOthers :
      Statement.otherContents (manifest.updated reordered).statements =
        Statement.otherContents (manifest.updated dependencies).statements :=
    (otherContents_updated manifest reordered).trans
      (otherContents_updated manifest dependencies).symm
  obtain ⟨statement, member, block, isBlock, isLongTangle⟩ :=
    exists_isLongTangle sameOthers isSortable notSortable
  obtain ⟨path, valid, isNamed⟩ :=
    exists_versionPath_of_isLongTangle sound
      (fun dependency isDependency => accepted dependency (perm.mem_iff.mp isDependency)) member
      isBlock isLongTangle
  refine ⟨⟨statement, member, block, isBlock, isLongTangle⟩, path, valid, isNamed.imp_right ?_⟩
  rintro ⟨dependency, isDependency, isName⟩
  exact ⟨dependency, perm.mem_iff.mp isDependency, isName⟩

end Manifest

end ModuleUpdate
