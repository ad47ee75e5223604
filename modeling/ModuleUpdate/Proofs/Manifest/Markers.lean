import Mathlib.Data.List.Nodup
import ModuleUpdate.Proofs.Manifest.Canonical
import ModuleUpdate.Proofs.Manifest.Requirements

namespace ModuleUpdate

/-!
# Requirements with their markers

A requirement states a path, a version and whether its line carries the marker of indirect
requirements.  Sorting keeps what is stated.  Tidying keeps it as well, except where the line that
opens a block carries the marker and the only line of the block has no comment: without the
parentheses the comment stands behind that line, and the requirement becomes indirect.
-/

/-- The path, the version and the marker of a requirement. -/
def Directive.stated? (directive : Directive) : Option (Text × Text × Bool) :=
  directive.requirement?.map fun requirement =>
    (requirement.path, requirement.version, requirement.indirect)

/-- The requirements of a manifest with their markers, in order. -/
def Manifest.stated (manifest : Manifest) : List (Text × Text × Bool) :=
  manifest.requirements.map fun requirement =>
    (requirement.path, requirement.version, requirement.indirect)

/-- The marker behind the opening line goes to the only requirement of the block. -/
structure Block.LendsMarker (block : Block) : Prop where
  isRequire : block.verb = .require
  collapses : ∃ line, block.Collapses line ∧ line.comments.trailing = none
  marked : (Clauses.ofComment block.comments.trailing).isIndirect = true

/-- The statement is a block that lends its marker. -/
def Content.LendsMarker : Content → Prop
  | .block group => group.LendsMarker
  | _ => False

/-- A block of the manifest lends its marker. -/
def Manifest.LendsMarker (manifest : Manifest) : Prop :=
  ∃ statement ∈ manifest.statements, statement.content.LendsMarker

theorem Clauses.isIndirect_ofComment_none : (ofComment none).isIndirect = false :=
  rfl

namespace Block

@[simp] theorem verb_sorted (block : Block) : block.sorted.verb = block.verb := by
  unfold sorted
  split <;> rfl

@[simp] theorem comments_sorted (block : Block) : block.sorted.comments = block.comments := by
  unfold sorted
  split <;> rfl

@[simp] theorem closing_sorted (block : Block) : block.sorted.closing = block.closing := by
  unfold sorted
  split <;> rfl

/-- Sorting keeps the lines of a block, whatever order they are left in. -/
theorem lines_sorted (block : Block) : block.sorted.lines.Perm block.lines := by
  unfold sorted
  split
  · exact stableSort_perm Line.precedes block.lines
  · exact .refl block.lines

/-- Sorting keeps a single line. -/
theorem collapses_sorted_iff
    {block : Block}
    {line : Line} :
    block.sorted.Collapses line ↔ block.Collapses line := by
  have sameLines : block.sorted.lines = [line] ↔ block.lines = [line] := by
    rw [← List.perm_singleton, ← List.perm_singleton]
    exact block.lines_sorted.congr_left [line]
  constructor
  · rintro ⟨lines, closing, trailing⟩
    exact ⟨sameLines.mp lines, by simpa using closing, by simpa using trailing⟩
  · rintro ⟨lines, closing, trailing⟩
    exact ⟨sameLines.mpr lines, by simpa using closing, by simpa using trailing⟩

theorem lendsMarker_sorted_iff {block : Block} :
    block.sorted.LendsMarker ↔ block.LendsMarker := by
  constructor
  · rintro ⟨isRequire, ⟨line, collapses, trailing⟩, marked⟩
    exact
      ⟨by simpa using isRequire, ⟨line, collapses_sorted_iff.mp collapses, trailing⟩,
        by simpa using marked⟩
  · rintro ⟨isRequire, ⟨line, collapses, trailing⟩, marked⟩
    exact
      ⟨by simpa using isRequire, ⟨line, collapses_sorted_iff.mpr collapses, trailing⟩,
        by simpa using marked⟩

end Block

namespace Directive

/-- A directive states a path, a version and the marker of the comment behind it. -/
theorem stated?_eq (directive : Directive) :
    directive.stated? =
      directive.required?.map fun entry =>
        (entry.1, entry.2,
          (Clauses.ofComment directive.line.comments.trailing).isIndirect) := by
  simp only [stated?, requirement?, required?, Option.map_map]
  rfl

/-- The line of a requirement matters only for its arguments and for the marker behind it. -/
theorem stated?_congr
    {first second : Directive}
    (samePlain : first.plain = second.plain)
    (sameMarker :
      first.verb = .require →
        (Clauses.ofComment first.line.comments.trailing).isIndirect =
          (Clauses.ofComment second.line.comments.trailing).isIndirect) :
    first.stated? = second.stated? := by
  have sameRequired : first.required? = second.required? := by
    change first.plain.required? = second.plain.required?
    rw [samePlain]
  rw [stated?_eq, stated?_eq, ← sameRequired]
  by_cases isRequire : first.verb = .require
  · rw [sameMarker isRequire]
  · rw [required?, pathAndVersion?_of_ne isRequire]
    rfl

end Directive

namespace Content

/-- Tidying a statement that lends no marker keeps what it states. -/
theorem stated_tidied?
    {content : Content}
    (keepsMarker : ¬content.LendsMarker) :
    (content.tidied?.elim [] directives).filterMap Directive.stated? =
      content.directives.filterMap Directive.stated? := by
  cases content with
  | directive verb line => rfl
  | remark comments => rfl
  | block group =>
      simp only [tidied?]
      split
      · next empty => simp [directives, empty]
      · split
        · next collapsed single =>
            obtain ⟨line, collapses, rfl⟩ := Block.collapsed?_eq_some_iff.mp single
            have sameStated :
                Directive.stated? { verb := group.verb, line := group.collapsedTo line } =
                  Directive.stated? { verb := group.verb, line } := by
              refine Directive.stated?_congr rfl fun isRequire => ?_
              simp only [Block.collapsedTo]
              cases trailing : line.comments.trailing with
              | some comment => rfl
              | none =>
                  rw [Option.none_or, Clauses.isIndirect_ofComment_none, Bool.eq_false_iff]
                  exact fun marked =>
                    keepsMarker ⟨isRequire, ⟨line, collapses, trailing⟩, marked⟩
            simp only [Option.elim_some, directives, collapses.lines, List.map_cons, List.map_nil,
              List.filterMap_cons, sameStated]
        · rfl

/-- Tidying a statement that lends its marker makes its only requirement indirect. -/
theorem stated_of_lendsMarker
    {content : Content}
    (lendsMarker : content.LendsMarker)
    (faultless : ∀ directive ∈ content.directives, directive.fault? = none) :
    ∃ path version,
      content.directives.filterMap Directive.stated? = [(path, version, false)] ∧
        (content.tidied?.elim [] directives).filterMap Directive.stated? =
          [(path, version, true)] := by
  cases content with
  | directive verb line => exact lendsMarker.elim
  | remark comments => exact lendsMarker.elim
  | block group =>
      obtain ⟨isRequire, ⟨line, collapses, trailing⟩, marked⟩ := lendsMarker
      have collapsed := Block.collapsed?_eq_some_iff.mpr ⟨line, collapses, rfl⟩
      have isDirective : { verb := group.verb, line } ∈ directives (.block group) := by
        simp [directives, collapses.lines]
      obtain ⟨name, version, arguments⟩ :=
        Directive.arguments_of_fault?_eq_none (faultless _ isDirective) isRequire
      change line.arguments = [name, version] at arguments
      have required : ∀ other : Line, other.arguments = line.arguments →
          Directive.required? { verb := group.verb, line := other } =
            some (name.value, version.value) := by
        intro other same
        simp [Directive.required?, Directive.pathAndVersion?, same, arguments, isRequire]
      refine ⟨name.value, version.value, ?_, ?_⟩
      · simp [directives, collapses.lines, Directive.stated?_eq, required line rfl, trailing,
          Clauses.isIndirect_ofComment_none]
      · have trailingAfter : (group.collapsedTo line).comments.trailing =
            group.comments.trailing := by
          simp [Block.collapsedTo, trailing]
        simp [tidied?, collapsed, collapses.lines, directives, Directive.stated?_eq,
          required (group.collapsedTo line) rfl, trailingAfter, marked]

theorem lendsMarker_sorted_iff {content : Content} :
    content.sorted.LendsMarker ↔ content.LendsMarker := by
  cases content with
  | directive verb line => exact .rfl
  | remark comments => exact .rfl
  | block group => exact Block.lendsMarker_sorted_iff

end Content

namespace Manifest

variable {manifest : Manifest}

/-- What a manifest states is read off its directives one by one. -/
theorem stated_eq_directives (manifest : Manifest) :
    manifest.stated = manifest.directives.filterMap Directive.stated? := by
  rw [stated, requirements, List.map_filterMap]
  rfl

/-- A sound manifest states no module twice. -/
theorem distinct_stated (sound : manifest.IsSound) : (manifest.stated.map Prod.fst).Nodup := by
  have distinct := sound.distinct
  rw [required, List.map_map] at distinct
  rw [stated, List.map_map]
  exact distinct

/-- Sorting keeps every requirement with its marker. -/
theorem stated_sorted (manifest : Manifest) :
    manifest.sorted.stated.Perm manifest.stated := by
  rw [stated_eq_directives, stated_eq_directives]
  exact manifest.directives_sorted.filterMap _

/-- Sorting does not change whether some block lends its marker. -/
theorem lendsMarker_sorted (manifest : Manifest) :
    manifest.sorted.LendsMarker ↔ manifest.LendsMarker := by
  simp [LendsMarker, sorted, Content.lendsMarker_sorted_iff]

/-- What a statement states is stated by the manifest. -/
theorem mem_stated_of_statement
    {statement : Statement}
    (member : statement ∈ manifest.statements)
    {entry : Text × Text × Bool}
    (isStated : entry ∈ statement.content.directives.filterMap Directive.stated?) :
    entry ∈ manifest.stated := by
  rw [stated_eq_directives, directives, List.filterMap_flatMap]
  exact List.mem_flatMap.mpr ⟨statement, member, isStated⟩

/-- Tidying keeps every requirement with its marker exactly where no block lends its marker. -/
theorem stated_tidied_iff
    (sound : manifest.IsSound) :
    manifest.tidied.stated.Perm manifest.stated ↔ ¬manifest.LendsMarker := by
  have afterwards : manifest.tidied.stated =
      manifest.statements.flatMap fun statement =>
        (statement.content.tidied?.elim [] Content.directives).filterMap Directive.stated? := by
    rw [stated_eq_directives, directives_tidied, List.filterMap_flatMap]
  constructor
  · rintro same ⟨statement, member, lendsMarker⟩
    have faultless : ∀ directive ∈ statement.content.directives, directive.fault? = none :=
      fun directive inside =>
        sound.faultless directive (List.mem_flatMap.mpr ⟨statement, member, inside⟩)
    obtain ⟨path, version, before, after⟩ :=
      Content.stated_of_lendsMarker lendsMarker faultless
    have isDirect : (path, version, false) ∈ manifest.stated :=
      mem_stated_of_statement member (by simp [before])
    have isIndirect : (path, version, true) ∈ manifest.stated := by
      rw [← same.mem_iff, afterwards]
      exact List.mem_flatMap.mpr ⟨statement, member, by simp [after]⟩
    have impossible :=
      List.inj_on_of_nodup_map (distinct_stated sound) isDirect isIndirect rfl
    cases impossible
  · intro keepsMarkers
    rw [afterwards, stated_eq_directives, directives, List.filterMap_flatMap]
    refine .of_eq (List.flatMap_congr fun statement member => ?_)
    exact Content.stated_tidied? fun lendsMarker =>
      keepsMarkers ⟨statement, member, lendsMarker⟩

/-- The canonical form keeps every requirement with its marker where no block lends its marker. -/
theorem stated_canonical_iff
    (sound : manifest.IsSound) :
    manifest.canonical.stated.Perm manifest.stated ↔ ¬manifest.LendsMarker := by
  rw [← lendsMarker_sorted, ← stated_tidied_iff (isSound_sorted sound)]
  exact (stated_sorted manifest).symm.congr_right _

/-- The canonical form requires the same, in some order. -/
theorem required_canonical (manifest : Manifest) :
    manifest.canonical.required.Perm manifest.required := by
  rw [required_eq, required_eq]
  exact (manifest.said_canonical .require).filterMap _

/-- Directives that are the same but for numbers and comments above them state the same. -/
theorem stated_of_reread
    {again : Manifest}
    (same :
      again.directives.map (Directive.bare ∘ Directive.unnumbered) =
        manifest.directives.map (Directive.bare ∘ Directive.unnumbered)) :
    again.stated = manifest.stated := by
  have ofReread :
      Directive.stated? ∘ (Directive.bare ∘ Directive.unnumbered) = Directive.stated? := by
    funext directive
    rw [Function.comp_apply, Directive.stated?_eq, Directive.stated?_eq]
    rfl
  have sameStated := congrArg (List.filterMap Directive.stated?) same
  rw [List.filterMap_map, List.filterMap_map, ofReread] at sameStated
  rw [stated_eq_directives, stated_eq_directives, sameStated]

end Manifest

/--
Formatting a manifest that was read keeps every requirement and its version.  It keeps the markers
as well, in memory and in the text, unless a block lends its marker to its only line.
-/
theorem stated_of_format
    {text : Text}
    {manifest : Manifest}
    (read : Manifest.ofText text = .ok manifest) :
    manifest.sorted.stated.Perm manifest.stated ∧
      (manifest.tidied.stated.Perm manifest.stated ↔ ¬manifest.LendsMarker) ∧
      (manifest.canonical.stated.Perm manifest.stated ↔ ¬manifest.LendsMarker) ∧
      manifest.canonical.required.Perm manifest.required ∧
      ∃ again,
        Manifest.ofText manifest.format = .ok again ∧
          again.stated = manifest.canonical.stated := by
  have sound := Manifest.isSound_ofText read
  obtain ⟨again, reread, same⟩ := Manifest.ofText_toText (Manifest.isSound_canonical sound)
  exact
    ⟨manifest.stated_sorted, Manifest.stated_tidied_iff sound,
      Manifest.stated_canonical_iff sound, manifest.required_canonical, again, reread,
      Manifest.stated_of_reread same⟩

/-- A block with a marker behind its opening line and a single line without a comment. -/
private def lendingText : Text :=
  "module m\n\nrequire ( // indirect\n\texample.com/a v1.0.0\n)\n".toList

/-- What the text with the lent marker is read as. -/
private def lending : Manifest where
  statements :=
    [{ content := .directive .mainModule { arguments := ["m".toList], number := 1 }
       blankBefore := false },
      { content :=
          .block
            { verb := .require
              lines := [{ arguments := ["example.com/a".toList, "v1.0.0".toList], number := 4 }]
              comments := { trailing := some "// indirect".toList }
              number := 3 }
        blankBefore := true }]

/-- The only requirement is direct before and indirect afterwards. -/
theorem stated_of_format_lending :
    Manifest.ofText lendingText = .ok lending ∧
      lending.stated = [("example.com/a".toList, "v1.0.0".toList, false)] ∧
      lending.canonical.stated = [("example.com/a".toList, "v1.0.0".toList, true)] ∧
      ¬lending.canonical.stated.Perm lending.stated := by
  have read : Manifest.ofText lendingText = .ok lending := by decide +kernel
  obtain ⟨_, _, keepsMarkers, _⟩ := stated_of_format read
  refine ⟨read, by decide +kernel, by decide +kernel, ?_⟩
  rw [keepsMarkers, not_not]
  refine ⟨_, List.mem_cons_of_mem _ List.mem_cons_self, rfl, ⟨_, ⟨rfl, by simp, .inr rfl⟩, rfl⟩, ?_⟩
  decide +kernel

end ModuleUpdate
