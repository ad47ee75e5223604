import ModuleUpdate.Proofs.Manifest.Markers
import ModuleUpdate.Proofs.Manifest.Updated

namespace ModuleUpdate

/-!
# Lent comments

A block that is written without its parentheses lends the comment behind its opening line to its
only requirement, if that has none of its own.  This is the one way in which a requirement that is
read from a formatted manifest may differ from the one that was formatted.
-/

/-- The block lends a comment to a module that it requires. -/
structure Block.LendsTo (block : Block) (path comment : Text) : Prop where
  isRequire : block.verb = .require
  collapses : ∃ line,
    block.Collapses line ∧ line.requires path = true ∧ line.comments.trailing = none
  comment : block.comments.trailing = some comment

/-- The statement is a block that lends a comment to a module. -/
def Content.LendsTo (path comment : Text) : Content → Prop
  | .block group => group.LendsTo path comment
  | _ => False

/-- The comment that opens the statement, if it is a block. -/
def Content.opening? : Content → Option Text
  | .block group => group.comments.trailing
  | _ => none

theorem Content.LendsTo.opening?
    {path comment : Text}
    {content : Content}
    (lends : content.LendsTo path comment) :
    content.opening? = some comment := by
  cases content with
  | block group => exact lends.comment
  | directive verb line => cases lends
  | remark comments => cases lends

/-- A block of the manifest lends a comment to a module. -/
def Manifest.LendsTo (manifest : Manifest) (path comment : Text) : Prop :=
  ∃ statement ∈ manifest.statements, statement.content.LendsTo path comment

namespace Content

theorem lendsTo_of_sorted
    {path comment : Text}
    {content : Content}
    (lends : content.sorted.LendsTo path comment) :
    content.LendsTo path comment := by
  cases content with
  | directive verb line => exact lends
  | remark comments => exact lends
  | block group =>
      obtain ⟨isRequire, ⟨line, collapses, isLent⟩, isComment⟩ := lends
      exact
        ⟨by simpa using isRequire, ⟨line, Block.collapses_sorted_iff.mp collapses, isLent⟩,
          by simpa using isComment⟩

/-- A requirement of a tidied statement has the comment it had, or one that was lent to it. -/
theorem origin_of_tidied?
    {path : Text}
    {content : Content}
    {directive : Directive}
    (member : directive ∈ content.tidied?.elim [] directives)
    (requires : directive.requires path = true) :
    ∃ original ∈ content.directives,
      original.plain = directive.plain ∧
        (directive.line.comments.trailing = original.line.comments.trailing ∨
          ∃ comment,
            original.line.comments.trailing = none ∧
              directive.line.comments.trailing = some comment ∧
                content.LendsTo path comment) := by
  cases content with
  | directive verb line => exact ⟨directive, member, rfl, .inl rfl⟩
  | remark comments => exact ⟨directive, member, rfl, .inl rfl⟩
  | block group =>
      simp only [tidied?] at member
      split at member
      · cases member
      · split at member
        · next collapsed single =>
            obtain ⟨line, collapses, rfl⟩ := Block.collapsed?_eq_some_iff.mp single
            rw [Option.elim_some, directives, List.mem_singleton] at member
            subst member
            refine ⟨{ verb := group.verb, line }, ?_, rfl, ?_⟩
            · simp [directives, collapses.lines]
            · have trailing :
                  (group.collapsedTo line).comments.trailing =
                    line.comments.trailing.or group.comments.trailing :=
                rfl
              rw [trailing]
              cases own : line.comments.trailing with
              | some comment => exact .inl rfl
              | none =>
                  cases lent : group.comments.trailing with
                  | none => exact .inl rfl
                  | some comment =>
                      rw [Directive.requires, Bool.and_eq_true, decide_eq_true_eq] at requires
                      exact
                        .inr
                          ⟨comment, rfl, rfl, requires.1, ⟨line, collapses, requires.2, own⟩, lent⟩
        · exact ⟨directive, member, rfl, .inl rfl⟩

end Content

namespace Manifest

variable {manifest : Manifest} {dependencies : List Dependency}

/-- A requirement of the canonical form has the comment it had, or one that was lent to it. -/
theorem origin_of_canonical
    {path : Text}
    {directive : Directive}
    (member : directive ∈ manifest.canonical.directives)
    (requires : directive.requires path = true) :
    ∃ original ∈ manifest.directives,
      original.plain = directive.plain ∧
        (directive.line.comments.trailing = original.line.comments.trailing ∨
          ∃ comment,
            original.line.comments.trailing = none ∧
              directive.line.comments.trailing = some comment ∧
                manifest.LendsTo path comment) := by
  rw [canonical, directives_tidied] at member
  obtain ⟨_, isSorted, inside⟩ := List.mem_flatMap.mp member
  obtain ⟨statement, isStatement, rfl⟩ := List.mem_map.mp isSorted
  obtain ⟨original, isOriginal, samePlain, trailing⟩ :=
    Content.origin_of_tidied? inside requires
  rw [statement.content.directives_sorted.mem_iff] at isOriginal
  refine ⟨original, List.mem_flatMap.mpr ⟨statement, isStatement, isOriginal⟩, samePlain, ?_⟩
  refine trailing.imp_right ?_
  rintro ⟨comment, noneOwn, isLent, lends⟩
  exact ⟨comment, noneOwn, isLent, statement, isStatement, Content.lendsTo_of_sorted lends⟩

/--
What blocks lend to the modules of a batch carries no marker, and it is spelled as its clauses are
wherever the batch marks the module.
-/
def LendsUnmarked (manifest : Manifest) (dependencies : List Dependency) : Prop :=
  ∀ dependency ∈ dependencies,
    ∀ comment,
      manifest.LendsTo dependency.name comment →
        (Clauses.ofComment (some comment)).isIndirect = false ∧
          (true ∈ Dependency.markers dependencies dependency.name →
            (Clauses.ofComment (some comment)).toComment = some comment)

/-- Where no block opens with a comment, none is lent. -/
theorem lendsUnmarked_of_opening?
    (noneOpens : ∀ statement ∈ manifest.statements, statement.content.opening? = none)
    (dependencies : List Dependency) :
    manifest.LendsUnmarked dependencies := by
  rintro dependency _ comment ⟨statement, isStatement, lends⟩
  have opens := lends.opening?
  rw [noneOpens statement isStatement] at opens
  cases opens

/-- Adjusting the requirements of a formatted manifest by the same batch changes nothing. -/
theorem adjustAll_canonical
    (sound : manifest.IsSound)
    (accepted : ∀ dependency ∈ dependencies, dependency.IsAccepted)
    (once : manifest.MarksOnce dependencies)
    (lends : (manifest.updated dependencies).LendsUnmarked dependencies)
    {directive : Directive}
    (member : directive ∈ (manifest.updated dependencies).canonical.directives)
    (isRequire : directive.verb = .require) :
    Dependency.adjustAll dependencies directive.line = directive.line := by
  have canonicalSound := isSound_canonical (isSound_updated sound accepted)
  obtain ⟨name, version, arguments, requires⟩ :=
    exists_requires canonicalSound.isConsistent member isRequire
  obtain ⟨original, isOriginal, samePlain, trailing⟩ := origin_of_canonical member requires
  have sameVerb : original.verb = directive.verb := congrArg (fun plain => plain.verb) samePlain
  have sameArguments : original.line.arguments = directive.line.arguments :=
    congrArg (fun plain => plain.line.arguments) samePlain
  have originalArguments : original.bare.line.arguments = [name, version] :=
    sameArguments.trans arguments
  have adjusted := adjustAll_updated sound accepted once isOriginal (sameVerb.trans isRequire)
  rw [Dependency.adjustAll_eq_self_iff originalArguments] at adjusted
  rw [Dependency.adjustAll_eq_self_iff arguments]
  refine ⟨adjusted.1, ?_⟩
  have kept :
      Clauses.markAll original.line.comments.trailing
          (Dependency.markers dependencies name.value) =
        original.line.comments.trailing :=
    adjusted.2
  rcases trailing with same | ⟨comment, noneOwn, isLent, lent⟩
  · rw [same, kept]
  · rw [noneOwn] at kept
    rw [isLent]
    cases isAbout : Dependency.about dependencies name.value with
    | nil =>
        rw [Dependency.markers, isAbout]
        rfl
    | cons dependency others =>
        obtain ⟨isDependency, isName⟩ :=
          List.mem_filter.mp (isAbout ▸ List.mem_cons_self :
            dependency ∈ Dependency.about dependencies name.value)
        rw [decide_eq_true_eq] at isName
        obtain ⟨unmarked, keepsSpelling⟩ := lends dependency isDependency comment (isName ▸ lent)
        exact Clauses.markAll_of_unmarked kept unmarked (isName ▸ keepsSpelling)

/-- So it does on the manifest that the formatted text is read as. -/
theorem adjustAll_reread
    (sound : manifest.IsSound)
    (accepted : ∀ dependency ∈ dependencies, dependency.IsAccepted)
    (once : manifest.MarksOnce dependencies)
    (lends : (manifest.updated dependencies).LendsUnmarked dependencies)
    {again : Manifest}
    (same :
      again.directives.map (Directive.bare ∘ Directive.unnumbered) =
        (manifest.updated dependencies).canonical.directives.map
          (Directive.bare ∘ Directive.unnumbered))
    {directive : Directive}
    (member : directive ∈ again.directives)
    (isRequire : directive.verb = .require) :
    Dependency.adjustAll dependencies directive.line = directive.line := by
  have canonicalSound := isSound_canonical (isSound_updated sound accepted)
  have isPrinted := List.mem_map_of_mem (f := Directive.bare ∘ Directive.unnumbered) member
  rw [same] at isPrinted
  obtain ⟨original, isOriginal, samePrint⟩ := List.mem_map.mp isPrinted
  have sameVerb : original.verb = directive.verb := congrArg (fun printed => printed.verb) samePrint
  have sameArguments : original.line.arguments = directive.line.arguments :=
    congrArg (fun printed => printed.line.arguments) samePrint
  have sameTrailing : original.line.comments.trailing = directive.line.comments.trailing :=
    congrArg (fun printed => printed.line.comments.trailing) samePrint
  have originalRequire : original.verb = .require := sameVerb.trans isRequire
  obtain ⟨name, version, arguments, _⟩ :=
    exists_requires canonicalSound.isConsistent isOriginal originalRequire
  have adjusted := adjustAll_canonical sound accepted once lends isOriginal originalRequire
  rw [Dependency.adjustAll_eq_self_iff arguments] at adjusted
  rw [Dependency.adjustAll_eq_self_iff (sameArguments ▸ arguments), ← sameTrailing]
  exact adjusted

end Manifest

end ModuleUpdate
