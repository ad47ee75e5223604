import ModuleUpdate.Proofs.Manifest.Adjusting
import ModuleUpdate.Proofs.Manifest.Marking

namespace ModuleUpdate

/-!
# Requirements of an updated manifest

Every requirement of a manifest that a batch of dependencies has gone over is one that was there
before or a new one, adjusted by each dependency behind it.  What is left of it, the version and
the markers, only depends on the dependencies with its name, and adjusting it again by the whole
batch changes nothing.
-/

namespace Dependency

/-- A line as it is once all dependencies are applied. -/
def adjustAll (dependencies : List Dependency) (line : Line) : Line :=
  dependencies.foldl (fun line dependency => dependency.adjust line) line

/-- The dependencies of a batch that are about one module. -/
def about (dependencies : List Dependency) (path : Text) : List Dependency :=
  dependencies.filter fun dependency => dependency.name = path

/-- The markers that a batch sets on a module, in order. -/
def markers (dependencies : List Dependency) (path : Text) : List Bool :=
  (about dependencies path).map Dependency.indirect

/-- The token of the version that a batch leads to, or the one that stood there. -/
def lastVersion (dependencies : List Dependency) (path : Text) (version : Token) : Token :=
  ((about dependencies path).map fun dependency => Token.ofValue dependency.version).getLastD
    version

theorem about_cons_self
    (dependency : Dependency)
    (following : List Dependency) :
    about (dependency :: following) dependency.name =
      dependency :: about following dependency.name := by
  simp [about]

theorem about_cons_of_ne
    {dependency : Dependency}
    {path : Text}
    (isOther : dependency.name ≠ path)
    (following : List Dependency) :
    about (dependency :: following) path = about following path := by
  simp [about, isOther]

theorem about_append
    (earlier later : List Dependency)
    (path : Text) :
    about (earlier ++ later) path = about earlier path ++ about later path :=
  List.filter_append ..

/-- A batch sets the last version and all markers. -/
theorem adjustAll_eq
    (dependencies : List Dependency)
    (name version : Token)
    (before : List Text)
    (trailing : Option Text)
    (number : Nat) :
    adjustAll dependencies
        { arguments := [name, version], comments := { before, trailing }, number } =
      { arguments := [name, lastVersion dependencies name.value version]
        comments :=
          { before, trailing := Clauses.markAll trailing (markers dependencies name.value) }
        number } := by
  induction dependencies generalizing version trailing with
  | nil => rfl
  | cons dependency following inductionHypothesis =>
      rw [adjustAll, List.foldl_cons]
      by_cases isName : dependency.name = name.value
      · have adjusted :
            dependency.adjust
                { arguments := [name, version], comments := { before, trailing }, number } =
              { arguments := [name, Token.ofValue dependency.version]
                comments :=
                  { before, trailing := Clauses.markComment trailing dependency.indirect }
                number } := by
          simp [adjust, Line.changeAt, Line.requires, isName, Line.withVersion, Line.withIndirect]
        rw [adjusted]
        refine (inductionHypothesis _ _).trans ?_
        rw [lastVersion, lastVersion, markers, markers, ← isName, about_cons_self,
          List.map_cons, List.map_cons, List.getLastD_cons]
        rfl
      · have adjusted :
            dependency.adjust
                { arguments := [name, version], comments := { before, trailing }, number } =
              { arguments := [name, version], comments := { before, trailing }, number } := by
          simp [adjust, Line.changeAt, Line.requires, Ne.symm isName]
        rw [adjusted]
        refine (inductionHypothesis _ _).trans ?_
        rw [lastVersion, lastVersion, markers, markers, about_cons_of_ne isName]

/-- What a batch leaves of a line is decided by the version and the markers behind it. -/
theorem adjustAll_eq_self_iff
    {dependencies : List Dependency}
    {line : Line}
    {name version : Token}
    (arguments : line.arguments = [name, version]) :
    adjustAll dependencies line = line ↔
      lastVersion dependencies name.value version = version ∧
        Clauses.markAll line.comments.trailing (markers dependencies name.value) =
          line.comments.trailing := by
  obtain ⟨_, ⟨before, trailing⟩, number⟩ := line
  dsimp only at arguments
  subst arguments
  rw [adjustAll_eq]
  simp

/-- Adjusting an old line once more changes nothing. -/
theorem adjustAll_again
    {dependencies : List Dependency}
    {line : Line}
    {name version : Token}
    (arguments : line.arguments = [name, version])
    (once :
      false ∈ markers dependencies name.value →
        ¬Clauses.IsDoublyMarked line.comments.trailing) :
    adjustAll dependencies (adjustAll dependencies line) = adjustAll dependencies line := by
  obtain ⟨_, ⟨before, trailing⟩, number⟩ := line
  dsimp only at arguments once
  subst arguments
  rw [adjustAll_eq, adjustAll_eq, Clauses.markAll_again once]
  simp only [lastVersion]
  cases (about dependencies name.value).map fun dependency =>
    Token.ofValue dependency.version <;> rfl

/-- The last of some elements does not depend on those in front of them. -/
private theorem getLastD_append_cons
    (front : List α)
    (first : α)
    (others : List α)
    (default : α) :
    (front ++ first :: others).getLastD default = others.getLastD first := by
  simp [List.getLastD_eq_getLast?, List.getLast?_append, List.getLast?_cons]

/-- Adjusting a new line by a whole batch changes nothing once its last part did. -/
theorem adjustAll_ofRequirement
    (earlier later : List Dependency)
    (dependency : Dependency) :
    let fresh := Line.ofRequirement dependency.name dependency.version
    adjustAll (earlier ++ dependency :: later) (adjustAll (dependency :: later) fresh) =
      adjustAll (dependency :: later) fresh := by
  have isPath : (Token.ofValue dependency.name).value = dependency.name := Token.value_ofValue _
  have spelled : ∀ markers,
      Clauses.markAll none markers = (Clauses.marked [] (markers.getLastD false)).toComment :=
    Clauses.markAll_marked Clauses.isCore_nil false
  simp only [Line.ofRequirement]
  rw [adjustAll_eq, adjustAll_eq, isPath]
  simp only [lastVersion, markers, about_append, about_cons_self, List.map_append, List.map_cons,
    spelled, Clauses.markAll_marked Clauses.isCore_nil, getLastD_append_cons, List.getLastD_cons]

/-- No dependency asks for a path that an earlier one moves away from. -/
def AreInOrder (dependencies : List Dependency) : Prop :=
  dependencies.Pairwise fun earlier later => earlier.majorUpgradeFrom? ≠ some later.name

instance (dependencies : List Dependency) : Decidable (AreInOrder dependencies) :=
  inferInstanceAs (Decidable (dependencies.Pairwise _))

theorem majorUpgradeFrom?_ne (dependency : Dependency) :
    dependency.majorUpgradeFrom? ≠ some dependency.name := by
  intro moves
  have isMajor := (Option.filter_eq_some_iff.mp moves).2
  simp [ModulePath.isMajorChange] at isMajor

end Dependency

namespace Manifest

variable {manifest : Manifest} {dependency : Dependency} {dependencies : List Dependency}

/-- The manifest that a batch of dependencies has gone over. -/
def updated (manifest : Manifest) (dependencies : List Dependency) : Manifest :=
  manifest.revised (dependencies.flatMap Dependency.revisions)

theorem updated_cons
    (manifest : Manifest)
    (dependency : Dependency)
    (following : List Dependency) :
    manifest.updated (dependency :: following) =
      (manifest.revised dependency.revisions).updated following := by
  simp only [updated, revised, List.flatMap_cons, List.foldl_append]

theorem isSound_revisions
    (sound : manifest.IsSound)
    (accepted : dependency.IsAccepted) :
    (manifest.revised dependency.revisions).IsSound := by
  refine isSound_revised sound fun revision member => ?_
  simp only [Dependency.revisions, List.mem_append, List.mem_map, List.mem_cons,
    List.not_mem_nil, or_false] at member
  rcases member with ⟨old, _, rfl⟩ | rfl | rfl
  · trivial
  · exact ⟨accepted.name, accepted.version⟩
  · trivial

theorem isSound_updated
    (sound : manifest.IsSound)
    (accepted : ∀ dependency ∈ dependencies, dependency.IsAccepted) :
    (manifest.updated dependencies).IsSound := by
  induction dependencies generalizing manifest with
  | nil => exact sound
  | cons dependency following inductionHypothesis =>
      rw [updated_cons]
      exact inductionHypothesis (isSound_revisions sound (accepted dependency (by simp)))
        fun other member => accepted other (by simp [member])

/--
A requirement behind a drop, once another one is made sure of, is one from before or the new one.
It is none from before that was dropped.
-/
private theorem origin_of_withRequirement
    (sound : manifest.IsSound)
    {old : Option Text}
    {name version path : Text}
    {directive : Directive}
    (member :
      directive ∈ ((old.elim manifest manifest.drop).withRequirement name version).directives)
    (requires : directive.bare.requires path = true) :
    (old ≠ some path ∧
      ∃ original ∈ manifest.directives,
        original.requires path = true ∧ directive.bare.line = original.bare.line) ∨
      name = path ∧ directive.bare.line = .ofRequirement path version := by
  have ofDropped :
      ∀ original ∈ (old.elim manifest manifest.drop).directives,
        directive.bare = original.bare →
          old ≠ some path ∧
            ∃ original ∈ manifest.directives,
              original.requires path = true ∧ directive.bare.line = original.bare.line := by
    intro original isOriginal same
    rw [same] at requires ⊢
    obtain ⟨inManifest, notDropped⟩ := mem_of_mem_dropped sound.isConsistent isOriginal
    refine ⟨fun isOld => ?_, original, inManifest, requires, rfl⟩
    have absent : original.bare.requires path = false := notDropped path isOld
    rw [requires] at absent
    cases absent
  rw [withRequirement] at member
  split at member
  · exact .inl (ofDropped directive member rfl)
  · rcases bare_of_mem_addRequirement member with ⟨original, isOriginal, same⟩ | isNew
    · exact .inl (ofDropped original isOriginal same)
    · rw [isNew] at requires ⊢
      have isPath : name = path := by
        simpa [Directive.requires, Line.requires, Line.ofRequirement] using requires
      subst isPath
      exact .inr ⟨rfl, rfl⟩

/--
A requirement behind one dependency is one from before, adjusted, or the one that the dependency
asks for.  It is none from before if the dependency moves away from its path.
-/
private theorem origin_of_revisions
    (sound : manifest.IsSound)
    (accepted : dependency.IsAccepted)
    {path : Text}
    {directive : Directive}
    (member : directive ∈ (manifest.revised dependency.revisions).directives)
    (requires : directive.requires path = true) :
    (dependency.majorUpgradeFrom? ≠ some path ∧
      ∃ original ∈ manifest.directives,
        original.requires path = true ∧
          directive.bare.line = dependency.adjust original.bare.line) ∨
      dependency.name = path ∧
        directive.bare.line = dependency.adjust (.ofRequirement path dependency.version) := by
  rw [revised_revisions sound accepted, directives_mapRequirements] at member
  obtain ⟨found, isFound, rfl⟩ := List.mem_map.mp member
  have isRequire : found.verb = .require := by
    by_contra isOther
    simp [Directive.requires, isOther] at requires
  have foundRequires : found.bare.requires path = true := by
    rw [Directive.requires_bare]
    simpa [Directive.requires, isRequire] using requires
  have adjusted :
      (Directive.mk found.verb (dependency.adjust found.line)).bare.line =
        dependency.adjust found.bare.line :=
    dependency.bare_adjust found.line
  rw [if_pos isRequire, adjusted]
  rcases origin_of_withRequirement sound isFound foundRequires with
    ⟨notOld, original, isOriginal, originalRequires, same⟩ | ⟨isName, same⟩
  · rw [same]
    exact .inl ⟨notOld, original, isOriginal, originalRequires, rfl⟩
  · rw [same]
    exact .inr ⟨isName, rfl⟩

/--
A requirement behind a batch is one from before, adjusted by the whole batch, or one that a
dependency asks for, adjusted by it and those behind it.  None of those dependencies moves away
from its path.
-/
theorem origin_of_updated
    (sound : manifest.IsSound)
    (accepted : ∀ dependency ∈ dependencies, dependency.IsAccepted)
    {path : Text}
    {directive : Directive}
    (member : directive ∈ (manifest.updated dependencies).directives)
    (requires : directive.requires path = true) :
    ((∀ dependency ∈ dependencies, dependency.majorUpgradeFrom? ≠ some path) ∧
      ∃ original ∈ manifest.directives,
        original.requires path = true ∧
          directive.bare.line = Dependency.adjustAll dependencies original.bare.line) ∨
      ∃ earlier dependency later,
        dependencies = earlier ++ dependency :: later ∧
          dependency.name = path ∧
            (∀ other ∈ later, other.majorUpgradeFrom? ≠ some path) ∧
              directive.bare.line =
                Dependency.adjustAll (dependency :: later)
                  (.ofRequirement path dependency.version) := by
  induction dependencies generalizing manifest with
  | nil => exact .inl ⟨by simp, directive, member, requires, rfl⟩
  | cons dependency following inductionHypothesis =>
      rw [updated_cons] at member
      have isAccepted := accepted dependency (by simp)
      rcases inductionHypothesis (isSound_revisions sound isAccepted)
          (fun other isOther => accepted other (by simp [isOther])) member with
        ⟨stays, between, isBetween, betweenRequires, adjusted⟩ |
        ⟨earlier, asking, later, rfl, isPath, stays, adjusted⟩
      · rcases origin_of_revisions sound isAccepted isBetween betweenRequires with
          ⟨firstStays, original, isOriginal, originalRequires, first⟩ | ⟨isPath, isNew⟩
        · refine .inl ⟨?_, original, isOriginal, originalRequires, ?_⟩
          · simpa using ⟨firstStays, stays⟩
          · rw [adjusted, first]
            rfl
        · refine .inr ⟨[], dependency, following, rfl, isPath, stays, ?_⟩
          rw [adjusted, isNew]
          rfl
      · exact .inr ⟨dependency :: earlier, asking, later, rfl, isPath, stays, adjusted⟩

/-- Behind one dependency its own module is required, and those from before it that it keeps. -/
theorem requires_revisions
    (sound : manifest.IsSound)
    (accepted : dependency.IsAccepted) :
    (manifest.revised dependency.revisions).Requires dependency.name ∧
      ∀ path,
        dependency.majorUpgradeFrom? ≠ some path →
          manifest.Requires path → (manifest.revised dependency.revisions).Requires path := by
  rw [revised_revisions sound accepted]
  simp only [requires_adjust]
  obtain ⟨own, others⟩ := requires_withRequirement
    (dependency.majorUpgradeFrom?.elim manifest manifest.drop) dependency.name dependency.version
  refine ⟨own, fun path stays required => others path ?_⟩
  cases moves : dependency.majorUpgradeFrom? with
  | none => exact required
  | some old =>
      rw [moves, ne_eq, Option.some_inj] at stays
      exact requires_drop sound (Ne.symm stays) required

/-- A module that a batch asks for is required behind it, unless its path is moved away from. -/
theorem requires_updated
    (sound : manifest.IsSound)
    (accepted : ∀ dependency ∈ dependencies, dependency.IsAccepted)
    {path : Text}
    (asked : manifest.Requires path ∨ ∃ dependency ∈ dependencies, dependency.name = path)
    (stays : ∀ dependency ∈ dependencies, dependency.majorUpgradeFrom? ≠ some path) :
    (manifest.updated dependencies).Requires path := by
  induction dependencies generalizing manifest with
  | nil => exact asked.resolve_right (by simp)
  | cons dependency following inductionHypothesis =>
      have isAccepted := accepted dependency (by simp)
      obtain ⟨own, others⟩ := requires_revisions sound isAccepted
      rw [updated_cons]
      refine inductionHypothesis (isSound_revisions sound isAccepted)
        (fun other member => accepted other (by simp [member])) ?_
        fun other member => stays other (by simp [member])
      rcases asked with required | ⟨asking, isAsking, rfl⟩
      · exact .inl (others path (stays dependency (by simp)) required)
      · rcases List.mem_cons.mp isAsking with rfl | later
        · exact .inl own
        · exact .inr ⟨asking, later, rfl⟩

/-- A path that a dependency moves away from is not required behind the batch. -/
theorem not_requires_updated
    (sound : manifest.IsSound)
    (accepted : ∀ dependency ∈ dependencies, dependency.IsAccepted)
    (inOrder : Dependency.AreInOrder dependencies)
    {dependency : Dependency}
    (isDependency : dependency ∈ dependencies)
    {old : Text}
    (moves : dependency.majorUpgradeFrom? = some old)
    {directive : Directive}
    (member : directive ∈ (manifest.updated dependencies).directives) :
    directive.requires old = false := by
  rw [Bool.eq_false_iff]
  intro requires
  rcases origin_of_updated sound accepted member requires with
    ⟨stays, _⟩ | ⟨earlier, asking, later, rfl, isPath, stays, _⟩
  · exact stays dependency isDependency moves
  · obtain ⟨_, behindAsking, apart⟩ := List.pairwise_append.mp inOrder
    rcases List.mem_append.mp isDependency with isEarlier | isLater
    · exact apart dependency isEarlier asking (by simp) (isPath ▸ moves)
    · rcases List.mem_cons.mp isLater with rfl | isBehind
      · exact dependency.majorUpgradeFrom?_ne (isPath ▸ moves)
      · exact stays dependency isBehind moves

/-- No module that a batch takes the marker from carries it twice. -/
def MarksOnce (manifest : Manifest) (dependencies : List Dependency) : Prop :=
  ∀ dependency ∈ dependencies,
    dependency.indirect = false →
      ∀ directive ∈ manifest.directives,
        directive.requires dependency.name = true →
          ¬Clauses.IsDoublyMarked directive.line.comments.trailing

instance (manifest : Manifest) (dependencies : List Dependency) :
    Decidable (manifest.MarksOnce dependencies) :=
  inferInstanceAs
    (Decidable
      (∀ dependency ∈ dependencies,
        dependency.indirect = false →
          ∀ directive ∈ manifest.directives,
            directive.requires dependency.name = true →
              ¬Clauses.IsDoublyMarked directive.line.comments.trailing))

/-- Adjusting the requirements of an updated manifest by the same batch changes nothing. -/
theorem adjustAll_updated
    (sound : manifest.IsSound)
    (accepted : ∀ dependency ∈ dependencies, dependency.IsAccepted)
    (once : manifest.MarksOnce dependencies)
    {directive : Directive}
    (member : directive ∈ (manifest.updated dependencies).directives)
    (isRequire : directive.verb = .require) :
    Dependency.adjustAll dependencies directive.bare.line = directive.bare.line := by
  have updatedSound := isSound_updated sound accepted
  obtain ⟨name, version, arguments, requires⟩ :=
    exists_requires updatedSound.isConsistent member isRequire
  rcases origin_of_updated sound accepted member requires with
    ⟨_, original, isOriginal, originalRequires, adjusted⟩ |
    ⟨earlier, dependency, later, rfl, isPath, _, adjusted⟩
  · rw [adjusted]
    obtain ⟨first, second, originalArguments, isPath⟩ :
        ∃ first second, original.line.arguments = [first, second] ∧
          Token.value first = name.value := by
      rw [Directive.requires, Bool.and_eq_true, Line.requires_iff] at originalRequires
      exact originalRequires.2
    have sameArguments : original.bare.line.arguments = [first, second] := originalArguments
    refine Dependency.adjustAll_again sameArguments fun takesAway => ?_
    obtain ⟨dependency, isAbout, isDirect⟩ := List.mem_map.mp takesAway
    obtain ⟨isDependency, isName⟩ := List.mem_filter.mp isAbout
    rw [decide_eq_true_eq, isPath] at isName
    exact once dependency isDependency isDirect original isOriginal (isName ▸ originalRequires)
  · rw [adjusted, ← isPath]
    exact Dependency.adjustAll_ofRequirement earlier later dependency

end Manifest

end ModuleUpdate
