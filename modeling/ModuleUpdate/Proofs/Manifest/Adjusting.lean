import ModuleUpdate.Dependency
import ModuleUpdate.Proofs.Manifest.Revisions

namespace ModuleUpdate

/-!
# Adjusting requirements

No module is required twice in a consistent manifest.  So an edit that changes the first line that
requires a module changes every such line, and it can be told line by line, wherever a line
stands.
-/

/-- Where at most one element can be changed, changing the first one changes each one. -/
theorem changeFirst?_getD
    {attempt : α → Option α}
    {elements : List α}
    (single : elements.Pairwise fun earlier later =>
      attempt earlier = none ∨ attempt later = none) :
    (changeFirst? attempt elements).getD elements =
      elements.map fun element => (attempt element).getD element := by
  induction elements with
  | nil => rfl
  | cons first following inductionHypothesis =>
      obtain ⟨withOthers, others⟩ := List.pairwise_cons.mp single
      simp only [changeFirst?, List.map_cons]
      cases step : attempt first with
      | some changed =>
          have stay : ∀ other ∈ following, (attempt other).getD other = other := by
            intro other member
            rw [(withOthers other member).resolve_left (by simp [step])]
            rfl
          rw [List.map_congr_left stay, List.map_id']
          rfl
      | none =>
          rw [← inductionHypothesis others]
          cases changeFirst? attempt following <;> rfl

/--
Changing the last possible element commutes with a map that leaves the elements as they are and
takes each changed one to what another attempt makes of the element.
-/
theorem changeLast?_map
    {attempt other : α → Option α}
    {map : α → α}
    {elements : List α}
    (unchanged : ∀ element ∈ elements, map element = element)
    (same : ∀ element ∈ elements, other element = (attempt element).map map) :
    changeLast? other elements = (changeLast? attempt elements).map (List.map map) := by
  induction elements with
  | nil => rfl
  | cons first following inductionHypothesis =>
      obtain ⟨unchangedFirst, unchangedOthers⟩ := List.forall_mem_cons.mp unchanged
      obtain ⟨sameFirst, sameOthers⟩ := List.forall_mem_cons.mp same
      have others : following.map map = following := by
        rw [List.map_congr_left unchangedOthers, List.map_id']
      simp only [changeLast?, inductionHypothesis unchangedOthers sameOthers, sameFirst]
      cases changeLast? attempt following with
      | some changed => simp [unchangedFirst]
      | none => cases attempt first <;> simp [others]

namespace Content

/-- The statement with each line that requires something changed. -/
def mapRequirements (change : Line → Line) : Content → Content
  | .directive .require line => .directive .require (change line)
  | .block group =>
      if group.verb = .require then
        .block { group with lines := group.lines.map change }
      else
        .block group
  | content => content

/-- Changes that agree on the requirements of a statement change it alike. -/
theorem mapRequirements_congr
    {first second : Line → Line}
    {content : Content}
    (same : ∀ directive ∈ content.directives,
      directive.verb = .require → first directive.line = second directive.line) :
    content.mapRequirements first = content.mapRequirements second := by
  cases content with
  | remark comments => rfl
  | directive verb line =>
      cases verb with
      | require =>
          have sameLine := same _ (List.mem_singleton_self _) rfl
          exact congrArg (Content.directive .require) sameLine
      | _ => rfl
  | block group =>
      simp only [mapRequirements]
      split
      · next isRequire =>
          have sameLines : group.lines.map first = group.lines.map second :=
            List.map_congr_left fun line member =>
              same _ (List.mem_map_of_mem member) isRequire
          rw [sameLines]
      · rfl

theorem mapRequirements_id (content : Content) :
    (content.mapRequirements fun line => line) = content := by
  cases content with
  | remark comments => rfl
  | directive verb line => cases verb <;> rfl
  | block group => simp [mapRequirements]

/-- A change that leaves every requirement as it is leaves the statement as it is. -/
theorem mapRequirements_eq_self
    {change : Line → Line}
    {content : Content}
    (unchanged : ∀ directive ∈ content.directives,
      directive.verb = .require → change directive.line = directive.line) :
    content.mapRequirements change = content :=
  (mapRequirements_congr unchanged).trans content.mapRequirements_id

/-- Two changes of the requirements are one change. -/
theorem mapRequirements_mapRequirements
    (first second : Line → Line)
    (content : Content) :
    (content.mapRequirements first).mapRequirements second =
      content.mapRequirements fun line => second (first line) := by
  cases content with
  | directive verb line => cases verb <;> rfl
  | remark comments => rfl
  | block group =>
      by_cases isRequire : group.verb = .require
      · simp [mapRequirements, isRequire]
      · simp [mapRequirements, isRequire]

/-- Changing requirements keeps the verb of a statement. -/
theorem verb?_mapRequirements
    (change : Line → Line)
    (content : Content) :
    (content.mapRequirements change).verb? = content.verb? := by
  cases content with
  | directive verb line => cases verb <;> rfl
  | remark comments => rfl
  | block group =>
      simp only [mapRequirements]
      split <;> rfl

/-- Changing requirements changes the directives with their verb. -/
theorem directives_mapRequirements
    (change : Line → Line)
    (content : Content) :
    (content.mapRequirements change).directives =
      content.directives.map fun directive =>
        if directive.verb = .require then
          { directive with line := change directive.line }
        else
          directive := by
  cases content with
  | directive verb line => cases verb <;> rfl
  | remark comments => rfl
  | block group =>
      by_cases isRequire : group.verb = .require
      · simp [mapRequirements, directives, isRequire]
      · simp [mapRequirements, directives, isRequire]

end Content

/-- The change of the lines that require a module. -/
def Line.changeAt (path : Text) (change : Line → Line) (line : Line) : Line :=
  if line.requires path then change line else line

/-- A line that requires another module is left as it is. -/
theorem Line.changeAt_eq_self
    {path : Text}
    {line : Line}
    (notRequired : line.requires path = false)
    (change : Line → Line) :
    line.changeAt path change = line :=
  if_neg (by simp [notRequired])

namespace Content

/-- A statement can be changed exactly if it requires the module. -/
theorem changeRequirement?_eq_none_iff
    {path : Text}
    {change : Line → Line}
    {content : Content} :
    content.changeRequirement? path change = none ↔
      ∀ directive ∈ content.directives, directive.requires path = false := by
  constructor
  · intro nothing directive member
    by_cases isRequire : directive.verb = .require
    · simp [Directive.requires,
        not_requires_of_changeRequirement? nothing member isRequire]
    · simp [Directive.requires, isRequire]
  · intro notRequired
    cases found : content.changeRequirement? path change with
    | none => rfl
    | some changed =>
        obtain ⟨front, line, behind, before, isRequired, _⟩ := directives_changeRequirement? found
        have absent := notRequired { verb := .require, line } (by simp [before])
        simp [Directive.requires, isRequired] at absent

/-- Changing the lines that require a module changes nothing where none does. -/
theorem mapRequirements_changeAt
    {path : Text}
    {content : Content}
    (notRequired : ∀ directive ∈ content.directives, directive.requires path = false)
    (change : Line → Line) :
    content.mapRequirements (Line.changeAt path change) = content := by
  refine mapRequirements_eq_self fun directive member isRequire => ?_
  refine Line.changeAt_eq_self ?_ change
  simpa [Directive.requires, isRequire] using notRequired directive member

/-- Where a statement requires a module at most once, changing it changes each line that does. -/
theorem changeRequirement?_getD
    {path : Text}
    {content : Content}
    (single : content.directives.Pairwise fun earlier later =>
      earlier.requires path = false ∨ later.requires path = false)
    (change : Line → Line) :
    (content.changeRequirement? path change).getD content =
      content.mapRequirements (Line.changeAt path change) := by
  cases content with
  | remark comments => rfl
  | directive verb line =>
      cases verb with
      | require =>
          simp only [changeRequirement?, mapRequirements, Line.changeAt]
          split <;> rfl
      | _ => rfl
  | block group =>
      by_cases isRequire : group.verb = .require
      · let attempt : Line → Option Line := fun line =>
          if line.requires path then some (change line) else none
        have alone : group.lines.Pairwise fun earlier later =>
            attempt earlier = none ∨ attempt later = none := by
          rw [directives, List.pairwise_map] at single
          refine single.imp fun {earlier later} => ?_
          simp [attempt, Directive.requires, isRequire]
        have sameLines :
            group.lines.map (Line.changeAt path change) =
              (changeFirst? attempt group.lines).getD group.lines := by
          rw [changeFirst?_getD alone]
          refine List.map_congr_left fun line _ => ?_
          simp only [Line.changeAt, attempt]
          split <;> rfl
        simp only [changeRequirement?, mapRequirements, isRequire, if_true, sameLines]
        change ((changeFirst? attempt group.lines).map _).getD _ = _
        cases changeFirst? attempt group.lines <;> simp [← isRequire]
      · simp [changeRequirement?, mapRequirements, isRequire]

end Content

namespace Manifest

variable {manifest : Manifest}

/-- The manifest with each line that requires something changed. -/
def mapRequirements (manifest : Manifest) (change : Line → Line) : Manifest where
  statements :=
    manifest.statements.map fun statement =>
      { statement with content := statement.content.mapRequirements change }

/-- Changes that agree on the requirements of a manifest change it alike. -/
theorem mapRequirements_congr
    {first second : Line → Line}
    (same : ∀ directive ∈ manifest.directives,
      directive.verb = .require → first directive.line = second directive.line) :
    manifest.mapRequirements first = manifest.mapRequirements second := by
  simp only [mapRequirements, Manifest.mk.injEq]
  refine List.map_congr_left fun statement member => ?_
  rw [Content.mapRequirements_congr fun directive inside =>
    same directive (List.mem_flatMap.mpr ⟨statement, member, inside⟩)]

/-- A change that leaves every requirement as it is leaves the manifest as it is. -/
theorem mapRequirements_eq_self
    {change : Line → Line}
    (unchanged : ∀ directive ∈ manifest.directives,
      directive.verb = .require → change directive.line = directive.line) :
    manifest.mapRequirements change = manifest := by
  have sameStatement : ∀ statement ∈ manifest.statements,
      ({ statement with content := statement.content.mapRequirements change } : Statement) =
        statement := by
    intro statement member
    rw [Content.mapRequirements_eq_self fun directive inside =>
      unchanged directive (List.mem_flatMap.mpr ⟨statement, member, inside⟩)]
  rw [mapRequirements, List.map_congr_left sameStatement, List.map_id']

theorem mapRequirements_mapRequirements
    (first second : Line → Line)
    (manifest : Manifest) :
    (manifest.mapRequirements first).mapRequirements second =
      manifest.mapRequirements fun line => second (first line) := by
  simp only [mapRequirements, List.map_map, Manifest.mk.injEq]
  refine List.map_congr_left fun statement _ => ?_
  simp [Content.mapRequirements_mapRequirements]

theorem directives_mapRequirements
    (change : Line → Line)
    (manifest : Manifest) :
    (manifest.mapRequirements change).directives =
      manifest.directives.map fun directive =>
        if directive.verb = .require then
          { directive with line := change directive.line }
        else
          directive := by
  simp only [directives, mapRequirements, List.flatMap_map, List.map_flatMap,
    Content.directives_mapRequirements]

/-- A requirement of a consistent manifest states a name and a version, and requires that name. -/
theorem exists_requires
    (consistent : manifest.IsConsistent)
    {directive : Directive}
    (member : directive ∈ manifest.directives)
    (isRequire : directive.verb = .require) :
    ∃ name version,
      directive.line.arguments = [name, version] ∧ directive.requires name.value = true := by
  obtain ⟨name, version, arguments⟩ :=
    Directive.arguments_of_fault?_eq_none (consistent.faultless directive member) isRequire
  exact ⟨name, version, arguments, by simp [Directive.requires, isRequire, Line.requires, arguments]⟩

/-- Changing the requirement of a module changes each line that requires it. -/
theorem changeRequirement?_getD
    (consistent : manifest.IsConsistent)
    (path : Text)
    (change : Line → Line) :
    (manifest.changeRequirement? path change).getD manifest =
      manifest.mapRequirements (Line.changeAt path change) := by
  obtain ⟨within, between⟩ := List.pairwise_flatMap.mp (pairwise_requires consistent path)
  have alone : manifest.statements.Pairwise fun earlier later =>
      Statement.changeContent? (Content.changeRequirement? path change) earlier = none ∨
        Statement.changeContent? (Content.changeRequirement? path change) later = none := by
    refine between.imp fun {earlier later} apart => ?_
    simp only [Statement.changeContent?, Option.map_eq_none_iff,
      Content.changeRequirement?_eq_none_iff]
    by_contra both
    push Not at both
    obtain ⟨⟨first, inFirst, isFirst⟩, second, inSecond, isSecond⟩ := both
    rcases apart first inFirst second inSecond with notFirst | notSecond
    · exact isFirst notFirst
    · exact isSecond notSecond
  have sameStatements :
      (changeFirst? (Statement.changeContent? (Content.changeRequirement? path change))
          manifest.statements).getD manifest.statements =
        (manifest.mapRequirements (Line.changeAt path change)).statements := by
    rw [changeFirst?_getD alone]
    refine List.map_congr_left fun statement member => ?_
    rw [← Content.changeRequirement?_getD (within statement member), Statement.changeContent?]
    cases statement.content.changeRequirement? path change <;> rfl
  have whole := congrArg Manifest.mk sameStatements
  rw [changeRequirement?]
  cases found : changeFirst? (Statement.changeContent? (Content.changeRequirement? path change))
      manifest.statements with
  | none => rwa [found] at whole
  | some statements => rwa [found] at whole

end Manifest

@[simp] theorem Directive.requires_bare
    (path : Text)
    (directive : Directive) :
    directive.bare.requires path = directive.requires path :=
  rfl

namespace Line

/-- A line requires the same module at another version. -/
@[simp] theorem requires_withVersion
    (path version : Text)
    (line : Line) :
    (line.withVersion version).requires path = line.requires path := by
  simp only [withVersion]
  split
  · next same => simp [requires, same]
  · rfl

/-- A line requires the same module with the marker set. -/
@[simp] theorem requires_withIndirect
    (path : Text)
    (indirect : Bool)
    (line : Line) :
    (line.withIndirect indirect).requires path = line.requires path :=
  rfl

@[simp] theorem before_withVersion (version : Text) (line : Line) :
    (line.withVersion version).comments.before = line.comments.before := by
  simp only [withVersion]
  split <;> rfl

@[simp] theorem before_withIndirect (indirect : Bool) (line : Line) :
    (line.withIndirect indirect).comments.before = line.comments.before :=
  rfl

/-- Of two versions the second stays. -/
@[simp] theorem withVersion_withVersion (first second : Text) (line : Line) :
    (line.withVersion first).withVersion second = line.withVersion second := by
  rcases line with ⟨arguments, comments, number⟩
  match arguments with
  | [] | [_] | [_, _] | _ :: _ :: _ :: _ => rfl

/-- The line without the comments above it. -/
def bare (line : Line) : Line :=
  { line with comments := { line.comments with before := [] } }

@[simp] theorem requires_bare (path : Text) (line : Line) :
    line.bare.requires path = line.requires path :=
  rfl

end Line

/-- A new requirement takes another version. -/
@[simp] theorem Line.changeAt_ofRequirement (path first second : Text) :
    (Line.ofRequirement path first).changeAt path (Line.withVersion second) =
      .ofRequirement path second := by
  simp [changeAt, requires, withVersion, ofRequirement]

/-- A statement takes a new requirement at any version, and only the new line differs. -/
theorem Content.addRequirement?_ofRequirement
    {path : Text}
    {content : Content}
    (notRequired : ∀ directive ∈ content.directives, directive.requires path = false)
    (first second : Text) :
    content.addRequirement? (.ofRequirement path second) =
      (content.addRequirement? (.ofRequirement path first)).map
        (mapRequirements (Line.changeAt path (Line.withVersion second))) := by
  cases content with
  | remark comments => rfl
  | directive verb line =>
      cases verb with
      | require =>
          have absent : line.requires path = false := by
            simpa [Directive.requires] using notRequired _ (List.mem_singleton_self _)
          have sameMoved : line.bare.changeAt path (Line.withVersion second) = line.bare :=
            Line.changeAt_eq_self (by simpa using absent) _
          rw [Line.bare] at sameMoved
          simp [addRequirement?, mapRequirements, sameMoved]
      | _ => rfl
  | block group =>
      by_cases isRequire : group.verb = .require
      · have sameLine : ∀ line ∈ group.lines,
            line.changeAt path (Line.withVersion second) = line := by
          intro line member
          refine Line.changeAt_eq_self ?_ _
          simpa [Directive.requires, isRequire] using notRequired _ (List.mem_map_of_mem member)
        simp [addRequirement?, mapRequirements, isRequire, List.map_congr_left sameLine]
      · simp [addRequirement?, isRequire]

/-- A new requirement at one version becomes the new requirement at another. -/
theorem Manifest.mapRequirements_addRequirement
    {manifest : Manifest}
    {path : Text}
    (notRequired : ∀ directive ∈ manifest.directives, directive.requires path = false)
    (first second : Text) :
    (manifest.addRequirement path first).mapRequirements
        (Line.changeAt path (Line.withVersion second)) =
      manifest.addRequirement path second := by
  let change : Statement → Statement := fun statement =>
    { statement with
      content :=
        statement.content.mapRequirements (Line.changeAt path (Line.withVersion second)) }
  have absent : ∀ statement ∈ manifest.statements, ∀ directive ∈ statement.content.directives,
      directive.requires path = false := fun statement member directive inside =>
    notRequired directive (List.mem_flatMap.mpr ⟨statement, member, inside⟩)
  have unchanged : ∀ statement ∈ manifest.statements, change statement = statement := by
    intro statement member
    simp only [change, Content.mapRequirements_changeAt (absent statement member)]
  have sameAttempt : ∀ statement ∈ manifest.statements,
      Statement.changeContent? (Content.addRequirement? (.ofRequirement path second)) statement =
        (Statement.changeContent? (Content.addRequirement? (.ofRequirement path first))
          statement).map change := by
    intro statement member
    simp only [Statement.changeContent?, Option.map_map,
      Content.addRequirement?_ofRequirement (absent statement member) first second]
    rfl
  simp only [addRequirement, changeLast?_map unchanged sameAttempt]
  cases changeLast?
      (Statement.changeContent? (Content.addRequirement? (.ofRequirement path first)))
      manifest.statements with
  | some statements => rfl
  | none =>
      have sameStatements : manifest.statements.map change = manifest.statements := by
        rw [List.map_congr_left unchanged, List.map_id']
      change Manifest.mk ((manifest.statements ++ [_]).map change) = _
      rw [List.map_append, sameStatements]
      simp [change, Content.mapRequirements]

namespace Dependency

/-- The edits that a dependency asks for, in order. -/
def revisions (dependency : Dependency) : List Manifest.Revision :=
  dependency.majorUpgradeFrom?.toList.map .drop ++
    [.require dependency.name dependency.version,
      .markIndirect dependency.name dependency.indirect]

/-- A dependency that can be required, and that is read back from one line. -/
structure IsAccepted (dependency : Dependency) : Prop where
  valid : Version.isValid dependency.version = true
  name : '\n' ∉ dependency.name
  version : '\n' ∉ dependency.version

/-- A line as it is once the dependency is applied, as long as it is not dropped. -/
def adjust (dependency : Dependency) : Line → Line :=
  Line.changeAt dependency.name fun line =>
    (line.withVersion dependency.version).withIndirect dependency.indirect

/-- A line requires the same module once it is adjusted. -/
@[simp] theorem requires_adjust
    (dependency : Dependency)
    (path : Text)
    (line : Line) :
    (dependency.adjust line).requires path = line.requires path := by
  simp only [adjust, Line.changeAt]
  split <;> simp

/-- A directive as it is once the dependency is applied, as long as it is not dropped. -/
def adjusted (dependency : Dependency) (directive : Directive) : Directive :=
  if directive.verb = .require then
    { directive with line := dependency.adjust directive.line }
  else
    directive

/-- A directive requires the same module once it is adjusted. -/
theorem requires_adjusted
    (dependency : Dependency)
    (directive : Directive)
    (path : Text) :
    (dependency.adjusted directive).requires path = directive.requires path := by
  simp only [adjusted]
  split <;> simp [Directive.requires]

theorem verb_adjusted
    (dependency : Dependency)
    (directive : Directive) :
    (dependency.adjusted directive).verb = directive.verb := by
  simp only [adjusted]
  split <;> rfl

/-- The comments above a line are not looked at. -/
theorem bare_adjust (dependency : Dependency) (line : Line) :
    (dependency.adjust line).bare = dependency.adjust line.bare := by
  have sameRequires : line.bare.requires dependency.name = line.requires dependency.name := rfl
  have sameVersion :
      (line.withVersion dependency.version).bare = line.bare.withVersion dependency.version := by
    simp only [Line.withVersion, Line.bare]
    split <;> rfl
  simp only [adjust, Line.changeAt, sameRequires]
  split
  · rw [← sameVersion]
    rfl
  · rfl

@[simp] theorem before_adjust (dependency : Dependency) (line : Line) :
    (dependency.adjust line).comments.before = line.comments.before := by
  simp only [adjust, Line.changeAt]
  split <;> simp

@[simp] theorem number_adjust (dependency : Dependency) (line : Line) :
    (dependency.adjust line).number = line.number := by
  simp only [adjust, Line.changeAt, Line.withIndirect, Line.withVersion]
  split
  · split <;> rfl
  · rfl

end Dependency

namespace Manifest

variable {manifest : Manifest}

/-- Some directive requires the module. -/
def Requires (manifest : Manifest) (path : Text) : Prop :=
  ∃ directive ∈ manifest.directives, directive.requires path = true

/-- What is required can be told from what is said with the verb of requirements. -/
theorem requires_iff_said {path : Text} :
    manifest.Requires path ↔ ∃ directive ∈ manifest.said .require, directive.requires path = true := by
  constructor
  · rintro ⟨directive, member, requires⟩
    have isRequire : directive.verb = .require := by
      rw [Directive.requires, Bool.and_eq_true, decide_eq_true_eq] at requires
      exact requires.1
    exact ⟨directive.plain, mem_said_iff.mpr ⟨directive, member, isRequire, rfl⟩, requires⟩
  · rintro ⟨_, isSaid, requires⟩
    obtain ⟨directive, member, _, rfl⟩ := mem_said_iff.mp isSaid
    exact ⟨directive, member, requires⟩

/-- A change that keeps which modules lines require keeps which modules are required. -/
theorem requires_mapRequirements
    {change : Line → Line}
    {path : Text}
    (keeps : ∀ line, (change line).requires path = line.requires path) :
    (manifest.mapRequirements change).Requires path ↔ manifest.Requires path := by
  have sameDirective : ∀ directive : Directive,
      (if directive.verb = .require then
          { directive with line := change directive.line }
        else
          directive).requires path =
        directive.requires path := by
    intro directive
    split
    · simp [Directive.requires, keeps]
    · rfl
  simp [Requires, directives_mapRequirements, sameDirective]

/-- Adjusting a manifest adjusts its directives. -/
theorem directives_adjust
    (dependency : Dependency)
    (manifest : Manifest) :
    (manifest.mapRequirements dependency.adjust).directives =
      manifest.directives.map dependency.adjusted :=
  directives_mapRequirements dependency.adjust manifest

/-- Adjusting changes nothing of what is required. -/
theorem requires_adjust
    (dependency : Dependency)
    {path : Text} :
    (manifest.mapRequirements dependency.adjust).Requires path ↔ manifest.Requires path :=
  requires_mapRequirements (dependency.requires_adjust path)

/-- The manifest with a requirement of a module, which is new where it had none. -/
def withRequirement (manifest : Manifest) (path version : Text) : Manifest :=
  if manifest.directives.any (Directive.requires path) then
    manifest
  else
    manifest.addRequirement path version

/-- But for the comments above them, the directives are those before and the new one. -/
theorem bare_of_mem_addRequirement
    {path version : Text}
    {directive : Directive}
    (member : directive ∈ (manifest.addRequirement path version).directives) :
    (∃ original ∈ manifest.directives, directive.bare = original.bare) ∨
      directive.bare = { verb := .require, line := .ofRequirement path version } := by
  obtain ⟨front, behind, before, _, after⟩ := directives_addRequirement manifest path version
  have isBare := List.mem_map_of_mem (f := Directive.bare) member
  rw [after, List.mem_append, List.mem_cons] at isBare
  have ofOriginal : directive.bare ∈ front ++ behind →
      ∃ original ∈ manifest.directives, directive.bare = original.bare := by
    rw [← before]
    intro inBefore
    obtain ⟨original, isOriginal, same⟩ := List.mem_map.mp inBefore
    exact ⟨original, isOriginal, same.symm⟩
  rcases isBare with inFront | isNew | inBehind
  · exact .inl (ofOriginal (List.mem_append_left _ inFront))
  · exact .inr isNew
  · exact .inl (ofOriginal (List.mem_append_right _ inBehind))

/-- A manifest with a requirement requires that module and those from before. -/
theorem requires_withRequirement
    (manifest : Manifest)
    (path version : Text) :
    (manifest.withRequirement path version).Requires path ∧
      ∀ other, manifest.Requires other → (manifest.withRequirement path version).Requires other := by
  simp only [withRequirement]
  split
  · next isRequired => exact ⟨List.any_eq_true.mp isRequired, fun _ required => required⟩
  · obtain ⟨front, behind, before, _, after⟩ := directives_addRequirement manifest path version
    have ofBare : ∀ (added : Manifest) (other : Text),
        added.Requires other ↔
          ∃ directive ∈ added.directives.map Directive.bare, directive.requires other = true := by
      intro added other
      simp [Requires]
    refine ⟨?_, fun other required => ?_⟩
    · rw [ofBare, after]
      refine ⟨{ verb := .require, line := .ofRequirement path version }, by simp, ?_⟩
      simp [Directive.requires, Line.requires, Line.ofRequirement]
    · rw [ofBare, before] at required
      rw [ofBare, after]
      obtain ⟨directive, member, requires⟩ := required
      refine ⟨directive, ?_, requires⟩
      rcases List.mem_append.mp member with inFront | inBehind
      · simp [inFront]
      · simp [inBehind]

/-- Every other module is still required when one is dropped. -/
theorem requires_drop
    (sound : manifest.IsSound)
    {path other : Text}
    (isOther : other ≠ path)
    (required : manifest.Requires other) :
    (manifest.drop path).Requires other := by
  obtain ⟨directive, member, requires⟩ := required
  refine ⟨directive, ?_, requires⟩
  rw [directives_drop fun directive inManifest =>
    Directive.arguments_of_fault?_eq_none (sound.faultless directive inManifest)]
  refine List.mem_filter.mpr ⟨member, ?_⟩
  rw [Bool.not_eq_true']
  refine Bool.eq_false_iff.mpr fun requiresPath => isOther ?_
  obtain ⟨_, states⟩ := Directive.requires_iff.mp requires
  obtain ⟨_, statesPath⟩ := Directive.requires_iff.mp requiresPath
  rw [states, Option.some_inj] at statesPath
  exact congrArg Prod.fst statesPath

/-- Behind a dependency's drop stand the directives from before that do not require its old path. -/
theorem mem_of_mem_dropped
    (consistent : manifest.IsConsistent)
    {old : Option Text}
    {directive : Directive}
    (member : directive ∈ (old.elim manifest manifest.drop).directives) :
    directive ∈ manifest.directives ∧ ∀ path ∈ old, directive.requires path = false := by
  cases old with
  | none => exact ⟨member, by simp⟩
  | some path =>
      rw [Option.elim_some, directives_drop fun directive inManifest =>
        Directive.arguments_of_fault?_eq_none (consistent.faultless directive inManifest)] at member
      obtain ⟨inManifest, notRequired⟩ := List.mem_filter.mp member
      refine ⟨inManifest, ?_⟩
      rintro _ ⟨⟩
      simpa using notRequired

/-- Requiring a module makes sure that there is a requirement and sets its version. -/
theorem require_eq
    (consistent : manifest.IsConsistent)
    {version : Text}
    (valid : Version.isValid version = true)
    (path : Text) :
    manifest.require path version =
      .ok
        ((manifest.withRequirement path version).mapRequirements
          (Line.changeAt path (Line.withVersion version))) := by
  simp only [Manifest.require, valid, if_true]
  cases found : manifest.changeRequirement? path (Line.withVersion version) with
  | some changed =>
      obtain ⟨front, line, behind, before, isRequired, _⟩ := directives_changeRequirement? found
      have required : manifest.directives.any (Directive.requires path) = true := by
        simp [before, Directive.requires, isRequired]
      have sameChanged := changeRequirement?_getD consistent path (Line.withVersion version)
      rw [found, Option.getD_some] at sameChanged
      rw [withRequirement, if_pos required, ← sameChanged]
  | none =>
      have notRequired : ∀ directive ∈ manifest.directives, directive.requires path = false :=
        fun directive => not_requires_of_changeRequirement? found
      have noneRequires : ¬manifest.directives.any (Directive.requires path) = true := by
        simpa using notRequired
      rw [withRequirement, if_neg noneRequires, mapRequirements_addRequirement notRequired]

/-- Requiring a module makes sure that there is a requirement, and sets its version. -/
theorem apply_require
    (consistent : manifest.IsConsistent)
    {version : Text}
    (valid : Version.isValid version = true)
    (path : Text) :
    Revision.apply manifest (.require path version) =
      (manifest.withRequirement path version).mapRequirements
        (Line.changeAt path (Line.withVersion version)) := by
  rw [Revision.apply, require_eq consistent valid]

/-- Marking a requirement changes the line that requires the module. -/
theorem apply_markIndirect
    (consistent : manifest.IsConsistent)
    (path : Text)
    (indirect : Bool) :
    Revision.apply manifest (.markIndirect path indirect) =
      manifest.mapRequirements (Line.changeAt path (Line.withIndirect indirect)) :=
  changeRequirement?_getD consistent path (Line.withIndirect indirect)

/-- A dependency drops its old path, makes sure that there is a requirement, and adjusts it. -/
theorem revised_revisions
    (sound : manifest.IsSound)
    {dependency : Dependency}
    (accepted : dependency.IsAccepted) :
    manifest.revised dependency.revisions =
      ((dependency.majorUpgradeFrom?.elim manifest manifest.drop).withRequirement
          dependency.name dependency.version).mapRequirements dependency.adjust := by
  obtain ⟨dropped, isDropped, droppedSound, revised⟩ :
      ∃ dropped,
        dropped = dependency.majorUpgradeFrom?.elim manifest manifest.drop ∧
          dropped.IsSound ∧
          manifest.revised dependency.revisions =
            dropped.revised
              [.require dependency.name dependency.version,
                .markIndirect dependency.name dependency.indirect] := by
    simp only [Dependency.revisions]
    cases dependency.majorUpgradeFrom? with
    | none => exact ⟨_, rfl, sound, rfl⟩
    | some old => exact ⟨_, rfl, isSound_drop sound old, rfl⟩
  have requiredSound :
      (Revision.apply dropped (.require dependency.name dependency.version)).IsSound :=
    Revision.isSound_apply droppedSound ⟨accepted.name, accepted.version⟩
  have adjusts :
      (fun line =>
          Line.changeAt dependency.name (Line.withIndirect dependency.indirect)
            (Line.changeAt dependency.name (Line.withVersion dependency.version) line)) =
        dependency.adjust := by
    funext line
    simp only [Dependency.adjust, Line.changeAt]
    split <;> simp_all
  rw [revised, ← isDropped]
  simp only [Manifest.revised, List.foldl_cons, List.foldl_nil]
  rw [apply_markIndirect requiredSound.isConsistent,
    apply_require droppedSound.isConsistent accepted.valid,
    mapRequirements_mapRequirements, adjusts]

end Manifest

end ModuleUpdate
