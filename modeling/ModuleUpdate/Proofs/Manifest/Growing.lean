import ModuleUpdate.Proofs.Manifest.Markers
import ModuleUpdate.Proofs.Manifest.Updated

namespace ModuleUpdate

/-!
# Manifests that hold more for a while

A batch may require a module that it drops again later.  Until then the manifest holds additional
lines: behind those of a block, in a block that a single directive became, or in statements of
their own at the end.  The rest of it stands where it stood, and once the additional lines are
gone, the canonical form shows nothing of them.
-/

section

variable (passing : Text → Prop)

/-- Lines that require modules that will be dropped. -/
def ArePassing (lines : List Line) : Prop :=
  ∀ line ∈ lines, ∃ path, passing path ∧ line.requires path = true

/-- A statement and what it is while it holds passing lines. -/
inductive Content.Grows : Content → Content → Prop where
  | same
      (content : Content) :
      Grows content content
  | extended
      {group : Block}
      {added : List Line} :
      group.verb = .require →
      ArePassing passing added →
      Grows (.block group) (.block { group with lines := group.lines ++ added })
  | opened
      {line : Line}
      {added : List Line} :
      ArePassing passing added →
      Grows (.directive .require line)
        (.block
          { verb := .require
            lines := line.bare :: added
            comments := { before := line.comments.before }
            number := line.number })

/-- A statement that requires nothing but modules that will be dropped. -/
structure Content.IsPassing (content : Content) : Prop where
  verb : content.verb? = some .require
  directives : ∀ directive ∈ content.directives,
    ∃ path, passing path ∧ directive.requires path = true

/-- The statement grows where it stands. -/
structure Statement.Grows (base grown : Statement) : Prop where
  content : base.content.Grows passing grown.content
  blankBefore : grown.blankBefore = base.blankBefore

/-- Statements grow where they stand, and passing statements follow. -/
def Manifest.Grows (base grown : Manifest) : Prop :=
  ∃ kept added,
    grown.statements = kept ++ added ∧
      List.Forall₂ (Statement.Grows passing) base.statements kept ∧
        ∀ statement ∈ added, statement.content.IsPassing passing

end

variable {passing : Text → Prop}

theorem Manifest.grows_refl (manifest : Manifest) : manifest.Grows passing manifest :=
  ⟨manifest.statements, [], by simp, List.forall₂_same.mpr fun _ _ => ⟨.same _, rfl⟩, by simp⟩

/-- Adjusted lines are still passing. -/
theorem ArePassing.adjust
    {lines : List Line}
    (arePassing : ArePassing passing lines)
    (dependency : Dependency) :
    ArePassing passing (lines.map dependency.adjust) := by
  intro line member
  obtain ⟨original, isOriginal, rfl⟩ := List.mem_map.mp member
  simpa using arePassing original isOriginal

/-- What has grown on a statement is still passing once both are adjusted. -/
theorem Content.Grows.adjust
    {base grown : Content}
    (grows : base.Grows passing grown)
    (dependency : Dependency) :
    (base.mapRequirements dependency.adjust).Grows passing
      (grown.mapRequirements dependency.adjust) := by
  cases grows with
  | same => exact .same _
  | extended isRequire arePassing =>
      simp only [mapRequirements, isRequire, if_true, List.map_append]
      exact .extended rfl (arePassing.adjust dependency)
  | @opened line added arePassing =>
      have opened :
          Content.Grows passing (.directive .require (dependency.adjust line)) _ :=
        .opened (arePassing.adjust dependency)
      simpa [mapRequirements, dependency.bare_adjust, dependency.before_adjust,
        dependency.number_adjust] using opened

/-- A passing statement is still passing once it is adjusted. -/
theorem Content.IsPassing.adjust
    {content : Content}
    (isPassing : content.IsPassing passing)
    (dependency : Dependency) :
    (content.mapRequirements dependency.adjust).IsPassing passing := by
  refine ⟨?_, fun directive member => ?_⟩
  · rw [verb?_mapRequirements]
    exact isPassing.verb
  · rw [directives_mapRequirements] at member
    obtain ⟨original, isOriginal, rfl⟩ := List.mem_map.mp member
    obtain ⟨path, passes, requires⟩ := isPassing.directives original isOriginal
    exact ⟨path, passes, (dependency.requires_adjusted original path).trans requires⟩

/-- What has grown on a manifest is still passing once both are adjusted. -/
theorem Manifest.Grows.adjust
    {base grown : Manifest}
    (grows : base.Grows passing grown)
    (dependency : Dependency) :
    (base.mapRequirements dependency.adjust).Grows passing
      (grown.mapRequirements dependency.adjust) := by
  obtain ⟨kept, added, split, areGrown, arePassing⟩ := grows
  refine ⟨_, _, by rw [mapRequirements, split, List.map_append], ?_, ?_⟩
  · simp only [mapRequirements, List.forall₂_map_left_iff, List.forall₂_map_right_iff]
    exact areGrown.imp fun _ _ isGrown =>
      ⟨isGrown.content.adjust dependency, isGrown.blankBefore⟩
  · intro statement member
    obtain ⟨original, isOriginal, rfl⟩ := List.mem_map.mp member
    exact (arePassing original isOriginal).adjust dependency

/-- A line that requires a module is dropped with that module only. -/
theorem Line.head?_any_eq
    {line : Line}
    {path : Text}
    (requires : line.requires path = true)
    (other : Text) :
    (line.arguments.head?.any fun name => name.value == other) = line.requires other := by
  obtain ⟨name, version, arguments, _⟩ := Line.requires_iff.mp requires
  simp [Line.requires, arguments]

/-- The lines that a drop leaves are still passing. -/
theorem ArePassing.filter
    {lines : List Line}
    (arePassing : ArePassing passing lines)
    (keep : Line → Bool) :
    ArePassing passing (lines.filter keep) :=
  fun line member => arePassing line (List.mem_filter.mp member).1

/-- A line that requires another module. -/
def Line.Keeps (path : Text) (line : Line) : Prop :=
  line.requires path = false ∧ ∃ other, line.requires other = true

/-- Lines that require other modules are all left when a module is dropped. -/
theorem Line.filter_of_keeps
    {path : Text}
    {lines : List Line}
    (keeps : ∀ line ∈ lines, line.Keeps path) :
    (lines.filter fun line => !line.arguments.head?.any (·.value == path)) = lines := by
  rw [List.filter_eq_self]
  intro line member
  obtain ⟨notRequired, other, requires⟩ := keeps line member
  rw [Line.head?_any_eq requires, notRequired]
  rfl

/-- A statement whose requirements are all of other modules. -/
def Content.Keeps (path : Text) (content : Content) : Prop :=
  ∀ directive ∈ content.directives, directive.verb = .require → directive.line.Keeps path

/-- A statement that only requires other modules stays when one is dropped. -/
theorem Content.dropRequirement?_of_keeps
    {path : Text}
    {content : Content}
    (keeps : content.Keeps path) :
    content.dropRequirement? path = some content := by
  cases content with
  | remark comments => rfl
  | directive verb line =>
      cases verb with
      | require =>
          have notRequired := (keeps _ (List.mem_singleton_self _) rfl).1
          simp only [dropRequirement?]
          rw [notRequired]
          rfl
      | _ => rfl
  | block group =>
      simp only [dropRequirement?]
      split
      · next isRequire =>
          rw [Line.filter_of_keeps fun line member =>
            keeps _ (List.mem_map_of_mem member) isRequire]
      · rfl

/-- Dropping a passing module takes nothing away from the base. -/
theorem Content.Grows.drop
    {path : Text}
    {base grown : Content}
    (grows : base.Grows passing grown)
    (keeps : base.Keeps path) :
    ∃ dropped, grown.dropRequirement? path = some dropped ∧ base.Grows passing dropped := by
  cases grows with
  | same => exact ⟨base, dropRequirement?_of_keeps keeps, .same base⟩
  | @extended group added isRequire arePassing =>
      have linesKeep : ∀ line ∈ group.lines, line.Keeps path :=
        fun line member => keeps _ (List.mem_map_of_mem member) isRequire
      have stillPassing :=
        arePassing.filter fun line => !line.arguments.head?.any (·.value == path)
      refine ⟨_, ?_, .extended isRequire stillPassing⟩
      simp only [dropRequirement?, isRequire, if_true, List.filter_append,
        Line.filter_of_keeps linesKeep]
  | @opened line added arePassing =>
      have lineKeeps : line.bare.Keeps path := keeps _ (List.mem_singleton_self _) rfl
      have kept := Line.filter_of_keeps (List.forall_mem_singleton.mpr lineKeeps)
      have stillPassing :=
        arePassing.filter fun line => !line.arguments.head?.any (·.value == path)
      refine ⟨_, ?_, .opened stillPassing⟩
      simp only [dropRequirement?, if_true]
      rw [← List.singleton_append, List.filter_append, kept]
      rfl

/-- What is left of a passing statement when a module is dropped is still passing. -/
theorem Content.IsPassing.drop
    {path : Text}
    {content dropped : Content}
    (isPassing : content.IsPassing passing)
    (isDropped : content.dropRequirement? path = some dropped) :
    dropped.IsPassing passing := by
  cases content with
  | remark comments => cases isPassing.verb
  | directive verb line =>
      have isRequire : verb = .require := by simpa [verb?] using isPassing.verb
      subst isRequire
      simp only [dropRequirement?] at isDropped
      split at isDropped
      · cases isDropped
      · cases isDropped
        exact isPassing
  | block group =>
      have isRequire : group.verb = .require := by simpa [verb?] using isPassing.verb
      simp only [dropRequirement?, isRequire, if_true, Option.some_inj] at isDropped
      subst isDropped
      refine ⟨rfl, fun directive member => ?_⟩
      obtain ⟨line, inKept, rfl⟩ := List.mem_map.mp member
      have inGroup := (List.mem_filter.mp inKept).1
      have passes := isPassing.directives { verb := group.verb, line } (List.mem_map_of_mem inGroup)
      rwa [isRequire] at passes

/-- The statements of a base stay when a passing module is dropped. -/
theorem Manifest.Grows.drop
    {path : Text}
    {base grown : Manifest}
    (grows : base.Grows passing grown)
    (keeps : ∀ statement ∈ base.statements, statement.content.Keeps path) :
    base.Grows passing (grown.drop path) := by
  obtain ⟨kept, added, split, areGrown, arePassing⟩ := grows
  refine ⟨kept.filterMap (Statement.changeContent? (Content.dropRequirement? path)),
    added.filterMap (Statement.changeContent? (Content.dropRequirement? path)), ?_, ?_, ?_⟩
  · simp only [Manifest.drop, split, List.filterMap_append]
  · clear split
    generalize base.statements = statements at areGrown keeps ⊢
    induction areGrown with
    | nil => exact .nil
    | @cons first grownFirst _ _ isGrown _ inductionHypothesis =>
        obtain ⟨dropped, isDropped, stillGrown⟩ := isGrown.content.drop (keeps first (by simp))
        have step :
            Statement.changeContent? (Content.dropRequirement? path) grownFirst =
              some { grownFirst with content := dropped } := by
          rw [Statement.changeContent?, isDropped]
          rfl
        rw [List.filterMap_cons_some step]
        exact .cons ⟨stillGrown, isGrown.blankBefore⟩
          (inductionHypothesis fun other member => keeps other (by simp [member]))
  · intro statement member
    obtain ⟨original, isOriginal, step⟩ := List.mem_filterMap.mp member
    obtain ⟨dropped, isDropped, rfl⟩ := Option.map_eq_some_iff.mp step
    exact (arePassing original isOriginal).drop isDropped

/-- A line that requires a passing module joins passing lines. -/
theorem ArePassing.concat
    {lines : List Line}
    (arePassing : ArePassing passing lines)
    {added : Line}
    {path : Text}
    (passes : passing path)
    (requires : added.requires path = true) :
    ArePassing passing (lines ++ [added]) := by
  intro line member
  rcases List.mem_append.mp member with earlier | isAdded
  · exact arePassing line earlier
  · rw [List.mem_singleton] at isAdded
    exact ⟨path, passes, isAdded ▸ requires⟩

/-- A new requirement of a passing module grows a statement further. -/
theorem Content.Grows.add
    {added : Line}
    {path : Text}
    (passes : passing path)
    (requires : added.requires path = true)
    {base grown extended : Content}
    (grows : base.Grows passing grown)
    (isExtended : grown.addRequirement? added = some extended) :
    base.Grows passing extended := by
  have nothing : ArePassing passing [] := fun _ member => nomatch member
  have onlyAdded : ArePassing passing [added] := nothing.concat passes requires
  cases grows with
  | same =>
      simp only [addRequirement?] at isExtended
      split at isExtended
      · cases isExtended
        exact .opened onlyAdded
      · split at isExtended
        · next isRequire =>
            cases isExtended
            exact .extended isRequire onlyAdded
        · cases isExtended
      · cases isExtended
  | @extended group earlier isRequire arePassing =>
      simp only [addRequirement?, isRequire, if_true, Option.some_inj] at isExtended
      subst isExtended
      have further := Grows.extended isRequire (arePassing.concat passes requires)
      simpa [isRequire] using further
  | @opened line earlier arePassing =>
      simp only [addRequirement?, if_true, Option.some_inj] at isExtended
      subst isExtended
      exact .opened (arePassing.concat passes requires)

/-- A passing statement takes a requirement of a passing module. -/
theorem Content.IsPassing.add
    {added : Line}
    {path : Text}
    (passes : passing path)
    (requires : added.requires path = true)
    {content extended : Content}
    (isPassing : content.IsPassing passing)
    (isExtended : content.addRequirement? added = some extended) :
    extended.IsPassing passing := by
  cases content with
  | remark comments => cases isPassing.verb
  | directive verb line =>
      have isRequire : verb = .require := by simpa [verb?] using isPassing.verb
      subst isRequire
      cases isExtended
      refine ⟨rfl, fun directive member => ?_⟩
      obtain ⟨other, inLines, rfl⟩ := List.mem_map.mp member
      rcases List.mem_pair.mp inLines with rfl | rfl
      · exact isPassing.directives { verb := .require, line } (List.mem_singleton_self _)
      · exact ⟨path, passes, by simpa [Directive.requires] using requires⟩
  | block group =>
      have isRequire : group.verb = .require := by simpa [verb?] using isPassing.verb
      simp only [addRequirement?, isRequire, if_true, Option.some_inj] at isExtended
      subst isExtended
      refine ⟨rfl, fun directive member => ?_⟩
      obtain ⟨line, inLines, rfl⟩ := List.mem_map.mp member
      rcases List.mem_append.mp inLines with inGroup | isAdded
      · have passesToo :=
          isPassing.directives { verb := group.verb, line } (List.mem_map_of_mem inGroup)
        rwa [isRequire] at passesToo
      · rw [List.mem_singleton] at isAdded
        exact ⟨path, passes, by simpa [Directive.requires, isAdded] using requires⟩

/-- The last change in a row of elements is one of its last part, where that can be changed. -/
theorem changeLast?_append
    (attempt : α → Option α)
    (front behind : List α) :
    changeLast? attempt (front ++ behind) =
      match changeLast? attempt behind with
      | some changed => some (front ++ changed)
      | none => (changeLast? attempt front).map (· ++ behind) := by
  induction front with
  | nil => cases found : changeLast? attempt behind <;> simp [found, changeLast?]
  | cons first others inductionHypothesis =>
      simp only [List.cons_append, changeLast?]
      rw [inductionHypothesis]
      cases changeLast? attempt behind with
      | some changed => rfl
      | none =>
          cases changeLast? attempt others with
          | some changed => rfl
          | none => cases attempt first <;> rfl

/-- A change that keeps a relation to other elements keeps it in rows of them. -/
theorem forall₂_of_changeLast?
    {Related : β → α → Prop}
    {attempt : α → Option α}
    (keeps : ∀ base element changed,
      Related base element → attempt element = some changed → Related base changed)
    {bases : List β}
    {elements changed : List α}
    (areRelated : List.Forall₂ Related bases elements)
    (found : changeLast? attempt elements = some changed) :
    List.Forall₂ Related bases changed := by
  induction areRelated generalizing changed with
  | nil => cases found
  | @cons base element _ _ isRelated others inductionHypothesis =>
      simp only [changeLast?] at found
      split at found
      · next rest within =>
          cases found
          exact .cons isRelated (inductionHypothesis within)
      · obtain ⟨after, step, rfl⟩ := Option.map_eq_some_iff.mp found
        exact .cons (keeps _ _ _ isRelated step) others

section

variable
  {line : Line}
  {path : Text}
  {bases grown changed : List Statement}

/-- A requirement of a passing module that joins what has grown is grown too. -/
private theorem areGrown_of_changeLast?
    (passes : passing path)
    (requires : line.requires path = true)
    (areGrown : List.Forall₂ (Statement.Grows passing) bases grown)
    (found :
      changeLast? (Statement.changeContent? (Content.addRequirement? line)) grown =
        some changed) :
    List.Forall₂ (Statement.Grows passing) bases changed := by
  refine forall₂_of_changeLast? (fun base element after isGrown step => ?_) areGrown found
  obtain ⟨content, isExtended, rfl⟩ := Option.map_eq_some_iff.mp step
  exact ⟨isGrown.content.add passes requires isExtended, isGrown.blankBefore⟩

/-- A requirement of a passing module that joins passing statements leaves them passing. -/
private theorem arePassing_of_changeLast?
    (passes : passing path)
    (requires : line.requires path = true)
    (arePassing : ∀ statement ∈ grown, statement.content.IsPassing passing)
    (found :
      changeLast? (Statement.changeContent? (Content.addRequirement? line)) grown =
        some changed) :
    ∀ statement ∈ changed, statement.content.IsPassing passing := by
  obtain ⟨front, element, after, behind, rfl, step, _, rfl⟩ := changeLast?_eq_some found
  obtain ⟨content, isExtended, rfl⟩ := Option.map_eq_some_iff.mp step
  exact forall_of_change arePassing fun isPassing => isPassing.add passes requires isExtended

/-- A requirement of a passing module is a passing statement by itself. -/
private theorem isPassing_directive
    (passes : passing path)
    (requires : line.requires path = true) :
    (Content.directive .require line).IsPassing passing := by
  refine ⟨rfl, fun directive inside => ⟨path, passes, ?_⟩⟩
  rw [Content.directives, List.mem_singleton] at inside
  simpa [inside, Directive.requires] using requires

end

/-- A new requirement of a passing module grows a manifest further. -/
theorem Manifest.Grows.add
    {path : Text}
    (passes : passing path)
    (version : Text)
    {base grown : Manifest}
    (grows : base.Grows passing grown) :
    base.Grows passing (grown.addRequirement path version) := by
  obtain ⟨kept, added, split, areGrown, arePassing⟩ := grows
  have requires : (Line.ofRequirement path version).requires path = true := by
    simp [Line.requires, Line.ofRequirement]
  simp only [addRequirement, split, changeLast?_append]
  cases inAdded :
      changeLast?
        (Statement.changeContent? (Content.addRequirement? (.ofRequirement path version)))
        added with
  | some changed =>
      exact ⟨kept, changed, rfl, areGrown,
        arePassing_of_changeLast? passes requires arePassing inAdded⟩
  | none =>
      cases inKept :
          changeLast?
            (Statement.changeContent? (Content.addRequirement? (.ofRequirement path version)))
            kept with
      | some changed =>
          exact ⟨changed, added, rfl, areGrown_of_changeLast? passes requires areGrown inKept,
            arePassing⟩
      | none =>
          refine ⟨kept, _, List.append_assoc .., areGrown, fun statement member => ?_⟩
          rcases List.mem_append.mp member with earlier | isLast
          · exact arePassing statement earlier
          · rw [List.mem_singleton] at isLast
            subst isLast
            exact isPassing_directive passes requires

/-- What a statement requires is still required once it has grown. -/
theorem Content.Grows.exists_requires
    {path : Text}
    {base grown : Content}
    (grows : base.Grows passing grown)
    {directive : Directive}
    (member : directive ∈ base.directives)
    (requires : directive.requires path = true) :
    ∃ other ∈ grown.directives, other.requires path = true := by
  cases grows with
  | same => exact ⟨directive, member, requires⟩
  | extended _ _ =>
      obtain ⟨line, inGroup, rfl⟩ := List.mem_map.mp member
      exact ⟨_, List.mem_map_of_mem (List.mem_append_left _ inGroup), requires⟩
  | @opened line _ _ =>
      rw [directives, List.mem_singleton] at member
      subst member
      exact ⟨{ verb := .require, line := line.bare }, List.mem_cons_self, requires⟩

namespace Manifest

variable {base grown : Manifest} {dependency : Dependency} {dependencies : List Dependency}

/-- What the base requires is still required. -/
theorem Grows.requires
    {path : Text}
    (grows : base.Grows passing grown)
    (required : base.Requires path) :
    grown.Requires path := by
  obtain ⟨kept, added, split, areGrown, _⟩ := grows
  obtain ⟨directive, member, requires⟩ := required
  obtain ⟨statement, isStatement, inside⟩ := List.mem_flatMap.mp member
  obtain ⟨index, atIndex, rfl⟩ := List.getElem_of_mem isStatement
  have isGrown := areGrown.get atIndex (areGrown.length_eq ▸ atIndex)
  obtain ⟨other, inGrown, otherRequires⟩ := isGrown.content.exists_requires inside requires
  refine ⟨other, List.mem_flatMap.mpr ⟨_, ?_, inGrown⟩, otherRequires⟩
  rw [split]
  exact List.mem_append_left _ (List.getElem_mem _)

/--
A base for a batch requires no passing module.  It requires every other module that the batch asks
for, and the batch drops passing modules only.
-/
structure IsBase
    (passing : Text → Prop)
    (dependencies : List Dependency)
    (base : Manifest) :
    Prop where
  requirements : ∀ directive ∈ base.directives,
    directive.verb = .require → ∃ path, ¬passing path ∧ directive.requires path = true
  drops : ∀ dependency ∈ dependencies, ∀ old ∈ dependency.majorUpgradeFrom?, passing old
  asks : ∀ dependency ∈ dependencies, passing dependency.name ∨ base.Requires dependency.name

/-- A base is still one once it is adjusted. -/
theorem isBase_adjust
    (isBase : base.IsBase passing dependencies)
    (dependency : Dependency) :
    (base.mapRequirements dependency.adjust).IsBase passing dependencies := by
  refine ⟨fun directive member isRequire => ?_, isBase.drops, fun asking isAsking => ?_⟩
  · rw [directives_adjust] at member
    obtain ⟨original, isOriginal, rfl⟩ := List.mem_map.mp member
    simp only [dependency.requires_adjusted]
    exact isBase.requirements original isOriginal (dependency.verb_adjusted original ▸ isRequire)
  · exact (isBase.asks asking isAsking).imp_right (requires_adjust dependency).mpr

/-- The statements of a base stay when a passing module is dropped. -/
theorem IsBase.keeps
    (isBase : base.IsBase passing dependencies)
    {path : Text}
    (passes : passing path) :
    ∀ statement ∈ base.statements, statement.content.Keeps path := by
  intro statement isStatement directive inside isRequire
  have member : directive ∈ base.directives :=
    List.mem_flatMap.mpr ⟨statement, isStatement, inside⟩
  obtain ⟨other, stays, requires⟩ := isBase.requirements directive member isRequire
  rw [Directive.requires, Bool.and_eq_true] at requires
  refine ⟨?_, other, requires.2⟩
  rw [Bool.eq_false_iff]
  intro requiresPath
  obtain ⟨first, _, arguments, isOther⟩ := Line.requires_iff.mp requires.2
  obtain ⟨second, _, sameArguments, isPath⟩ := Line.requires_iff.mp requiresPath
  rw [arguments] at sameArguments
  cases sameArguments
  exact stays (isOther.symm.trans isPath ▸ passes)

/-- One dependency adjusts the base, and what has grown on it is still passing. -/
theorem Grows.revisions
    (grows : base.Grows passing grown)
    (isBase : base.IsBase passing dependencies)
    (isDependency : dependency ∈ dependencies)
    (sound : grown.IsSound)
    (accepted : dependency.IsAccepted) :
    (base.mapRequirements dependency.adjust).Grows passing
      (grown.revised dependency.revisions) := by
  rw [revised_revisions sound accepted]
  have dropped :
      base.Grows passing (dependency.majorUpgradeFrom?.elim grown grown.drop) := by
    cases moves : dependency.majorUpgradeFrom? with
    | none => exact grows
    | some old => exact grows.drop (isBase.keeps (isBase.drops dependency isDependency old moves))
  refine Grows.adjust ?_ dependency
  rw [withRequirement]
  split
  · exact dropped
  · next notRequired =>
      refine dropped.add ?_ dependency.version
      refine (isBase.asks dependency isDependency).resolve_right fun required => notRequired ?_
      exact List.any_eq_true.mpr (dropped.requires required)

/-- A batch adjusts the base line by line, and what has grown on it is still passing. -/
theorem Grows.updated
    (grows : base.Grows passing grown)
    (isBase : base.IsBase passing dependencies)
    (sound : grown.IsSound)
    (accepted : ∀ dependency ∈ dependencies, dependency.IsAccepted) :
    (base.mapRequirements (Dependency.adjustAll dependencies)).Grows passing
      (grown.updated dependencies) := by
  induction dependencies generalizing base grown with
  | nil =>
      have sameBase : base.mapRequirements (Dependency.adjustAll []) = base :=
        mapRequirements_eq_self fun _ _ _ => rfl
      rw [sameBase]
      exact grows
  | cons dependency following inductionHypothesis =>
      have isAccepted := accepted dependency (by simp)
      have first := grows.revisions isBase List.mem_cons_self sound isAccepted
      have adjusted := isBase_adjust isBase dependency
      have others := inductionHypothesis first
        { requirements := adjusted.requirements
          drops := fun other member => adjusted.drops other (by simp [member])
          asks := fun other member => adjusted.asks other (by simp [member]) }
        (isSound_revisions sound isAccepted)
        fun other member => accepted other (by simp [member])
      rw [mapRequirements_mapRequirements] at others
      rw [updated_cons]
      exact others

end Manifest

/-- Passing lines are gone once none of them passes any more. -/
theorem ArePassing.eq_nil
    {lines : List Line}
    (arePassing : ArePassing passing lines)
    (nonePasses : ∀ line ∈ lines, ∀ path, passing path → line.requires path = false) :
    lines = [] := by
  refine List.eq_nil_iff_forall_not_mem.mpr fun line member => ?_
  obtain ⟨path, passes, requires⟩ := arePassing line member
  rw [nonePasses line member path passes] at requires
  cases requires

/-- The passing lines of a block of requirements are gone once none of it passes any more. -/
theorem ArePassing.eq_nil_of_block
    {group : Block}
    {lines : List Line}
    (arePassing : ArePassing passing lines)
    (nonePasses : ∀ directive ∈ (Content.block group).directives,
      ∀ path, passing path → directive.requires path = false)
    (within : ∀ line ∈ lines, line ∈ group.lines)
    (isRequire : group.verb = .require) :
    lines = [] := by
  refine arePassing.eq_nil fun line member path passes => ?_
  have notRequired :=
    nonePasses { verb := group.verb, line } (List.mem_map_of_mem (within line member)) path passes
  simpa [Directive.requires, isRequire] using notRequired

/-- A passing statement holds no directive once none of it passes any more. -/
theorem Content.IsPassing.directives_eq_nil
    {content : Content}
    (isPassing : content.IsPassing passing)
    (nonePasses : ∀ directive ∈ content.directives,
      ∀ path, passing path → directive.requires path = false) :
    content.directives = [] := by
  refine List.eq_nil_iff_forall_not_mem.mpr fun directive member => ?_
  obtain ⟨path, passes, requires⟩ := isPassing.directives directive member
  rw [nonePasses directive member path passes] at requires
  cases requires

/-- No blank line is kept above a directive that stands alone. -/
def Content.IsTight : Content → Prop
  | .directive _ line => [] ∉ line.comments.before
  | _ => True

/-- Statements without blank lines above directives that stand alone. -/
def Statement.AreTight (statements : List Statement) : Prop :=
  ∀ statement ∈ statements, statement.content.IsTight

/-- A statement that can be read back has no blank line above a directive. -/
theorem Content.IsReadable.isTight
    {content : Content}
    (readable : content.IsReadable) :
    content.IsTight := by
  cases content with
  | directive verb line => exact fun isBlank => (readable.2 [] isBlank).ne_nil rfl
  | remark comments => trivial
  | block group => trivial

theorem Statement.areTight_of_areReadable
    {statements : List Statement}
    (readable : AreReadable statements) :
    AreTight statements :=
  fun statement member => (readable statement member).isTight

/-- A statement that has grown is tidied to what the base is tidied to. -/
theorem Content.Grows.tidied?_sorted
    {base grown : Content}
    (grows : base.Grows passing grown)
    (isTight : base.IsTight)
    (nonePasses : ∀ directive ∈ grown.directives,
      ∀ path, passing path → directive.requires path = false) :
    grown.sorted.tidied? = base.sorted.tidied? := by
  cases grows with
  | same => rfl
  | @extended group added isRequire arePassing =>
      have noneAdded : added = [] :=
        arePassing.eq_nil_of_block nonePasses (fun _ => List.mem_append_right _) isRequire
      rw [noneAdded, List.append_nil]
  | @opened line added arePassing =>
      have noneAdded : added = [] :=
        arePassing.eq_nil_of_block nonePasses (fun _ => List.mem_cons_of_mem _) rfl
      have sameBefore : line.comments.before.filter (· ≠ []) = line.comments.before :=
        List.filter_eq_self.mpr fun comment member => by
          simpa using ne_of_mem_of_not_mem member isTight
      subst noneAdded
      -- The single line that is left takes the comments of its block back.
      have collapsed :
          Block.collapsed?
              { verb := .require
                lines := [line.bare]
                comments := { before := line.comments.before }
                number := line.number } =
            some line := by
        refine Block.collapsed?_eq_some_iff.mpr ⟨line.bare, ⟨rfl, by simp, .inl rfl⟩, ?_⟩
        simp only [Block.collapsedTo, Line.bare, List.append_nil, sameBefore, Option.or_none]
      have oneLine : stableSort Line.precedes [line.bare] = [line.bare] := rfl
      simp [sorted, Block.sorted, oneLine, tidied?, collapsed]

/-- A passing statement is empty, so tidying takes it away. -/
theorem Content.IsPassing.tidied?_sorted
    {content : Content}
    (isPassing : content.IsPassing passing)
    (nonePasses : ∀ directive ∈ content.directives,
      ∀ path, passing path → directive.requires path = false) :
    content.sorted.tidied? = none := by
  have noDirective := isPassing.directives_eq_nil nonePasses
  cases content with
  | remark comments => cases isPassing.verb
  | directive verb line => cases noDirective
  | block group =>
      have noLine : group.lines = [] := List.map_eq_nil_iff.mp noDirective
      have noSortedLine : group.sorted.lines = [] :=
        List.perm_nil.mp (noLine ▸ group.lines_sorted)
      simp [sorted, tidied?, noSortedLine]

/-- A statement as the canonical form shows it, if it does. -/
def Statement.shown? (statement : Statement) : Option Statement :=
  statement.content.sorted.tidied?.map fun content => { statement with content }

theorem Manifest.canonical_eq_filterMap (manifest : Manifest) :
    manifest.canonical = { statements := manifest.statements.filterMap Statement.shown? } := by
  simp only [canonical, sorted, tidied, List.filterMap_map]
  rfl

/-- Statements that have grown are shown as the base is. -/
private theorem filterMap_shown?_of_grows
    {bases grown : List Statement}
    (areGrown : List.Forall₂ (Statement.Grows passing) bases grown)
    (areTight : Statement.AreTight bases)
    (nonePasses : ∀ statement ∈ grown, ∀ directive ∈ statement.content.directives,
      ∀ path, passing path → directive.requires path = false) :
    grown.filterMap Statement.shown? = bases.filterMap Statement.shown? := by
  induction areGrown with
  | nil => rfl
  | @cons first grownFirst _ _ isGrown _ inductionHypothesis =>
      have sameFirst : grownFirst.shown? = first.shown? := by
        simp only [Statement.shown?, isGrown.content.tidied?_sorted (areTight first (by simp))
          (nonePasses grownFirst (by simp)), isGrown.blankBefore]
      rw [List.filterMap_cons, List.filterMap_cons, sameFirst,
        inductionHypothesis (fun other member => areTight other (by simp [member]))
          fun other member => nonePasses other (by simp [member])]

/-- The canonical form shows nothing of what has grown once none of it passes any more. -/
theorem Manifest.Grows.canonical_eq
    {base grown : Manifest}
    (grows : base.Grows passing grown)
    (areTight : Statement.AreTight base.statements)
    (nonePasses : ∀ directive ∈ grown.directives,
      ∀ path, passing path → directive.requires path = false) :
    grown.canonical = base.canonical := by
  obtain ⟨kept, added, split, areGrown, arePassing⟩ := grows
  have nonePassesIn : ∀ statement ∈ kept ++ added, ∀ directive ∈ statement.content.directives,
      ∀ path, passing path → directive.requires path = false := by
    rw [← split]
    exact fun statement isStatement directive inside =>
      nonePasses directive (List.mem_flatMap.mpr ⟨statement, isStatement, inside⟩)
  have noneShown : added.filterMap Statement.shown? = [] := by
    refine List.filterMap_eq_nil_iff.mpr fun statement member => ?_
    have gone := (arePassing statement member).tidied?_sorted
      (nonePassesIn statement (List.mem_append_right _ member))
    simp [Statement.shown?, gone]
  have sameShown := filterMap_shown?_of_grows areGrown areTight fun statement member =>
    nonePassesIn statement (List.mem_append_left _ member)
  rw [canonical_eq_filterMap, canonical_eq_filterMap, split, List.filterMap_append, noneShown,
    List.append_nil, sameShown]

end ModuleUpdate
