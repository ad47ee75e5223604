import ModuleUpdate.Proofs.Manifest.Rereading

namespace ModuleUpdate

/-!
# Directives

What a manifest says are its directives without their comments.  A manifest is consistent when its
directives have the arguments that their verbs ask for and no module is required twice, and sound
when it is readable besides.  A sound manifest that is printed is read back as a manifest that says
the same.
-/

namespace Directive

/-- The directive without the comments above it. -/
def bare (directive : Directive) : Directive :=
  { directive with
    line :=
      { directive.line with comments := { directive.line.comments with before := [] } } }

/-- The directive as if it was not read from a text. -/
def unnumbered (directive : Directive) : Directive :=
  { directive with line := directive.line.unnumbered }

/-- The verb and the arguments alone. -/
def plain (directive : Directive) : Directive :=
  { verb := directive.verb, line := { arguments := directive.line.arguments } }

/-- A directive with another verb has no path and version for this one. -/
theorem pathAndVersion?_of_ne
    {verb : Verb}
    {directive : Directive}
    (other : directive.verb ≠ verb) :
    directive.pathAndVersion? verb = none := by
  simp only [pathAndVersion?]
  split <;> simp [other]

/-- The path and the version of a requirement. -/
def required? (directive : Directive) : Option (Text × Text) :=
  directive.pathAndVersion? .require

/-- The path and the version of a requirement are those that the directive states. -/
theorem requirement?_map (directive : Directive) :
    (directive.requirement?.map fun requirement => (requirement.path, requirement.version)) =
      directive.required? := by
  simp only [requirement?, required?]
  rw [Option.map_map]
  exact Option.map_id'

/-- Directives that pass the check behind required modules. -/
theorem check_eq_ok_iff
    (required : List Text)
    (directives : List Directive) :
    check required directives = .ok () ↔
      (∀ directive ∈ directives, directive.fault? = none) ∧
        ((directives.filterMap required?).map Prod.fst).Nodup ∧
        ∀ path ∈ (directives.filterMap required?).map Prod.fst, path ∉ required := by
  induction directives generalizing required with
  | nil => simp [check]
  | cons directive following inductionHypothesis =>
      have pair := requirement?_map directive
      simp only [check]
      cases isFault : directive.fault? with
      | some fault => simp [isFault]
      | none =>
          cases states : directive.requirement? with
          | none =>
              rw [states] at pair
              simp [isFault, inductionHypothesis, ← pair]
          | some requirement =>
              rw [states] at pair
              by_cases again : requirement.path ∈ required
              · simp [again, ← pair]
              · simp only [again, if_false, inductionHypothesis, List.mem_cons, not_or]
                simp [← pair, isFault, again]
                grind

end Directive

namespace Manifest

/-- The modules that a manifest requires with their versions, in order. -/
def required (manifest : Manifest) : List (Text × Text) :=
  manifest.requirements.map fun requirement => (requirement.path, requirement.version)

/-- What a manifest says with a verb. -/
def said (manifest : Manifest) (verb : Verb) : List Directive :=
  (manifest.directives.filter fun directive => directive.verb = verb).map Directive.plain

/-- A readable manifest that passes the check of its directives. -/
structure IsSound (manifest : Manifest) : Prop where
  readable : Statement.AreReadable manifest.statements
  faultless : ∀ directive ∈ manifest.directives, directive.fault? = none
  distinct : (manifest.required.map Prod.fst).Nodup

/-- A manifest that passes the check of its directives, whether or not it can be read back. -/
structure IsConsistent (manifest : Manifest) : Prop where
  faultless : ∀ directive ∈ manifest.directives, directive.fault? = none
  distinct : (manifest.required.map Prod.fst).Nodup

/-- A sound manifest is consistent. -/
theorem IsSound.isConsistent
    {manifest : Manifest}
    (sound : manifest.IsSound) :
    manifest.IsConsistent :=
  ⟨sound.faultless, sound.distinct⟩

/-- A consistent manifest whose text can be read back is sound. -/
theorem IsConsistent.isSound
    {manifest : Manifest}
    (consistent : manifest.IsConsistent)
    (readable : Statement.AreReadable manifest.statements) :
    manifest.IsSound :=
  ⟨readable, consistent.faultless, consistent.distinct⟩

/-- What is read off the directives with one verb is read off what is said with it. -/
private theorem filterMap_said
    {read : Directive → Option α}
    {verb : Verb}
    (ofPlain : ∀ directive, read directive.plain = read directive)
    (ofVerb : ∀ directive, directive.verb ≠ verb → read directive = none)
    (manifest : Manifest) :
    (manifest.said verb).filterMap read = manifest.directives.filterMap read := by
  simp only [said]
  rw [List.filterMap_map, List.filterMap_filter]
  apply List.filterMap_congr
  intro directive _
  by_cases isVerb : directive.verb = verb
  · simp [isVerb, ofPlain]
  · simp [isVerb, ofVerb directive isVerb]

/-- The requirements are read off the directives one by one. -/
theorem required_eq_directives (manifest : Manifest) :
    manifest.required = manifest.directives.filterMap Directive.required? := by
  simp only [required, requirements]
  rw [List.map_filterMap]
  exact List.filterMap_congr fun directive _ => directive.requirement?_map

/-- Comments above directives do not change the requirements. -/
theorem requirements_eq_bare (manifest : Manifest) :
    manifest.requirements =
      (manifest.directives.map Directive.bare).filterMap Directive.requirement? := by
  rw [List.filterMap_map]
  rfl

/-- The requirements only depend on what is said with their verb. -/
theorem required_eq (manifest : Manifest) :
    manifest.required = (manifest.said .require).filterMap Directive.required? := by
  rw [required_eq_directives]
  exact (filterMap_said (fun _ => rfl) (fun _ => Directive.pathAndVersion?_of_ne) manifest).symm

/-- The exclusions only depend on what is said with their verb. -/
theorem exclusions_eq (manifest : Manifest) :
    manifest.exclusions = (manifest.said .exclude).filterMap Directive.exclusion? := by
  rw [filterMap_said (fun _ => rfl)]
  · rfl
  · intro directive other
    simp [Directive.exclusion?, Directive.pathAndVersion?_of_ne other]

/-- The replacements only depend on what is said with their verb. -/
theorem replacements_eq (manifest : Manifest) :
    manifest.replacements = (manifest.said .replace).filterMap Directive.replacement? := by
  rw [filterMap_said (fun _ => rfl)]
  · rfl
  · intro directive other
    simp [Directive.replacement?, other]

/-- The value of a verb is that of the first directive that says one with it. -/
theorem value?_eq (manifest : Manifest) (verb : Verb) :
    manifest.value? verb = ((manifest.said verb).filterMap (Directive.value? verb)).head? := by
  rw [filterMap_said (fun _ => rfl)]
  · rw [List.head?_filterMap]
    rfl
  · intro directive other
    simp only [Directive.value?]
    split <;> simp [other]

/-- Comments above directives do not change what is said. -/
theorem said_eq_bare (manifest : Manifest) (verb : Verb) :
    manifest.said verb =
      ((manifest.directives.map Directive.bare).filter fun directive =>
        directive.verb = verb).map Directive.plain := by
  rw [List.filter_map, List.map_map]
  rfl

/-- Manifests with the same verbs and arguments say the same. -/
theorem said_congr
    {first second : Manifest}
    (same : first.directives.map Directive.plain = second.directives.map Directive.plain)
    (verb : Verb) :
    first.said verb = second.said verb := by
  have ofPlain : ∀ manifest : Manifest,
      manifest.said verb =
        (manifest.directives.map Directive.plain).filter fun directive =>
          directive.verb = verb := by
    intro manifest
    rw [List.filter_map]
    rfl
  rw [ofPlain first, ofPlain second, same]

/-- What is said with a verb stands in some directive of it. -/
theorem mem_said_iff
    {manifest : Manifest}
    {verb : Verb}
    {directive : Directive} :
    directive ∈ manifest.said verb ↔
      ∃ original ∈ manifest.directives, original.verb = verb ∧ original.plain = directive := by
  simp [said, and_assoc]

/-- Comments above directives do not change whether they have a fault. -/
theorem faultless_iff_bare (manifest : Manifest) :
    (∀ directive ∈ manifest.directives, directive.fault? = none) ↔
      ∀ directive ∈ manifest.directives.map Directive.bare, directive.fault? = none := by
  rw [List.forall_mem_map]
  rfl

/-- Whether directives have a fault only depends on what is said. -/
theorem faultless_iff (manifest : Manifest) :
    (∀ directive ∈ manifest.directives, directive.fault? = none) ↔
      ∀ verb, ∀ directive ∈ manifest.said verb, directive.fault? = none := by
  constructor
  · rintro faultless verb _ member
    obtain ⟨original, isDirective, _, rfl⟩ := mem_said_iff.mp member
    exact faultless original isDirective
  · intro faultless directive member
    exact faultless directive.verb directive.plain (mem_said_iff.mpr ⟨directive, member, rfl, rfl⟩)

/-- A manifest passes its check if no directive has a fault and no module is required twice. -/
theorem check_eq_ok_iff (manifest : Manifest) :
    Directive.check [] manifest.directives = .ok () ↔
      (∀ directive ∈ manifest.directives, directive.fault? = none) ∧
        (manifest.required.map Prod.fst).Nodup := by
  rw [Directive.check_eq_ok_iff, required_eq_directives]
  simp

/-- A manifest that says the same as a consistent one is consistent. -/
theorem isConsistent_of_said
    {consistent manifest : Manifest}
    (isConsistent : consistent.IsConsistent)
    (same : ∀ verb, (manifest.said verb).Perm (consistent.said verb)) :
    manifest.IsConsistent := by
  refine ⟨manifest.faultless_iff.mpr ?_, ?_⟩
  · intro verb directive member
    exact consistent.faultless_iff.mp isConsistent.faultless verb directive
      ((same verb).mem_iff.mp member)
  · have distinct := isConsistent.distinct
    rw [required_eq] at distinct ⊢
    exact (((same .require).filterMap _).map _).nodup_iff.mpr distinct

/-- A readable manifest that says the same as a sound one is sound. -/
theorem isSound_of_said
    {sound manifest : Manifest}
    (isSound : sound.IsSound)
    (same : ∀ verb, (manifest.said verb).Perm (sound.said verb))
    (readable : Statement.AreReadable manifest.statements) :
    manifest.IsSound :=
  (isConsistent_of_said isSound.isConsistent same).isSound readable

/-- A manifest that was read is sound. -/
theorem isSound_ofText
    {text : Text}
    {manifest : Manifest}
    (read : Manifest.ofText text = .ok manifest) :
    manifest.IsSound := by
  unfold ofText at read
  split at read
  · cases read
  · next statements found =>
      dsimp only at read
      split at read
      · cases read
      · next checked =>
          cases read
          obtain ⟨faultless, distinct⟩ := (check_eq_ok_iff _).mp checked
          exact ⟨Statement.areReadable_ofText found, faultless, distinct⟩

end Manifest

private theorem Content.directives_withLead
    (lead : List Text)
    (content : Content) :
    (content.withLead lead).directives.map Directive.bare =
      content.directives.map Directive.bare := by
  cases content <;> rfl

/-- Leaving out numbers leaves them out of the directives. -/
private theorem Content.directives_unnumbered (content : Content) :
    content.unnumbered.directives = content.directives.map Directive.unnumbered := by
  cases content with
  | directive verb line => rfl
  | block group => simp [unnumbered, Block.unnumbered, directives, Directive.unnumbered]
  | remark comments => rfl

namespace Draft

/-- The directives of the statements read so far, without the comments above them. -/
private def directives (draft : Draft) : List Directive :=
  (Manifest.mk draft.statements).directives.map Directive.bare

/-- The statements of a draft hold its directives. -/
private theorem directives_flushed (draft : Draft) :
    (Manifest.mk draft.flushed).directives.map Directive.bare = draft.directives := by
  simp only [flushed, directives]
  split
  · rfl
  · simp [Manifest.directives, Content.directives]

/-- A placed statement adds its directives. -/
private theorem directives_place (draft : Draft) (content : Content) :
    (draft.place content).directives =
      draft.directives ++ content.directives.map Directive.bare := by
  cases content with
  | remark comments => simp [place, directives, Content.directives]
  | directive verb line =>
      have sameDirectives := Content.directives_withLead draft.pending (.directive verb line)
      simp [place, directives, Manifest.directives, sameDirectives]
  | block group =>
      have sameDirectives := Content.directives_withLead draft.pending (.block group)
      simp [place, directives, Manifest.directives, sameDirectives]

private theorem directives_placeStatement (draft : Draft) (statement : Statement) :
    (draft.placeStatement statement).directives =
      draft.directives ++ statement.content.directives.map Directive.bare := by
  simp only [placeStatement]
  rw [directives_place]
  congr 1
  split
  · exact directives_flushed draft
  · rfl

/-- Statements that are placed one by one add their directives in order. -/
private theorem directives_foldl (statements : List Statement) (draft : Draft) :
    (statements.foldl placeStatement draft).directives =
      draft.directives ++ (Manifest.mk statements).directives.map Directive.bare := by
  induction statements generalizing draft with
  | nil => simp [Manifest.directives]
  | cons statement following inductionHypothesis =>
      rw [List.foldl_cons, inductionHypothesis, directives_placeStatement]
      simp [Manifest.directives]

end Draft

/-- Statements settle without a change of a directive but for the comments above it. -/
theorem Statement.directives_settled (statements : List Statement) :
    (Manifest.mk (settled statements)).directives.map Directive.bare =
      (Manifest.mk statements).directives.map Directive.bare := by
  cases statements with
  | nil => rfl
  | cons first following =>
      rw [settled, Draft.directives_flushed, Draft.directives_foldl, Draft.directives_place]
      simp [Draft.directives, Manifest.directives]

private theorem Manifest.directives_unnumbered (statements : List Statement) :
    (Manifest.mk (statements.map Statement.unnumbered)).directives =
      (Manifest.mk statements).directives.map Directive.unnumbered := by
  simp [directives, List.flatMap_map, List.map_flatMap, Statement.unnumbered,
    Content.directives_unnumbered]

/-- Directives that are the same but for numbers and comments above them say the same. -/
theorem Manifest.said_of_reread
    {manifest again : Manifest}
    (same :
      again.directives.map (Directive.bare ∘ Directive.unnumbered) =
        manifest.directives.map (Directive.bare ∘ Directive.unnumbered))
    (verb : Verb) :
    again.said verb = manifest.said verb := by
  have samePlain := congrArg (List.map Directive.plain) same
  rw [List.map_map, List.map_map] at samePlain
  exact said_congr samePlain verb

/-- Statements that settle keep their directives but for numbers and the comments above them. -/
theorem Manifest.directives_of_settled
    {manifest again : Manifest}
    (settled :
      again.statements.map Statement.unnumbered =
        (Statement.settled manifest.statements).map Statement.unnumbered) :
    again.directives.map (Directive.bare ∘ Directive.unnumbered) =
      manifest.directives.map (Directive.bare ∘ Directive.unnumbered) := by
  have sameNumbers := congrArg (fun statements => (Manifest.mk statements).directives) settled
  simp only [Manifest.directives_unnumbered] at sameNumbers
  have sameSettled := Statement.directives_settled manifest.statements
  calc
    again.directives.map (Directive.bare ∘ Directive.unnumbered) =
        (again.directives.map Directive.unnumbered).map Directive.bare := by
      rw [List.map_map]
    _ = ((Manifest.mk (Statement.settled manifest.statements)).directives.map
          Directive.bare).map Directive.unnumbered := by
      rw [sameNumbers, List.map_map, List.map_map]
      rfl
    _ = manifest.directives.map (Directive.bare ∘ Directive.unnumbered) := by
      rw [sameSettled, List.map_map]
      rfl

/-- A sound manifest is read back from its text with the statements that its own settle to. -/
theorem Manifest.exists_settled
    {manifest : Manifest}
    (sound : manifest.IsSound) :
    ∃ again,
      Manifest.ofText manifest.toText = .ok again ∧
        again.statements.map Statement.unnumbered =
          (Statement.settled manifest.statements).map Statement.unnumbered := by
  obtain ⟨statements, read, settled⟩ := Statement.ofText_print sound.readable
  refine ⟨{ statements }, ?_, settled⟩
  have checked : Directive.check [] (Manifest.mk statements).directives = .ok () := by
    have saysSame : ∀ verb, (Manifest.mk statements).said verb = manifest.said verb :=
      Manifest.said_of_reread (Manifest.directives_of_settled settled)
    rw [Manifest.check_eq_ok_iff, Manifest.faultless_iff, Manifest.required_eq, saysSame,
      ← Manifest.required_eq]
    have faultless := manifest.faultless_iff.mp sound.faultless
    exact ⟨fun verb => saysSame verb ▸ faultless verb, sound.distinct⟩
  have readPrinted : Statement.ofText manifest.toText = .ok statements := read
  simp only [Manifest.ofText]
  rw [readPrinted]
  dsimp only
  rw [checked]

/--
A sound manifest is read back from its text: its directives are the same, but for their line
numbers and the comments above them.
-/
theorem Manifest.ofText_toText
    {manifest : Manifest}
    (sound : manifest.IsSound) :
    ∃ again,
      Manifest.ofText manifest.toText = .ok again ∧
        again.directives.map (Directive.bare ∘ Directive.unnumbered) =
          manifest.directives.map (Directive.bare ∘ Directive.unnumbered) := by
  obtain ⟨again, read, settled⟩ := Manifest.exists_settled sound
  exact ⟨again, read, Manifest.directives_of_settled settled⟩

end ModuleUpdate
