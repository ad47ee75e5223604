import ModuleUpdate.Proofs.Text
import ModuleUpdate.Proofs.Version.Spelling

namespace ModuleUpdate

/-!
# The grammar of semantic versions

A text is read as a semantic version exactly if it is the spelling of that version and the version
is well formed: its numbers fit a word, and its identifiers are accepted and consist of Latin
letters, digits and hyphens.  Each reader takes what it is for and stops in front of the rest.
-/

namespace SemanticVersion

/-- Identifiers that are accepted and consist of characters of identifiers. -/
def AreIdentifiers (accepts : Text → Bool) (identifiers : List Text) : Prop :=
  ∀ identifier ∈ identifiers,
    accepts identifier = true ∧ ∀ character ∈ identifier, isIdentifierCharacter character = true

instance (accepts : Text → Bool) (identifiers : List Text) :
    Decidable (AreIdentifiers accepts identifiers) :=
  decidable_of_iff
    (identifiers.all (fun identifier =>
      accepts identifier && identifier.all isIdentifierCharacter) = true)
    (by simp [AreIdentifiers])

/-- A version that can be read. -/
structure IsWellFormed (version : SemanticVersion) : Prop where
  major : version.major < Text.wordLimit
  minor : version.minor < Text.wordLimit
  patch : version.patch < Text.wordLimit
  prerelease : AreIdentifiers isPrereleaseIdentifier version.prerelease
  build : AreIdentifiers isBuildIdentifier version.build

theorem hasSuperfluousZero_ofNatural (number : Nat) :
    hasSuperfluousZero (Text.ofNatural number) = false := by
  rcases Nat.eq_zero_or_pos number with rfl | positive
  · decide
  · rw [hasSuperfluousZero, Bool.and_eq_false_iff]
    exact .inl (by simpa using Text.head?_ofNatural positive)

theorem word?_ofNatural
    {number : Nat}
    (fits : number < Text.wordLimit) :
    Text.word? (Text.ofNatural number) = some number := by
  rw [Text.word?, Text.natural?_ofNatural, Option.filter_some, if_pos (decide_eq_true fits)]

/-- A number is read exactly if its digits stand there and no other digit follows. -/
theorem readNumber?_eq_some_iff
    {text rest : Text}
    {number : Nat} :
    readNumber? text = some (number, rest) ↔
      text = Text.ofNatural number ++ rest ∧ number < Text.wordLimit ∧
        ∀ character ∈ rest.head?, character.isDigit = false := by
  constructor
  · intro read
    refine ⟨text_of_readNumber? read, ?_⟩
    simp only [readNumber?] at read
    split at read
    · cases read
    · obtain ⟨spelled, isNumber, same⟩ := Option.map_eq_some_iff.mp read
      cases same
      have ends := List.head?_dropWhile_not Char.isDigit text
      refine ⟨?_, fun character isFirst => ?_⟩
      · rw [Text.word?, Option.filter_eq_some_iff] at isNumber
        exact of_decide_eq_true isNumber.2
      · rw [Option.mem_def.mp isFirst] at ends
        simpa using ends
  · rintro ⟨rfl, fits, stops⟩
    obtain ⟨digits, behind⟩ :=
      Text.takeWhile_of_stops (fun _ member => Text.isDigit_of_mem_ofNatural member) stops
    simp only [readNumber?]
    rw [digits, behind, hasSuperfluousZero_ofNatural, word?_ofNatural fits]
    rfl

/-- A character that goes on with a row of identifiers. -/
private def goesOn (character : Char) : Bool :=
  isIdentifierCharacter character || character == '.'

private theorem isIdentifierCharacter_dot : isIdentifierCharacter '.' = false := by
  decide

/-- Identifiers that stand in a version are told apart by the dots between them. -/
theorem AreIdentifiers.dot_not_mem
    {accepts : Text → Bool}
    {identifiers : List Text}
    (areIdentifiers : AreIdentifiers accepts identifiers) :
    ∀ identifier ∈ identifiers, '.' ∉ identifier := by
  intro identifier member dot
  have isCharacter := (areIdentifiers identifier member).2 '.' dot
  rw [isIdentifierCharacter_dot] at isCharacter
  cases isCharacter

/-- The characters of joined identifiers. -/
theorem AreIdentifiers.of_mem_join
    {accepts : Text → Bool}
    {identifiers : List Text}
    (areIdentifiers : AreIdentifiers accepts identifiers)
    {character : Char}
    (member : character ∈ Text.join ['.'] identifiers) :
    isIdentifierCharacter character = true ∨ character = '.' := by
  rcases Text.mem_join member with isDot | ⟨identifier, isIdentifier, inside⟩
  · exact .inr (List.mem_singleton.mp isDot)
  · exact .inl ((areIdentifiers identifier isIdentifier).2 character inside)

/-- Identifiers are read up to the first character that does not go on with them. -/
theorem readTail?_tailText
    {mark : Char}
    {accepts : Text → Bool}
    {identifiers : List Text}
    {rest : Text}
    (areIdentifiers : AreIdentifiers accepts identifiers)
    (stops : ∀ character ∈ rest.head?,
      isIdentifierCharacter character = false ∧ character ≠ '.' ∧ character ≠ mark) :
    readTail? mark accepts (tailText mark identifiers ++ rest) = some (identifiers, rest) := by
  cases identifiers with
  | nil =>
      cases rest with
      | nil => rfl
      | cons first following =>
          simp only [tailText, List.nil_append, readTail?]
          rw [if_neg (stops first rfl).2.2]
  | cons first others =>
      have inside :
          ∀ character ∈ Text.join ['.'] (first :: others), goesOn character = true := by
        intro character member
        rcases areIdentifiers.of_mem_join member with isCharacter | rfl
        · rw [goesOn, isCharacter, Bool.true_or]
        · rfl
      have ends : ∀ character ∈ rest.head?, goesOn character = false := by
        intro character isFirst
        obtain ⟨notInside, notDot, _⟩ := stops character isFirst
        simp [goesOn, notInside, notDot]
      obtain ⟨row, behind⟩ := Text.takeWhile_of_stops inside ends
      have read :
          readIdentifiers (Text.join ['.'] (first :: others) ++ rest) =
            (first :: others, rest) := by
        have split :
            (Text.join ['.'] (first :: others)).splitOn '.' = first :: others :=
          List.splitOn_intercalate '.' areIdentifiers.dot_not_mem (by simp)
        exact Prod.ext (congrArg (List.splitOn '.') row |>.trans split) behind
      have accepted : (first :: others).all accepts = true :=
        List.all_eq_true.mpr fun identifier member => (areIdentifiers identifier member).1
      simp only [tailText, List.cons_append, readTail?, if_true, read]
      rw [if_pos accepted]

/-- What is read behind a mark are identifiers. -/
theorem areIdentifiers_of_readTail?
    {mark : Char}
    {accepts : Text → Bool}
    {text rest : Text}
    {identifiers : List Text}
    (read : readTail? mark accepts text = some (identifiers, rest)) :
    AreIdentifiers accepts identifiers := by
  cases text with
  | nil =>
      cases read
      exact fun _ member => nomatch member
  | cons character behind =>
      simp only [readTail?] at read
      split at read
      · split at read
        · next accepted =>
            cases read
            intro identifier member
            refine ⟨List.all_eq_true.mp accepted identifier member, fun inner inside => ?_⟩
            have joined :
                inner ∈ Text.join ['.'] (readIdentifiers behind).1 :=
              Text.mem_join_of_mem ['.'] member inside
            simp only [readIdentifiers] at joined member
            rw [Text.join, List.intercalate_splitOn] at joined
            have belongs := List.mem_takeWhile_imp joined
            have notDot : inner ≠ '.' := by
              rintro rfl
              exact Text.not_mem_of_mem_splitOn member inside
            simpa [notDot] using belongs
        · cases read
      · cases read
        exact fun _ member => nomatch member

/-- A number is read up to the dot behind it. -/
private theorem readNumber?_dot
    {number : Nat}
    (fits : number < Text.wordLimit)
    (rest : Text) :
    readNumber? (Text.ofNatural number ++ '.' :: rest) = some (number, '.' :: rest) := by
  refine readNumber?_eq_some_iff.mpr ⟨rfl, fits, fun character isFirst => ?_⟩
  rw [← Option.mem_some.mp isFirst]
  decide

private theorem after?_dot (rest : Text) : Text.after? ['.'] ('.' :: rest) = some rest :=
  Text.after?_eq_some_iff.mpr rfl

/-- Identifiers that follow start with their mark. -/
private theorem mark_of_mem_head?
    {mark character : Char}
    {identifiers : List Text}
    (isFirst : character ∈ (tailText mark identifiers).head?) :
    character = mark := by
  cases identifiers with
  | nil => cases isFirst
  | cons => exact (Option.mem_some.mp isFirst).symm

/-- A well-formed version is read from its spelling. -/
theorem parse?_toText
    {version : SemanticVersion}
    (wellFormed : version.IsWellFormed) :
    parse? version.toText = some version := by
  obtain ⟨major, minor, patch, prerelease, build⟩ := version
  obtain ⟨majorFits, minorFits, patchFits, arePrerelease, areBuild⟩ := wellFormed
  have spelled :
      toText { major, minor, patch, prerelease, build } =
        Text.ofNatural major ++ '.' :: (Text.ofNatural minor ++ '.' ::
          (Text.ofNatural patch ++ (tailText '-' prerelease ++ tailText '+' build))) := by
    simp [toText]
  have patchRead :
      readNumber? (Text.ofNatural patch ++ (tailText '-' prerelease ++ tailText '+' build)) =
        some (patch, tailText '-' prerelease ++ tailText '+' build) := by
    refine readNumber?_eq_some_iff.mpr ⟨rfl, patchFits, fun character isFirst => ?_⟩
    cases prerelease with
    | nil =>
        rw [mark_of_mem_head? isFirst]
        decide
    | cons =>
        rw [← Option.mem_some.mp isFirst]
        decide
  have prereleaseRead :
      readTail? '-' isPrereleaseIdentifier (tailText '-' prerelease ++ tailText '+' build) =
        some (prerelease, tailText '+' build) := by
    refine readTail?_tailText arePrerelease fun character isFirst => ?_
    rw [mark_of_mem_head? isFirst]
    decide
  have buildRead :
      readTail? '+' isBuildIdentifier (tailText '+' build) = some (build, []) := by
    have read :
        readTail? '+' isBuildIdentifier (tailText '+' build ++ []) = some (build, []) :=
      readTail?_tailText areBuild (by simp)
    rwa [List.append_nil] at read
  simp only [parse?, spelled, readNumber?_dot majorFits, readNumber?_dot minorFits, after?_dot,
    patchRead, prereleaseRead, buildRead, Option.bind_eq_bind, Option.bind_some, if_true]

/-- A version that was read is well formed. -/
theorem isWellFormed_of_parse?
    {text : Text}
    {version : SemanticVersion}
    (read : parse? text = some version) :
    version.IsWellFormed := by
  simp only [parse?, Option.bind_eq_bind, Option.bind_eq_some_iff, Prod.exists,
    Option.ite_none_right_eq_some] at read
  obtain ⟨major, _, majorRead, minor, _, ⟨_, _, minorRead⟩, patch, _, ⟨_, _, patchRead⟩,
    prerelease, _, prereleaseRead, build, _, buildRead, _, made⟩ := read
  cases made
  exact
    { major := (readNumber?_eq_some_iff.mp majorRead).2.1
      minor := (readNumber?_eq_some_iff.mp minorRead).2.1
      patch := (readNumber?_eq_some_iff.mp patchRead).2.1
      prerelease := areIdentifiers_of_readTail? prereleaseRead
      build := areIdentifiers_of_readTail? buildRead }

/-- A text is read as a version exactly if it spells the version and the version is well formed. -/
theorem parse?_eq_some_iff
    {text : Text}
    {version : SemanticVersion} :
    parse? text = some version ↔ text = version.toText ∧ version.IsWellFormed := by
  constructor
  · exact fun read => ⟨text_of_parse? read, isWellFormed_of_parse? read⟩
  · rintro ⟨rfl, wellFormed⟩
    exact parse?_toText wellFormed

end SemanticVersion

end ModuleUpdate
