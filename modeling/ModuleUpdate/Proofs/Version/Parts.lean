import ModuleUpdate.Proofs.Version.Grammar
import ModuleUpdate.Proofs.Version.Shape

namespace ModuleUpdate

/-!
# Pseudo-versions that are versions

The shape of pseudo-versions is wider than the grammar of versions.  A text of that shape spells a
version exactly if its numbers are written in Latin digits without superfluous zeros and fit a word,
the prerelease that the commit follows consists of identifiers, and the stamp of Latin digits.
-/

namespace Pseudo

/-- Digits of all scripts but Latin ones have higher code points than Latin letters. -/
private theorem range_of_decimalDigit :
    ∀ range ∈ Text.decimalDigitRanges, range = (48, 57) ∨ 128 ≤ range.1 := by
  decide

theorem isDecimalDigit_of_isDigit
    {digit : Char}
    (isDigit : digit.isDigit = true) :
    Text.isDecimalDigit digit = true := by
  have bounds : 48 ≤ digit.toNat ∧ digit.toNat ≤ 57 := Char.isDigit_iff_toNat.mp isDigit
  rw [Text.isDecimalDigit, Text.decimalDigitRanges, Text.inRanges, if_neg (by omega)]
  simp [bounds.2]

/-- Characters of identifiers have the code points of Latin letters, digits and the hyphen. -/
theorem code_of_isIdentifierCharacter
    {character : Char}
    (isCharacter : SemanticVersion.isIdentifierCharacter character = true) :
    character.toNat = 45 ∨ (48 ≤ character.toNat ∧ character.toNat ≤ 57) ∨
      (65 ≤ character.toNat ∧ character.toNat ≤ 90) ∨
        (97 ≤ character.toNat ∧ character.toNat ≤ 122) := by
  simp only [SemanticVersion.isIdentifierCharacter, Char.isAlphanum, Bool.or_eq_true,
    beq_iff_eq] at isCharacter
  rcases isCharacter with (isLetter | isDigit) | rfl
  · rcases Bool.or_eq_true_iff.mp isLetter with isUpper | isLower
    · exact .inr (.inr (.inl (of_decide_eq_true isUpper)))
    · obtain ⟨above, below⟩ := Bool.and_eq_true_iff.mp isLower
      exact .inr (.inr (.inr ⟨of_decide_eq_true above, of_decide_eq_true below⟩))
  · exact .inr (.inl (Char.isDigit_iff_toNat.mp isDigit))
  · exact .inl rfl

/-- A digit of any script is a character of identifiers only if it is Latin. -/
theorem isIdentifierCharacter_iff_of_isDecimalDigit
    {digit : Char}
    (isDigit : Text.isDecimalDigit digit = true) :
    SemanticVersion.isIdentifierCharacter digit = true ↔ digit.isDigit = true := by
  constructor
  · intro isCharacter
    have code := code_of_isIdentifierCharacter isCharacter
    obtain ⟨range, member, above, below⟩ := Text.exists_of_inRanges isDigit
    have bounds : 48 ≤ digit.toNat ∧ digit.toNat ≤ 57 := by
      rcases range_of_decimalDigit range member with rfl | higher
      · exact ⟨above, below⟩
      · omega
    exact Char.isDigit_iff_toNat.mpr bounds
  · intro isLatin
    simp [SemanticVersion.isIdentifierCharacter, Char.isAlphanum, isLatin]

theorem isIdentifierCharacter_of_isCommitDigit
    {digit : Char}
    (isDigit : isCommitDigit digit = true) :
    SemanticVersion.isIdentifierCharacter digit = true := by
  simp only [isCommitDigit, Bool.or_eq_true, Bool.and_eq_true, decide_eq_true_eq] at isDigit
  rcases isDigit with isLatin | ⟨above, below⟩
  · simp [SemanticVersion.isIdentifierCharacter, Char.isAlphanum, isLatin]
  · have isLower : digit.isLower = true :=
      Bool.and_eq_true_iff.mpr
        ⟨decide_eq_true above, decide_eq_true (Char.le_trans below (by decide))⟩
    have isLetter : digit.isAlpha = true := Bool.or_eq_true_iff.mpr (.inr isLower)
    simp [SemanticVersion.isIdentifierCharacter, Char.isAlphanum, isLetter]

/-- Latin digits of a number that fits a word, without a superfluous zero. -/
structure IsPlainNumber (digits : Text) : Prop where
  latin : ∀ digit ∈ digits, digit.isDigit = true
  plain : SemanticVersion.hasSuperfluousZero digits = false
  fits : Text.ofDigits digits < Text.wordLimit

/-- The identifiers of the prerelease that the commit follows. -/
def Earlier.identifiers : Earlier → List Text
  | prerelease tag => tag.splitOn '.'
  | _ => []

/-- The parts are those of a version. -/
structure Spelling.IsSemantic (spelling : Spelling) : Prop where
  major : IsPlainNumber spelling.major
  minor : IsPlainNumber spelling.minor
  patch : IsPlainNumber spelling.patch
  earlier :
    SemanticVersion.AreIdentifiers SemanticVersion.isPrereleaseIdentifier
      spelling.earlier.identifiers
  stamp : ∀ digit ∈ spelling.stamp, digit.isDigit = true

/-- Plain digits are those that a number is written in. -/
theorem isPlainNumber_iff
    {digits : Text}
    (notEmpty : digits ≠ []) :
    IsPlainNumber digits ↔ ∃ number < Text.wordLimit, digits = Text.ofNatural number := by
  constructor
  · rintro ⟨latin, plain, fits⟩
    exact ⟨_, fits, (SemanticVersion.ofNatural_ofDigits notEmpty (List.all_eq_true.mpr latin)
      plain).symm⟩
  · rintro ⟨number, fits, rfl⟩
    exact
      ⟨fun _ => Text.isDigit_of_mem_ofNatural, SemanticVersion.hasSuperfluousZero_ofNatural number,
        by rwa [Text.ofDigits_ofNatural]⟩

namespace Spelling

variable {spelling : Spelling}

/-- The stamp and the commit are an identifier if the digits of the stamp are Latin ones. -/
private theorem isIdentifier_stamp_iff
    (shaped : spelling.IsShaped) :
    (SemanticVersion.isPrereleaseIdentifier (spelling.stamp ++ '-' :: spelling.commit) = true ∧
        ∀ character ∈ spelling.stamp ++ '-' :: spelling.commit,
          SemanticVersion.isIdentifierCharacter character = true) ↔
      ∀ digit ∈ spelling.stamp, digit.isDigit = true := by
  have notNumeric :
      SemanticVersion.isPrereleaseIdentifier (spelling.stamp ++ '-' :: spelling.commit) =
        true := by
    simp [SemanticVersion.isPrereleaseIdentifier, SemanticVersion.isNumeric]
  rw [and_iff_right notNumeric, List.forall_mem_append, List.forall_mem_cons]
  have rest :
      SemanticVersion.isIdentifierCharacter '-' = true ∧
        ∀ digit ∈ spelling.commit, SemanticVersion.isIdentifierCharacter digit = true :=
    ⟨by decide, fun digit member => isIdentifierCharacter_of_isCommitDigit
      (shaped.commit digit member)⟩
  rw [and_iff_left rest]
  exact forall₂_congr fun digit member =>
    isIdentifierCharacter_iff_of_isDecimalDigit (shaped.stamp digit member)

/-- The stamp and the commit hold no dot. -/
private theorem dot_not_mem_stamp
    (shaped : spelling.IsShaped) :
    '.' ∉ spelling.stamp ++ '-' :: spelling.commit := by
  rw [List.mem_append, List.mem_cons]
  rintro (inStamp | isHyphen | inCommit)
  · have isDigit := shaped.stamp '.' inStamp
    rw [isDecimalDigit_dot] at isDigit
    cases isDigit
  · cases isHyphen
  · have isDigit := shaped.commit '.' inCommit
    cases isDigit

/-- The identifiers behind the numbers are those of the earlier prerelease, zero, and the stamp. -/
private theorem areIdentifiers_tag_iff
    (shaped : spelling.IsShaped) :
    SemanticVersion.AreIdentifiers SemanticVersion.isPrereleaseIdentifier
        (spelling.tag.splitOn '.') ↔
      SemanticVersion.AreIdentifiers SemanticVersion.isPrereleaseIdentifier
          spelling.earlier.identifiers ∧
        ∀ digit ∈ spelling.stamp, digit.isDigit = true := by
  have last : (spelling.stamp ++ '-' :: spelling.commit).splitOn '.' =
      [spelling.stamp ++ '-' :: spelling.commit] :=
    List.splitOn_eq_singleton (dot_not_mem_stamp shaped)
  have zero :
      SemanticVersion.isPrereleaseIdentifier ['0'] = true ∧
        ∀ character ∈ ['0'], SemanticVersion.isIdentifierCharacter character = true :=
    ⟨by decide, List.forall_mem_singleton.mpr (by decide)⟩
  rw [← isIdentifier_stamp_iff shaped]
  simp only [tag]
  cases spelling.earlier with
  | nothing =>
      rw [Earlier.lead, List.nil_append, last]
      simp [SemanticVersion.AreIdentifiers, Earlier.identifiers]
  | release =>
      have split :
          (Earlier.release.lead ++ (spelling.stamp ++ '-' :: spelling.commit)).splitOn '.' =
            [['0'], spelling.stamp ++ '-' :: spelling.commit] := by
        rw [← last]
        exact List.splitOn_append_cons_self_of_not_mem (by decide : '.' ∉ ['0']) _
      rw [split]
      simp [SemanticVersion.AreIdentifiers, Earlier.identifiers, zero]
  | prerelease text =>
      have split :
          ((Earlier.prerelease text).lead ++
              (spelling.stamp ++ '-' :: spelling.commit)).splitOn '.' =
            text.splitOn '.' ++ [['0'], spelling.stamp ++ '-' :: spelling.commit] := by
        rw [← last, Earlier.lead, List.append_assoc]
        refine (List.splitOn_append_cons_self text _).trans (congrArg _ ?_)
        exact List.splitOn_append_cons_self_of_not_mem (by decide : '.' ∉ ['0']) _
      rw [split]
      simp only [SemanticVersion.AreIdentifiers, Earlier.identifiers, List.forall_mem_append,
        List.forall_mem_cons]
      simp [zero]

/-- The parts behind the numbers hold no plus sign. -/
private theorem plus_not_mem_tag
    (shaped : spelling.IsShaped) :
    '+' ∉ spelling.tag := by
  have inLead : '+' ∉ spelling.earlier.lead := by
    have fits := shaped.earlier
    cases isEarlier : spelling.earlier with
    | nothing => exact List.not_mem_nil
    | release => decide
    | prerelease text =>
        rw [isEarlier] at fits
        rw [Earlier.lead, List.mem_append, not_or]
        exact ⟨fits, by decide⟩
  rw [tag, List.mem_append, List.mem_append, List.mem_cons]
  rintro (isLead | inStamp | isHyphen | inCommit)
  · exact inLead isLead
  · have isDigit := shaped.stamp '+' inStamp
    revert isDigit
    decide +kernel
  · cases isHyphen
  · have isDigit := shaped.commit '+' inCommit
    cases isDigit

private theorem toText_eq (spelling : Spelling) :
    spelling.toText =
      'v' :: (spelling.major ++ '.' :: (spelling.minor ++ '.' ::
        (spelling.patch ++ '-' :: (spelling.tag ++ spelling.marker)))) := by
  simp [toText, base, tag]

/-- The build identifiers that the marker spells. -/
private theorem exists_tailText_marker (spelling : Spelling) :
    ∃ build,
      SemanticVersion.AreIdentifiers SemanticVersion.isBuildIdentifier build ∧
        spelling.marker = SemanticVersion.tailText '+' build := by
  rw [marker]
  split
  · exact ⟨["incompatible".toList], by decide, by decide⟩
  · exact ⟨[], List.forall_mem_nil _, rfl⟩

/-- The parts of a version spell it. -/
private theorem exists_semantic
    (shaped : spelling.IsShaped)
    (isSemantic : spelling.IsSemantic) :
    ∃ semantic : SemanticVersion,
      semantic.IsWellFormed ∧ spelling.toText = 'v' :: semantic.toText := by
  obtain ⟨major, majorFits, isMajor⟩ :=
    (isPlainNumber_iff shaped.major.1).mp isSemantic.major
  obtain ⟨minor, minorFits, isMinor⟩ :=
    (isPlainNumber_iff shaped.minor.1).mp isSemantic.minor
  obtain ⟨patch, patchFits, isPatch⟩ :=
    (isPlainNumber_iff shaped.patch.1).mp isSemantic.patch
  obtain ⟨build, areBuild, isMarker⟩ := exists_tailText_marker spelling
  have areIdentifiers :=
    (areIdentifiers_tag_iff shaped).mpr ⟨isSemantic.earlier, isSemantic.stamp⟩
  refine
    ⟨{ major, minor, patch, prerelease := spelling.tag.splitOn '.', build },
      ⟨majorFits, minorFits, patchFits, areIdentifiers, areBuild⟩, ?_⟩
  have joined :
      SemanticVersion.tailText '-' (spelling.tag.splitOn '.') = '-' :: spelling.tag := by
    have whole : Text.join ['.'] (spelling.tag.splitOn '.') = spelling.tag :=
      List.intercalate_splitOn '.'
    obtain ⟨first, others, split⟩ :=
      List.exists_cons_of_ne_nil (List.splitOn_ne_nil '.' spelling.tag)
    rw [split] at whole ⊢
    rw [SemanticVersion.tailText, whole]
  rw [toText_eq, isMajor, isMinor, isPatch, isMarker, SemanticVersion.toText, joined]
  simp

/-- What follows the last number of a version stops its digits. -/
private theorem stops_of_tails (prerelease build : List Text) :
    ∀ character ∈
        (SemanticVersion.tailText '-' prerelease ++ SemanticVersion.tailText '+' build).head?,
      Text.isDecimalDigit character = false := by
  cases prerelease with
  | cons => exact stops_of_mark isDecimalDigit_hyphen
  | nil =>
      cases build with
      | cons => exact stops_of_mark (by decide +kernel)
      | nil => exact fun _ isFirst => nomatch isFirst

/-- A number in front of another character is read off in one way only. -/
private theorem isPlainNumber_of_append
    {digits behind other : Text}
    {number : Nat}
    (areDigits : AreDigits digits)
    (fits : number < Text.wordLimit)
    (stops : ∀ character ∈ behind.head?, Text.isDecimalDigit character = false)
    (otherStops : ∀ character ∈ other.head?, Text.isDecimalDigit character = false)
    (same : digits ++ behind = Text.ofNatural number ++ other) :
    IsPlainNumber digits ∧ behind = other := by
  obtain ⟨sameDigits, sameRest⟩ :=
    Text.eq_of_append_of_stops areDigits.2
      (fun _ member => isDecimalDigit_of_isDigit (Text.isDigit_of_mem_ofNatural member))
      stops otherStops same
  exact ⟨(isPlainNumber_iff areDigits.1).mpr ⟨number, fits, sameDigits⟩, sameRest⟩

/-- The identifiers behind the numbers are those of the version. -/
private theorem eq_splitOn_tag
    (shaped : spelling.IsShaped)
    {prerelease build : List Text}
    (arePrerelease :
      SemanticVersion.AreIdentifiers SemanticVersion.isPrereleaseIdentifier prerelease)
    (same :
      '-' :: (spelling.tag ++ spelling.marker) =
        SemanticVersion.tailText '-' prerelease ++ SemanticVersion.tailText '+' build) :
    prerelease = spelling.tag.splitOn '.' := by
  cases prerelease with
  | nil => cases build <;> cases same
  | cons first others =>
      have behindHyphen :
          spelling.tag ++ spelling.marker =
            Text.join ['.'] (first :: others) ++ SemanticVersion.tailText '+' build :=
        (List.cons.inj same).2
      obtain ⟨ownBuild, _, isMarker⟩ := exists_tailText_marker spelling
      have noPlus : ∀ text : Text, '+' ∉ text → ∀ character ∈ text, (character != '+') = true := by
        intro text absent character member
        rw [bne_iff_ne]
        rintro rfl
        exact absent member
      have plusStops : ∀ identifiers : List Text,
          ∀ character ∈ (SemanticVersion.tailText '+' identifiers).head?,
            (character != '+') = false := by
        intro identifiers character isFirst
        cases identifiers with
        | nil => cases isFirst
        | cons =>
            rw [← Option.mem_some.mp isFirst]
            rfl
      have notJoined : '+' ∉ Text.join ['.'] (first :: others) := by
        intro member
        rcases arePrerelease.of_mem_join member with isCharacter | isDot
        · cases isCharacter
        · cases isDot
      rw [isMarker] at behindHyphen
      have sameTag :=
        (Text.eq_of_append_of_stops (noPlus _ (plus_not_mem_tag shaped)) (noPlus _ notJoined)
          (plusStops ownBuild) (plusStops build) behindHyphen).1
      rw [sameTag]
      exact (List.splitOn_intercalate '.' arePrerelease.dot_not_mem (by simp)).symm

/-- What spells a version consists of its parts. -/
private theorem isSemantic_of_spelled
    (shaped : spelling.IsShaped)
    {semantic : SemanticVersion}
    (wellFormed : semantic.IsWellFormed)
    (spelled : spelling.toText = 'v' :: semantic.toText) :
    spelling.IsSemantic := by
  have behindLetter :
      spelling.major ++ '.' :: (spelling.minor ++ '.' ::
          (spelling.patch ++ '-' :: (spelling.tag ++ spelling.marker))) =
        Text.ofNatural semantic.major ++ '.' :: (Text.ofNatural semantic.minor ++ '.' ::
          (Text.ofNatural semantic.patch ++
            (SemanticVersion.tailText '-' semantic.prerelease ++
              SemanticVersion.tailText '+' semantic.build))) := by
    rw [toText_eq] at spelled
    simpa [SemanticVersion.toText] using (List.cons.inj spelled).2
  have dot := isDecimalDigit_dot
  obtain ⟨isMajor, behindMajor⟩ :=
    isPlainNumber_of_append shaped.major wellFormed.major (stops_of_mark dot) (stops_of_mark dot)
      behindLetter
  obtain ⟨isMinor, behindMinor⟩ :=
    isPlainNumber_of_append shaped.minor wellFormed.minor (stops_of_mark dot) (stops_of_mark dot)
      (List.cons.inj behindMajor).2
  obtain ⟨isPatch, behindPatch⟩ :=
    isPlainNumber_of_append shaped.patch wellFormed.patch (stops_of_mark isDecimalDigit_hyphen)
      (stops_of_tails semantic.prerelease semantic.build) (List.cons.inj behindMinor).2
  have arePrerelease := wellFormed.prerelease
  rw [eq_splitOn_tag shaped arePrerelease behindPatch, areIdentifiers_tag_iff shaped]
    at arePrerelease
  exact ⟨isMajor, isMinor, isPatch, arePrerelease.1, arePrerelease.2⟩

/-- Text of the shape of a pseudo-version is a version exactly if its parts are those of one. -/
theorem isSemantic_iff (shaped : spelling.IsShaped) :
    spelling.IsSemantic ↔
      ∃ semantic : SemanticVersion,
        semantic.IsWellFormed ∧ spelling.toText = 'v' :: semantic.toText := by
  constructor
  · exact exists_semantic shaped
  · rintro ⟨semantic, wellFormed, spelled⟩
    exact isSemantic_of_spelled shaped wellFormed spelled

end Spelling

end Pseudo

end ModuleUpdate
