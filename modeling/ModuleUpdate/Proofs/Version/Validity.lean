import ModuleUpdate.Manifest.Token
import ModuleUpdate.Proofs.Version.Parts

namespace ModuleUpdate

/-!
# Valid versions

A valid text is a version or has the shape of a pseudo-version, and the shape alone does not make it
a version.  The condition on its parts under which it is one is exact, and so is the place of
versions above all other texts.  What is a version is written into a manifest as it is.
-/

namespace Version

/-- A text is a version exactly if, but for white space around it, it spells one. -/
theorem isSome_parse?_iff {text : Text} :
    (parse? text).isSome = true ↔
      ∃ semantic : SemanticVersion,
        semantic.IsWellFormed ∧ Text.trim text = 'v' :: semantic.toText := by
  simp only [Option.isSome_iff_exists, parse?, Option.bind_eq_bind, Option.bind_eq_some_iff,
    Text.after?_eq_some_iff, SemanticVersion.parse?_eq_some_iff, List.singleton_append]
  constructor
  · rintro ⟨_, semantic, ⟨_, spelled, rfl, wellFormed⟩, _⟩
    exact ⟨semantic, wellFormed, spelled⟩
  · rintro ⟨semantic, wellFormed, spelled⟩
    exact ⟨_, semantic, ⟨_, spelled, rfl, wellFormed⟩, rfl⟩

/-- The characters that versions consist of. -/
def isVersionCharacter (character : Char) : Bool :=
  SemanticVersion.isIdentifierCharacter character || character == '.' || character == '+'

private theorem isVersionCharacter_of_isIdentifierCharacter
    {character : Char}
    (isCharacter : SemanticVersion.isIdentifierCharacter character = true) :
    isVersionCharacter character = true := by
  rw [isVersionCharacter, isCharacter]
  rfl

private theorem isVersionCharacter_of_mem_ofNatural
    {number : Nat}
    {digit : Char}
    (member : digit ∈ Text.ofNatural number) :
    isVersionCharacter digit = true := by
  apply isVersionCharacter_of_isIdentifierCharacter
  simp [SemanticVersion.isIdentifierCharacter, Char.isAlphanum, Text.isDigit_of_mem_ofNatural member]

private theorem isVersionCharacter_of_mem_tailText
    {mark : Char}
    (isMark : isVersionCharacter mark = true)
    {accepts : Text → Bool}
    {identifiers : List Text}
    (areIdentifiers : SemanticVersion.AreIdentifiers accepts identifiers)
    {character : Char}
    (member : character ∈ SemanticVersion.tailText mark identifiers) :
    isVersionCharacter character = true := by
  cases identifiers with
  | nil => cases member
  | cons first others =>
      rcases List.mem_cons.mp member with rfl | inside
      · exact isMark
      · rcases areIdentifiers.of_mem_join inside with isCharacter | rfl
        · exact isVersionCharacter_of_isIdentifierCharacter isCharacter
        · rfl

/-- A version consists of Latin letters, digits, dots, hyphens and plus signs. -/
theorem isVersionCharacter_of_mem
    {text : Text}
    (isRead : (parse? text).isSome = true)
    {character : Char}
    (member : character ∈ Text.trim text) :
    isVersionCharacter character = true := by
  obtain ⟨semantic, wellFormed, spelled⟩ := isSome_parse?_iff.mp isRead
  rw [spelled] at member
  simp only [SemanticVersion.toText, List.mem_cons, List.mem_append] at member
  rcases member with
    rfl | ((((inMajor | rfl | inMinor) | rfl | inPatch) | inPrerelease) | inBuild)
  · decide
  · exact isVersionCharacter_of_mem_ofNatural inMajor
  · rfl
  · exact isVersionCharacter_of_mem_ofNatural inMinor
  · rfl
  · exact isVersionCharacter_of_mem_ofNatural inPatch
  · exact isVersionCharacter_of_mem_tailText (by decide) wellFormed.prerelease inPrerelease
  · exact isVersionCharacter_of_mem_tailText (by decide) wellFormed.build inBuild

/-- White space has other code points than the characters of versions. -/
private theorem isBlank_of_isVersionCharacter
    {character : Char}
    (isCharacter : isVersionCharacter character = true) :
    Text.isBlank character = false := by
  have code : 43 ≤ character.toNat ∧ character.toNat ≤ 122 := by
    rw [isVersionCharacter, Bool.or_eq_true, Bool.or_eq_true, beq_iff_eq, beq_iff_eq]
      at isCharacter
    rcases isCharacter with (isCharacter | rfl) | rfl
    · have code := Pseudo.code_of_isIdentifierCharacter isCharacter
      omega
    · decide
    · decide
  rw [Bool.eq_false_iff]
  intro isBlank
  obtain ⟨range, member, above, below⟩ := Text.exists_of_inRanges isBlank
  simp only [List.mem_cons, List.not_mem_nil, or_false] at member
  rcases member with rfl | rfl | rfl | rfl | rfl | rfl | rfl | rfl | rfl | rfl <;>
    simp only at above below <;> omega

/-- A text without the first character of a mark does not mention the mark. -/
private theorem mentions_eq_false
    {first : Char}
    (others : Text)
    {text : Text}
    (absent : first ∉ text) :
    Text.mentions (first :: others) text = false := by
  induction text with
  | nil => rfl
  | cons character rest inductionHypothesis =>
      rw [List.mem_cons, not_or] at absent
      rw [Text.mentions, inductionHypothesis absent.2, Bool.or_false, List.isPrefixOf,
        beq_false_of_ne absent.1]
      rfl

/-- A version is written into a manifest as it is. -/
theorem needsQuotes_trim
    {text : Text}
    (isRead : (parse? text).isSome = true) :
    Token.needsQuotes (Text.trim text) = false := by
  have absent :
      ∀ character, isVersionCharacter character = false → character ∉ Text.trim text := by
    intro character notCharacter member
    rw [isVersionCharacter_of_mem isRead member] at notCharacter
    cases notCharacter
  have notEmpty : Text.trim text ≠ [] := by
    obtain ⟨semantic, _, spelled⟩ := isSome_parse?_iff.mp isRead
    simp [spelled]
  have noneSpecial :
      (Text.trim text).any (fun character =>
        Text.isBlank character || Token.isQuote character || Token.isParenthesis character ||
          character == '\u0027') = false := by
    rw [List.any_eq_false]
    intro character member special
    have isCharacter := isVersionCharacter_of_mem isRead member
    rw [isBlank_of_isVersionCharacter isCharacter] at special
    simp only [Token.isQuote, Token.isParenthesis, Bool.false_or, Bool.or_eq_true,
      beq_iff_eq] at special
    rcases special with ((rfl | rfl) | rfl | rfl) | rfl <;> cases isCharacter
  have noComment := mentions_eq_false ['/'] (absent '/' (by decide))
  have noArrow := mentions_eq_false ['>'] (absent '=' (by decide))
  rw [Token.needsQuotes, noneSpecial, Token.commentStart, Token.arrow]
  simp [notEmpty, noComment, noArrow]

/-- Exactly the versions are above all texts that are none. -/
theorem isSome_parse?_iff_order {text : Text} :
    (parse? text).isSome = true ↔
      ∀ other, parse? other = none → order other text = .lt := by
  constructor
  · exact fun isRead other unread => order_of_unread unread isRead
  · intro above
    rw [Option.isSome_iff_ne_none]
    intro unread
    have same : order text text = .eq := Std.ReflCmp.compare_self
    rw [above text unread] at same
    cases same

/--
A text has the shape of a pseudo-version exactly if it is spelled from parts of that shape.  A valid
text is a version exactly if, wherever it is spelled so, the numbers are plain, what is in front of
the stamp consists of identifiers, and the stamp is one of Latin digits.  Exactly then it is above
every text that is no version, and then it holds version characters alone, so that it is written
without quotes.
-/
theorem isRead_iff_of_isValid
    {text : Text}
    (isValid : Version.isValid text = true) :
    (Pseudo.isPseudo text = true ↔
        ∃ spelling : Pseudo.Spelling, spelling.IsShaped ∧ Text.trim text = spelling.toText) ∧
      ((parse? text).isSome = true ↔
        ∀ spelling : Pseudo.Spelling,
          spelling.IsShaped → Text.trim text = spelling.toText → spelling.IsSemantic) ∧
      ((parse? text).isSome = true ↔
        ∀ other, parse? other = none → order other text = .lt) ∧
      ((parse? text).isSome = true →
        (∀ character ∈ Text.trim text, isVersionCharacter character = true) ∧
          Token.needsQuotes (Text.trim text) = false) := by
  refine ⟨Pseudo.isPseudo_iff, ?_, isSome_parse?_iff_order, fun isRead =>
    ⟨fun _ => isVersionCharacter_of_mem isRead, needsQuotes_trim isRead⟩⟩
  constructor
  · intro isRead spelling shaped spelled
    rw [Pseudo.Spelling.isSemantic_iff shaped, ← spelled]
    exact isSome_parse?_iff.mp isRead
  · intro allSemantic
    rw [Version.isValid, Bool.or_eq_true] at isValid
    rcases isValid with isRead | isPseudo
    · exact isRead
    · obtain ⟨spelling, shaped, spelled⟩ := Pseudo.isPseudo_iff.mp isPseudo
      rw [isSome_parse?_iff, spelled]
      exact (Pseudo.Spelling.isSemantic_iff shaped).mp (allSemantic spelling shaped spelled)

/-- A pseudo-version behind a prerelease with a blank in it. -/
private def blankSpelling : Pseudo.Spelling where
  major := "1".toList
  minor := "2".toList
  patch := "3".toList
  earlier := .prerelease "a b".toList
  stamp := "20210101120000".toList
  commit := "abcdef123456".toList
  incompatible := false

/--
The text with the blank is valid and no version; a pseudo-version behind a release is a version,
and so it is above the name of a branch.
-/
theorem isRead_iff_of_isValid_pseudo :
    Version.isValid "v1.2.3-a b.0.20210101120000-abcdef123456".toList = true ∧
      parse? "v1.2.3-a b.0.20210101120000-abcdef123456".toList = none ∧
      Version.isValid " v1.2.4-0.20191109021931-daa7c04131f5".toList = true ∧
      order "main".toList " v1.2.4-0.20191109021931-daa7c04131f5".toList = .lt ∧
      Token.needsQuotes (Text.trim " v1.2.4-0.20191109021931-daa7c04131f5".toList) = false := by
  have blankValid :
      Version.isValid "v1.2.3-a b.0.20210101120000-abcdef123456".toList = true := by
    decide +kernel
  have pseudoValid :
      Version.isValid " v1.2.4-0.20191109021931-daa7c04131f5".toList = true := by
    decide +kernel
  obtain ⟨_, blankRead, _⟩ := isRead_iff_of_isValid blankValid
  obtain ⟨_, _, above, characters⟩ := isRead_iff_of_isValid pseudoValid
  have isRead :
      (parse? " v1.2.4-0.20191109021931-daa7c04131f5".toList).isSome = true := by
    decide +kernel
  refine ⟨blankValid, ?_, pseudoValid, above.mp isRead _ (by decide +kernel),
    (characters isRead).2⟩
  rw [← Option.not_isSome_iff_eq_none, blankRead]
  intro allSemantic
  have shaped : blankSpelling.IsShaped :=
    { major := by decide +kernel
      minor := by decide +kernel
      patch := by decide +kernel
      earlier := by decide
      stampLength := rfl
      stamp := List.all_eq_true.mp (by decide +kernel)
      commitLength := rfl
      commit := List.all_eq_true.mp (by decide +kernel) }
  have isSemantic := allSemantic blankSpelling shaped (by decide +kernel)
  have isCharacter := (isSemantic.earlier "a b".toList (by decide)).2 ' ' (by decide)
  cases isCharacter

end Version

end ModuleUpdate
