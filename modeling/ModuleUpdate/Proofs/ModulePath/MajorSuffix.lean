import ModuleUpdate.Proofs.ModulePath
import ModuleUpdate.Proofs.Version.Grammar

namespace ModuleUpdate

/-!
# Major suffixes

A path has a major suffix exactly where it ends in one as its host writes them: `/v` and a number
from two on, or on the dotted host `.v` and any number, possibly marked as unstable.  No suffix
holds the mark of another one, so the last one is found however the root ends.  What is split can
be built again, for the same major version as well as for any other.
-/

namespace Text

/-- A mark does not occur in a text that lacks its first character. -/
theorem splitAtLast?_eq_none
    {first : Char}
    {text : Text}
    (absent : first ∉ text)
    (others : Text) :
    splitAtLast? (first :: others) text = none := by
  induction text with
  | nil => rfl
  | cons character rest inductionHypothesis =>
      rw [List.mem_cons, not_or] at absent
      rw [splitAtLast?, inductionHypothesis absent.2]
      dsimp only
      rw [Option.map_eq_none_iff, Option.eq_none_iff_forall_ne_some]
      intro behind found
      exact absent.1 (List.cons.inj (after?_eq_some_iff.mp found)).1.symm

/-- A text is split at a mark behind which it does not start again. -/
theorem splitAtLast?_append
    {first : Char}
    {others behind : Text}
    (absent : first ∉ others ++ behind)
    (before : Text) :
    splitAtLast? (first :: others) (before ++ first :: (others ++ behind)) =
      some (before, behind) := by
  induction before with
  | nil =>
      rw [List.nil_append, splitAtLast?, splitAtLast?_eq_none absent]
      dsimp only
      rw [after?_eq_some_iff.mpr (List.cons_append ..).symm]
      rfl
  | cons character rest inductionHypothesis =>
      rw [List.cons_append, splitAtLast?, inductionHypothesis]

theorem dropEnding_append_self (ending text : Text) :
    dropEnding ending (text ++ ending) = text := by
  rw [dropEnding, before?_eq_some_iff.mpr rfl, Option.getD_some]

/-- A text that ends in another character does not have the ending. -/
theorem before?_eq_none
    {ending text : Text}
    (notEmpty : ending ≠ [])
    (ends : text.getLast? ≠ ending.getLast?) :
    before? ending text = none := by
  rw [Option.eq_none_iff_forall_ne_some]
  intro front found
  rw [before?_eq_some_iff] at found
  rw [found, List.getLast?_append_of_ne_nil _ notEmpty] at ends
  exact ends rfl

end Text

namespace ModulePath

/-- The digits of a major version are those that a number is written in. -/
theorem isMajorDigits_iff
    {digits : Text} :
    isMajorDigits digits = true ↔ ∃ major, digits = Text.ofNatural major := by
  simp only [isMajorDigits, Bool.and_eq_true, decide_eq_true_eq, Bool.not_eq_true']
  constructor
  · rintro ⟨⟨notEmpty, areDigits⟩, plain⟩
    exact ⟨_, (SemanticVersion.ofNatural_ofDigits notEmpty areDigits plain).symm⟩
  · rintro ⟨major, rfl⟩
    exact
      ⟨⟨Text.ofNatural_ne_nil major,
          List.all_eq_true.mpr fun _ member => Text.isDigit_of_mem_ofNatural member⟩,
        SemanticVersion.hasSuperfluousZero_ofNatural major⟩

/-- Majors zero and one are the ones that are not written behind a slash. -/
theorem ofNatural_ne_iff (major : Nat) :
    Text.ofNatural major ≠ ['0'] ∧ Text.ofNatural major ≠ ['1'] ↔ 2 ≤ major := by
  have zero : ['0'] = Text.ofNatural 0 := rfl
  have one : ['1'] = Text.ofNatural 1 := rfl
  rw [zero, one, Ne, Ne, Text.ofNatural_inj, Text.ofNatural_inj]
  omega

/-- The dotted host without the slash behind it. -/
private def hostName : Text :=
  "gopkg.in".toList

private theorem isDotted_iff {path : Text} :
    isDotted path = true ↔ ∃ behind, path = hostName ++ '/' :: behind := by
  rw [isDotted, List.isPrefixOf_iff_prefix]
  constructor
  · rintro ⟨behind, rfl⟩
    exact ⟨behind, rfl⟩
  · rintro ⟨behind, rfl⟩
    exact ⟨behind, rfl⟩

/-- A path with a segment behind it is dotted if it is, or if that makes up the host. -/
private theorem isDotted_append_slash (root rest : Text) :
    isDotted (root ++ '/' :: rest) = true ↔ isDotted root = true ∨ root = hostName := by
  rw [isDotted_iff, isDotted_iff]
  constructor
  · rintro ⟨behind, same⟩
    rcases List.append_eq_append_iff.mp same with ⟨between, isHost, isRest⟩ | ⟨between, rfl, isRest⟩
    · cases between with
      | nil => exact .inr (by simpa using isHost.symm)
      | cons first others =>
          -- The name of the host holds no slash, so it does not go on behind the root.
          obtain ⟨rfl, _⟩ := List.cons.inj isRest
          have noSlash : '/' ∉ hostName := by decide
          exact absurd (isHost ▸ List.mem_append_right root List.mem_cons_self) noSlash
    · cases between with
      | nil => exact .inr (List.append_nil hostName)
      | cons first others =>
          obtain ⟨rfl, _⟩ := List.cons.inj isRest
          exact .inl ⟨others, rfl⟩
  · rintro (⟨behind, rfl⟩ | rfl)
    · exact ⟨behind ++ '/' :: rest, by simp⟩
    · exact ⟨rest, rfl⟩

/-- A suffix without a slash does not make up the host. -/
private theorem isDotted_append
    {suffix : Text}
    (noSlash : '/' ∉ suffix)
    (root : Text) :
    isDotted (root ++ suffix) = isDotted root := by
  rw [Bool.eq_iff_iff, isDotted_iff, isDotted_iff]
  constructor
  · rintro ⟨behind, same⟩
    rcases List.append_eq_append_iff.mp same with ⟨between, _, isSuffix⟩ | ⟨between, rfl, isRest⟩
    · exact absurd (isSuffix ▸ List.mem_append_right between List.mem_cons_self) noSlash
    · cases between with
      | nil =>
          rw [List.nil_append] at isRest
          exact absurd (isRest ▸ List.mem_cons_self) noSlash
      | cons first others =>
          obtain ⟨rfl, _⟩ := List.cons.inj isRest
          exact ⟨others, rfl⟩
  · rintro ⟨behind, rfl⟩
    exact ⟨behind ++ suffix, by simp⟩

/-- A suffix that writes a major version, on the dotted host or elsewhere. -/
inductive Writes : Bool → Nat → Text → Prop where
  | slashed
      {major : Nat} :
      2 ≤ major →
      Writes false major ("/v".toList ++ Text.ofNatural major)
  | dotted
      (major : Nat) :
      Writes true major (".v".toList ++ Text.ofNatural major)
  | unstable
      (major : Nat) :
      Writes true major (".v".toList ++ Text.ofNatural major ++ unstableMarker)

private theorem not_mem_ofNatural
    {character : Char}
    (notDigit : character.isDigit = false)
    (major : Nat) :
    character ∉ Text.ofNatural major := by
  intro member
  rw [Text.isDigit_of_mem_ofNatural member] at notDigit
  cases notDigit

/-- A number does not end in the marker. -/
private theorem before?_ofNatural (front : Text) (major : Nat) :
    Text.before? unstableMarker (front ++ Text.ofNatural major) = none := by
  apply Text.before?_eq_none (by decide)
  rw [List.getLast?_append_of_ne_nil _ (Text.ofNatural_ne_nil major)]
  intro ends
  have isLast : (Text.ofNatural major).getLast? = some 'e' := ends
  exact not_mem_ofNatural (by decide) major (List.mem_of_getLast? isLast)

private theorem dropEnding_ofNatural (front : Text) (major : Nat) :
    Text.dropEnding unstableMarker (front ++ Text.ofNatural major) =
      front ++ Text.ofNatural major := by
  rw [Text.dropEnding, before?_ofNatural, Option.getD_none]

/-- The number is found behind the last dot and letter. -/
private theorem splitAtLast?_dotted (root : Text) (major : Nat) :
    Text.splitAtLast? ".v".toList (root ++ (".v".toList ++ Text.ofNatural major)) =
      some (root, Text.ofNatural major) := by
  apply Text.splitAtLast?_append
  rw [List.mem_append, not_or]
  exact ⟨by decide, not_mem_ofNatural (by decide) major⟩

/-- The number is found behind the last slash and letter. -/
private theorem splitAtLast?_slashed (root : Text) (major : Nat) :
    Text.splitAtLast? "/v".toList (root ++ ("/v".toList ++ Text.ofNatural major)) =
      some (root, Text.ofNatural major) := by
  apply Text.splitAtLast?_append
  rw [List.mem_append, not_or]
  exact ⟨by decide, not_mem_ofNatural (by decide) major⟩

/-- A path is split where a suffix is written. -/
theorem split_append
    {root suffix : Text}
    {major : Nat}
    (writes : Writes (isDotted (root ++ suffix)) major suffix) :
    split (root ++ suffix) = { root, suffix } := by
  have isNumber : isMajorDigits (Text.ofNatural major) = true := isMajorDigits_iff.mpr ⟨_, rfl⟩
  generalize hosted : isDotted (root ++ suffix) = dotted at writes
  cases writes with
  | slashed isWritten =>
      have digits := (ofNatural_ne_iff major).mpr isWritten
      rw [split, hosted, if_neg Bool.false_ne_true, splitSlashed, splitAtLast?_slashed]
      dsimp only
      rw [if_pos ⟨isNumber, digits⟩, List.drop_left]
  | dotted =>
      rw [split, hosted, if_pos rfl, splitDotted]
      rw [← List.append_assoc, dropEnding_ofNatural, List.append_assoc, splitAtLast?_dotted]
      simp only [isNumber, if_true, List.drop_left]
  | unstable =>
      rw [split, hosted, if_pos rfl, splitDotted]
      rw [← List.append_assoc, Text.dropEnding_append_self, splitAtLast?_dotted]
      simp only [isNumber, if_true, List.append_assoc, List.drop_left]

private theorem exists_writes_splitDotted
    {path : Text}
    (notEmpty : (splitDotted path).suffix ≠ []) :
    ∃ major, Writes true major (splitDotted path).suffix := by
  simp only [splitDotted] at notEmpty ⊢
  obtain ⟨dropped, whole, isMarker⟩ := Text.dropEnding_append unstableMarker path
  split at notEmpty
  · next root digits found =>
      split at notEmpty
      · next isNumber =>
          obtain ⟨major, rfl⟩ := isMajorDigits_iff.mp isNumber
          rw [Text.splitAtLast?_eq_some found, List.append_assoc, List.append_assoc] at whole
          refine ⟨major, ?_⟩
          simp only [isNumber, if_true]
          rw [whole, List.drop_left, ← List.append_assoc]
          rcases isMarker with rfl | rfl
          · rw [List.append_nil]
            exact .dotted major
          · exact .unstable major
      · exact absurd rfl notEmpty
  · exact absurd rfl notEmpty

private theorem exists_writes_splitSlashed
    {path : Text}
    (notEmpty : (splitSlashed path).suffix ≠ []) :
    ∃ major, Writes false major (splitSlashed path).suffix := by
  simp only [splitSlashed] at notEmpty ⊢
  split at notEmpty
  · next root digits found =>
      split at notEmpty
      · next isNumber =>
          obtain ⟨major, rfl⟩ := isMajorDigits_iff.mp isNumber.1
          have whole := Text.splitAtLast?_eq_some found
          rw [List.append_assoc] at whole
          refine ⟨major, ?_⟩
          rw [if_pos isNumber, whole, List.drop_left]
          exact .slashed ((ofNatural_ne_iff major).mp isNumber.2)
      · exact absurd rfl notEmpty
  · exact absurd rfl notEmpty

/-- A path that has a suffix ends in it as its host writes suffixes. -/
theorem exists_writes
    {path : Text}
    (notEmpty : (split path).suffix ≠ []) :
    ∃ root suffix major,
      path = root ++ suffix ∧ Writes (isDotted (root ++ suffix)) major suffix := by
  have writes : ∃ major, Writes (isDotted path) major (split path).suffix := by
    cases hosted : isDotted path with
    | true =>
        rw [split, hosted, if_pos rfl] at notEmpty ⊢
        exact exists_writes_splitDotted notEmpty
    | false =>
        rw [split, hosted, if_neg Bool.false_ne_true] at notEmpty ⊢
        exact exists_writes_splitSlashed notEmpty
  have whole := (split_eq path).1
  obtain ⟨major, writes⟩ := writes
  exact ⟨(split path).root, (split path).suffix, major, whole.symm, by rwa [whole]⟩

/-- A path ends in the marker of unstable major versions behind its number. -/
def isUnstable (path : Text) : Bool :=
  (Text.before? unstableMarker (split path).suffix).isSome

/-- On the dotted host no suffix adds a segment. -/
private theorem slash_not_mem
    {suffix : Text}
    {major : Nat}
    (writes : Writes true major suffix) :
    '/' ∉ suffix := by
  have notBehindMark : '/' ∉ ".v".toList ++ Text.ofNatural major := by
    rw [List.mem_append, not_or]
    exact ⟨by decide, not_mem_ofNatural (by decide) major⟩
  cases writes with
  | dotted => exact notBehindMark
  | unstable =>
      rw [List.mem_append, not_or]
      exact ⟨notBehindMark, by decide⟩

private theorem ne_nil_of_writes
    {dotted : Bool}
    {suffix : Text}
    {major : Nat}
    (writes : Writes dotted major suffix) :
    suffix ≠ [] := by
  cases writes <;> exact List.cons_ne_nil _ _

/-- Behind its mark, and in front of the marker, a suffix holds the digits of its number. -/
private theorem digits_of_writes
    {dotted : Bool}
    {suffix : Text}
    {major : Nat}
    (writes : Writes dotted major suffix) :
    Text.dropEnding unstableMarker (suffix.drop 2) = Text.ofNatural major := by
  cases writes with
  | slashed => exact dropEnding_ofNatural [] major
  | dotted => exact dropEnding_ofNatural [] major
  | unstable => exact Text.dropEnding_append_self unstableMarker (Text.ofNatural major)

section Written

variable {root suffix : Text} {major : Nat}

/-- The root of a path with a suffix is on the host of the path, and it is not the host itself. -/
private theorem isDotted_root (writes : Writes (isDotted (root ++ suffix)) major suffix) :
    isDotted root = isDotted (root ++ suffix) ∧ root ≠ hostName := by
  cases hosted : isDotted (root ++ suffix) with
  | true =>
      rw [hosted] at writes
      rw [isDotted_append (slash_not_mem writes)] at hosted
      refine ⟨hosted, ?_⟩
      rintro rfl
      exact absurd hosted (by decide)
  | false =>
      rw [hosted] at writes
      cases writes with
      | slashed =>
          rw [← Bool.not_eq_true] at hosted
          have isOther := mt (isDotted_append_slash root _).mpr hosted
          rw [not_or, Bool.not_eq_true] at isOther
          exact isOther

/-- Where one suffix stands, a suffix of any other major version of the host may stand. -/
private theorem exists_writes_ofMajor
    (writes : Writes (isDotted (root ++ suffix)) major suffix)
    {other : Nat}
    (isWritten : 2 ≤ other ∨ isDotted (root ++ suffix) = true) :
    ∃ behind,
      ofMajor root other = root ++ behind ∧ Writes (isDotted (root ++ behind)) other behind := by
  obtain ⟨sameHost, notHost⟩ := isDotted_root writes
  rw [← sameHost] at isWritten
  cases hosted : isDotted root with
  | true =>
      have noSlash := slash_not_mem (.dotted other)
      refine ⟨".v".toList ++ Text.ofNatural other, ?_, ?_⟩
      · rw [ofMajor, if_pos hosted, List.append_assoc]
      · rw [isDotted_append noSlash, hosted]
        exact .dotted other
  | false =>
      rw [hosted, or_iff_left Bool.false_ne_true] at isWritten
      have stays : isDotted (root ++ ("/v".toList ++ Text.ofNatural other)) = false := by
        rw [← Bool.not_eq_true]
        refine mt (isDotted_append_slash root _).mp ?_
        simp [hosted, notHost]
      refine ⟨"/v".toList ++ Text.ofNatural other, ?_, ?_⟩
      · rw [ofMajor, hosted, if_neg Bool.false_ne_true, if_pos isWritten, List.append_assoc]
      · rw [stays]
        exact .slashed isWritten

/-- The number is read off a suffix if it fits a word. -/
theorem major?_append (writes : Writes (isDotted (root ++ suffix)) major suffix) :
    major? (root ++ suffix) = (some major).filter (· < Text.wordLimit) := by
  rw [major?, split_append writes, digits_of_writes writes, Text.word?, Text.natural?_ofNatural]

/-- The path of the major version that a suffix writes has that suffix, but for the marker. -/
theorem ofMajor_eq_dropEnding (writes : Writes (isDotted (root ++ suffix)) major suffix) :
    ofMajor root major = root ++ Text.dropEnding unstableMarker suffix := by
  have sameHost := (isDotted_root writes).1
  generalize isDotted (root ++ suffix) = dotted at writes sameHost
  cases writes with
  | slashed isWritten =>
      rw [ofMajor, sameHost, if_neg Bool.false_ne_true, if_pos isWritten, dropEnding_ofNatural,
        List.append_assoc]
  | dotted =>
      rw [ofMajor, sameHost, if_pos rfl, dropEnding_ofNatural, List.append_assoc]
  | unstable =>
      rw [ofMajor, sameHost, if_pos rfl, Text.dropEnding_append_self, List.append_assoc]

end Written

/-- A path that names a major version ends in a suffix that writes it. -/
theorem exists_writes_of_major?
    {path : Text}
    {major : Nat}
    (named : major? path = some major) :
    ∃ root suffix,
      path = root ++ suffix ∧ Writes (isDotted (root ++ suffix)) major suffix := by
  have notEmpty : (split path).suffix ≠ [] := by
    intro isEmpty
    rw [major?, isEmpty] at named
    cases named
  obtain ⟨root, suffix, written, rfl, writes⟩ := exists_writes notEmpty
  rw [major?_append writes, Option.filter_eq_some_iff, Option.some_inj] at named
  exact ⟨root, suffix, rfl, named.1 ▸ writes⟩

/-- Only suffixes of the dotted host are marked, and what is left of one writes the same version. -/
private theorem writes_of_before?
    {dotted : Bool}
    {suffix stable : Text}
    {major : Nat}
    (writes : Writes dotted major suffix)
    (found : Text.before? unstableMarker suffix = some stable) :
    dotted = true ∧ Writes true major stable := by
  cases writes with
  | slashed =>
      rw [before?_ofNatural] at found
      cases found
  | dotted =>
      rw [before?_ofNatural] at found
      cases found
  | unstable =>
      rw [Text.before?_eq_some_iff.mpr rfl, Option.some_inj] at found
      exact ⟨rfl, found ▸ .dotted major⟩

/-- A path that is marked as unstable is a path of its root with the marker behind it. -/
private theorem exists_of_isUnstable
    {path : Text}
    (unstable : isUnstable path = true) :
    ∃ stable, path = stable ++ unstableMarker ∧ (split stable).root = (split path).root := by
  obtain ⟨left, found⟩ := Option.isSome_iff_exists.mp unstable
  have notEmpty : (split path).suffix ≠ [] := by
    intro isEmpty
    rw [isEmpty] at found
    cases found
  obtain ⟨root, suffix, major, rfl, writes⟩ := exists_writes notEmpty
  rw [split_append writes] at found ⊢
  obtain ⟨hosted, writesLeft⟩ := writes_of_before? writes found
  have whole : suffix = left ++ unstableMarker := Text.before?_eq_some_iff.mp found
  refine ⟨root ++ left, by rw [whole, List.append_assoc], ?_⟩
  rw [← (isDotted_root writes).1, ← isDotted_append (slash_not_mem writesLeft)] at hosted
  rw [split_append (hosted.symm ▸ writesLeft)]

/--
The versions of a major number live at a path: the path names that number, or it names none, is not
on the dotted host, and the number is one of the first two.
-/
def IsHomeOf (path : Text) (major : Nat) : Prop :=
  major? path = some major ∨ ((split path).suffix = [] ∧ isDotted path = false ∧ major < 2)

instance (path : Text) : DecidablePred (IsHomeOf path) :=
  fun _ => inferInstanceAs (Decidable (_ ∨ _))

/-- The path that is built for the versions that live at a path is that path without the marker. -/
theorem ofMajor_of_isHomeOf
    {path : Text}
    {major : Nat}
    (home : IsHomeOf path major) :
    ofMajor (split path).root major =
      if isUnstable path then Text.dropEnding unstableMarker path else path := by
  rcases home with named | ⟨noSuffix, notDotted, isFirst⟩
  · obtain ⟨root, suffix, rfl, writes⟩ := exists_writes_of_major? named
    rw [isUnstable, split_append writes, ofMajor_eq_dropEnding writes, Text.dropEnding]
    cases found : Text.before? unstableMarker suffix with
    | none => rfl
    | some left =>
        have dropped : Text.dropEnding unstableMarker (root ++ suffix) = root ++ left := by
          rw [Text.before?_eq_some_iff.mp found, ← List.append_assoc, Text.dropEnding_append_self]
        simp only [Option.getD_some, Option.isSome_some, if_true, dropped]
  · have whole := (split_eq path).1
    rw [noSuffix, List.append_nil] at whole
    have stable : ¬isUnstable path = true := by
      rw [isUnstable, noSuffix]
      decide
    rw [whole, if_neg stable, ofMajor, notDotted, if_neg Bool.false_ne_true,
      if_neg (Nat.not_le.mpr isFirst)]

/-- Taking the marker off a path is a major change. -/
theorem isMajorChange_of_isUnstable
    {path : Text}
    (unstable : isUnstable path = true) :
    isMajorChange (Text.dropEnding unstableMarker path) path = true := by
  obtain ⟨stable, rfl, sameRoot⟩ := exists_of_isUnstable unstable
  have differs : stable ≠ stable ++ unstableMarker := by
    rw [Ne, List.self_eq_append_right]
    exact List.cons_ne_nil _ _
  rw [Text.dropEnding_append_self, isMajorChange, sameRoot, decide_eq_true differs,
    beq_self_eq_true]
  rfl

/--
A path is made up of its root and its suffix.  Where the suffix names a major version and is not
marked as unstable, the path is built from the root for that version, and so is the path of any
other version that the host writes: it has the same root and names that version, and the two paths
are a major change exactly if the versions differ.  The next path is built for the next version,
but on the dotted host there is none.
-/
theorem rebuild_of_split (path : Text) :
    (split path).root ++ (split path).suffix = path ∧
      ∀ major,
        major? path = some major →
        isUnstable path = false →
          ofMajor (split path).root major = path ∧
            (∀ other < Text.wordLimit,
              (2 ≤ other ∨ isDotted path = true) →
                (split (ofMajor (split path).root other)).root = (split path).root ∧
                  major? (ofMajor (split path).root other) = some other ∧
                  (isMajorChange path (ofMajor (split path).root other) = true ↔
                    other ≠ major)) ∧
            (major + 1 < Text.wordLimit →
              next? path =
                if isDotted path then none else some (ofMajor (split path).root (major + 1))) := by
  refine ⟨(split_eq path).1, fun major named stable => ?_⟩
  obtain ⟨root, suffix, rfl, writes⟩ := exists_writes_of_major? named
  have parts := split_append writes
  rw [isUnstable, parts, Option.isSome_eq_false_iff, Option.isNone_iff_eq_none] at stable
  have rebuilt : ofMajor root major = root ++ suffix := by
    rw [ofMajor_eq_dropEnding writes, Text.dropEnding, stable, Option.getD_none]
  simp only [parts]
  refine ⟨rebuilt, fun other fits isWritten => ?_, fun fits => ?_⟩
  · obtain ⟨behind, built, writesOther⟩ := exists_writes_ofMajor writes isWritten
    have otherParts := split_append writesOther
    have namesOther : major? (root ++ behind) = some other := by
      rw [major?_append writesOther, Option.filter_some, if_pos (decide_eq_true fits)]
    rw [built, otherParts]
    refine ⟨rfl, namesOther, ?_⟩
    have sameRoot : (split (root ++ suffix)).root = (split (root ++ behind)).root := by
      rw [parts, otherParts]
    have differs : root ++ suffix ≠ root ++ behind ↔ other ≠ major := by
      refine not_congr ⟨fun same => ?_, fun same => ?_⟩
      · rw [same, namesOther, Option.some_inj] at named
        exact named
      · rw [← rebuilt, ← same, built]
    simp [isMajorChange, sameRoot, differs]
  · have sameHost := (isDotted_root writes).1
    simp only [next?, parts, named, Option.map_some, Option.filter_some, fits, decide_true,
      if_true, ne_nil_of_writes writes, sameHost, false_or]

/-- A path whose root ends in a major suffix as well. -/
private def nestedPath : Text :=
  "m.io/a/v3/v2".toList

/-- A path of the dotted host for its first major version, with another one in its root. -/
private def dottedPath : Text :=
  "gopkg.in/a.v1.v0".toList

/-- The last suffix is the one that is read, taken off and put back. -/
theorem rebuild_of_split_nested :
    ofMajor "m.io/a/v3".toList 2 = nestedPath ∧
      (split "m.io/a/v3/v10".toList).root = "m.io/a/v3".toList ∧
      isMajorChange nestedPath "m.io/a/v3/v10".toList = true ∧
      next? nestedPath = some "m.io/a/v3/v3".toList ∧
      ofMajor "gopkg.in/a.v1".toList 0 = dottedPath ∧
      isMajorChange dottedPath dottedPath = false ∧
      next? dottedPath = none := by
  have nestedRoot : (split nestedPath).root = "m.io/a/v3".toList := by decide
  have dottedRoot : (split dottedPath).root = "gopkg.in/a.v1".toList := by decide
  obtain ⟨nestedBuilt, nestedOthers, nestedNext⟩ :=
    (rebuild_of_split nestedPath).2 2 (by decide) (by decide)
  obtain ⟨dottedBuilt, dottedOthers, dottedNext⟩ :=
    (rebuild_of_split dottedPath).2 0 (by decide) (by decide)
  rw [nestedRoot] at nestedBuilt nestedOthers nestedNext
  rw [dottedRoot] at dottedBuilt dottedOthers
  obtain ⟨tenthRoot, _, tenthIsOther⟩ := nestedOthers 10 (by decide) (by decide)
  obtain ⟨_, _, sameIsNone⟩ := dottedOthers 0 (by decide) (by decide)
  refine ⟨nestedBuilt, tenthRoot, tenthIsOther.mpr (by decide), nestedNext (by decide),
    dottedBuilt, ?_, dottedNext (by decide)⟩
  rw [dottedBuilt] at sameIsNone
  exact Bool.eq_false_iff.mpr fun isMajor => sameIsNone.mp isMajor rfl

end ModulePath

end ModuleUpdate
