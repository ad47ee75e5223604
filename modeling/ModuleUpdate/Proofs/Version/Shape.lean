import ModuleUpdate.Proofs.Text
import ModuleUpdate.Version

namespace ModuleUpdate

/-!
# The shape of pseudo-versions

A pseudo-version is taken apart into its numbers, what the commit follows, a stamp and a commit.  A
text has the shape of a pseudo-version exactly if, but for white space around it, it is spelled from
such parts: numbers in digits of any script, anything without a plus sign as a prerelease, fourteen
digits and twelve digits of a commit.
-/

namespace Pseudo

/-- Digits of any script, at least one of them. -/
def AreDigits (digits : Text) : Prop :=
  digits ≠ [] ∧ ∀ digit ∈ digits, Text.isDecimalDigit digit = true

instance (digits : Text) : Decidable (AreDigits digits) :=
  decidable_of_iff (digits ≠ [] ∧ digits.all Text.isDecimalDigit = true)
    (by rw [AreDigits, List.all_eq_true])

/-- What the pinned commit follows: no version, a release, or a prerelease. -/
inductive Earlier where
  | nothing
  | release
  | prerelease (tag : Text)
  deriving Repr, DecidableEq

namespace Earlier

/-- What stands in front of the stamp. -/
def lead : Earlier → Text
  | nothing => []
  | release => "0.".toList
  | prerelease tag => tag ++ ".0.".toList

/-- Behind no version the numbers are zeros, and a prerelease has no plus sign. -/
def Fits (minor patch : Text) : Earlier → Prop
  | nothing => minor = ['0'] ∧ patch = ['0']
  | release => True
  | prerelease tag => '+' ∉ tag

instance (minor patch : Text) : (earlier : Earlier) → Decidable (earlier.Fits minor patch)
  | nothing => inferInstanceAs (Decidable (_ ∧ _))
  | release => isTrue trivial
  | prerelease tag => inferInstanceAs (Decidable ('+' ∉ tag))

end Earlier

/-- A pseudo-version part by part. -/
structure Spelling where
  major : Text
  minor : Text
  patch : Text
  earlier : Earlier
  stamp : Text
  commit : Text
  incompatible : Bool
  deriving Repr, DecidableEq

namespace Spelling

/-- What stands in front of the stamp. -/
def base (spelling : Spelling) : Text :=
  'v' :: (spelling.major ++ '.' :: (spelling.minor ++ '.' ::
    (spelling.patch ++ '-' :: spelling.earlier.lead)))

/-- What stands behind the last number but for the marker of an incompatible version. -/
def tag (spelling : Spelling) : Text :=
  spelling.earlier.lead ++ (spelling.stamp ++ '-' :: spelling.commit)

/-- The marker of an incompatible version, where it is one. -/
def marker (spelling : Spelling) : Text :=
  if spelling.incompatible then incompatibleMarker else []

/-- The pseudo-version as it is spelled. -/
def toText (spelling : Spelling) : Text :=
  spelling.base ++ (spelling.stamp ++ '-' :: spelling.commit) ++ spelling.marker

/-- The parts are of the shape that is asked for. -/
structure IsShaped (spelling : Spelling) : Prop where
  major : AreDigits spelling.major
  minor : AreDigits spelling.minor
  patch : AreDigits spelling.patch
  earlier : spelling.earlier.Fits spelling.minor spelling.patch
  stampLength : spelling.stamp.length = 14
  stamp : ∀ digit ∈ spelling.stamp, Text.isDecimalDigit digit = true
  commitLength : spelling.commit.length = 12
  commit : ∀ digit ∈ spelling.commit, isCommitDigit digit = true

end Spelling

/-- A mark that is no digit stops the digits in front of it. -/
theorem stops_of_mark
    {mark : Char}
    (isMark : Text.isDecimalDigit mark = false)
    {behind : Text} :
    ∀ character ∈ (mark :: behind).head?, Text.isDecimalDigit character = false := by
  intro character isFirst
  rw [← Option.mem_some.mp isFirst]
  exact isMark

/-- A number and the mark behind it. -/
theorem afterNumber?_eq_some_iff
    {mark : Char}
    {text behind : Text}
    (isMark : Text.isDecimalDigit mark = false) :
    afterNumber? mark text = some behind ↔
      ∃ digits, AreDigits digits ∧ text = digits ++ mark :: behind := by
  simp only [afterNumber?]
  constructor
  · intro found
    split at found
    · cases found
    · next notEmpty =>
        rw [Text.after?_eq_some_iff] at found
        refine ⟨_, ⟨notEmpty, fun _ member => List.mem_takeWhile_imp member⟩, ?_⟩
        rw [← List.singleton_append, ← found, List.takeWhile_append_dropWhile]
  · rintro ⟨digits, ⟨notEmpty, areDigits⟩, rfl⟩
    obtain ⟨row, rest⟩ := Text.takeWhile_of_stops areDigits (stops_of_mark isMark)
    rw [row, rest, if_neg notEmpty]
    exact Text.after?_eq_some_iff.mpr rfl

/-- What stands behind the hyphen of a pseudo-version that follows a version. -/
theorem isPrereleaseBase_iff {text : Text} :
    isPrereleaseBase text = true ↔
      text = Earlier.release.lead ∨ ∃ tag, '+' ∉ tag ∧ text = (Earlier.prerelease tag).lead := by
  rw [isPrereleaseBase, Bool.or_eq_true, beq_iff_eq, Option.any_eq_true]
  simp only [Text.before?_eq_some_iff]
  refine or_congr .rfl (exists_congr fun tag => ?_)
  simp [Earlier.lead, and_comm]

theorem isDecimalDigit_dot : Text.isDecimalDigit '.' = false := by
  decide +kernel

theorem isDecimalDigit_hyphen : Text.isDecimalDigit '-' = false := by
  decide +kernel

/-- What stands in front of the stamp of a pseudo-version. -/
theorem isBase_iff {base : Text} :
    isBase base = true ↔
      ∃ major minor patch : Text, ∃ earlier : Earlier,
        AreDigits major ∧ AreDigits minor ∧ AreDigits patch ∧ earlier.Fits minor patch ∧
          base = 'v' :: (major ++ '.' :: (minor ++ '.' :: (patch ++ '-' :: earlier.lead))) := by
  have zero : AreDigits ['0'] := by decide +kernel
  simp only [isBase, Bool.or_eq_true, beq_iff_eq, Option.any_eq_true, Option.bind_eq_some_iff,
    Text.after?_eq_some_iff, afterNumber?_eq_some_iff isDecimalDigit_dot,
    afterNumber?_eq_some_iff isDecimalDigit_hyphen, isPrereleaseBase_iff]
  constructor
  · rintro (⟨_, rfl, major, isMajor, rfl⟩ |
      ⟨_, ⟨_, ⟨_, ⟨_, rfl, major, isMajor, rfl⟩, minor, isMinor, rfl⟩, patch, isPatch, rfl⟩,
        rfl | ⟨tag, noPlus, rfl⟩⟩)
    · exact ⟨major, ['0'], ['0'], .nothing, isMajor, zero, zero, ⟨rfl, rfl⟩, rfl⟩
    · exact ⟨major, minor, patch, .release, isMajor, isMinor, isPatch, trivial, rfl⟩
    · exact ⟨major, minor, patch, .prerelease tag, isMajor, isMinor, isPatch, noPlus, rfl⟩
  · rintro ⟨major, minor, patch, earlier, isMajor, isMinor, isPatch, fits, rfl⟩
    cases earlier with
    | nothing =>
        obtain ⟨rfl, rfl⟩ := fits
        exact .inl ⟨_, rfl, major, isMajor, rfl⟩
    | release =>
        exact .inr ⟨_, ⟨_, ⟨_, ⟨_, rfl, major, isMajor, rfl⟩, minor, isMinor, rfl⟩, patch,
          isPatch, rfl⟩, .inl rfl⟩
    | prerelease tag =>
        exact .inr ⟨_, ⟨_, ⟨_, ⟨_, rfl, major, isMajor, rfl⟩, minor, isMinor, rfl⟩, patch,
          isPatch, rfl⟩, .inr ⟨tag, fits, rfl⟩⟩

/-- What a pseudo-version is without the marker of an incompatible one. -/
private structure IsBody (body : Text) : Prop where
  length : 27 ≤ body.length
  base : isBase (body.take (body.length - 27)) = true
  stamp : ((body.drop (body.length - 27)).take 14).all Text.isDecimalDigit = true
  hyphen : body[body.length - 13]? = some '-'
  commit : (body.drop (body.length - 12)).all isCommitDigit = true

private theorem isPseudo_iff_isBody {text : Text} :
    isPseudo text = true ↔ IsBody (Text.dropEnding incompatibleMarker (Text.trim text)) := by
  simp only [isPseudo, stamp?]
  split
  · next shaped =>
      obtain ⟨length, base, stamp, hyphen, commit⟩ := shaped
      exact iff_of_true rfl ⟨length, base, stamp, hyphen, commit⟩
  · next notShaped =>
      refine iff_of_false (by simp) fun isBody => notShaped ?_
      exact ⟨isBody.length, isBody.base, isBody.stamp, isBody.hyphen, isBody.commit⟩

/-- The stamp and the commit are found from the end. -/
private theorem isBody_iff {body : Text} :
    IsBody body ↔
      ∃ base stamp commit : Text,
        isBase base = true ∧
          stamp.length = 14 ∧ (∀ digit ∈ stamp, Text.isDecimalDigit digit = true) ∧
          commit.length = 12 ∧ (∀ digit ∈ commit, isCommitDigit digit = true) ∧
          body = base ++ (stamp ++ '-' :: commit) := by
  constructor
  · rintro ⟨length, base, stamp, hyphen, commit⟩
    refine
      ⟨_, _, _, base, ?_, List.all_eq_true.mp stamp, ?_, List.all_eq_true.mp commit, ?_⟩
    · rw [List.length_take, List.length_drop]
      omega
    · rw [List.length_drop]
      omega
    · obtain ⟨within, isHyphen⟩ := List.getElem?_eq_some_iff.mp hyphen
      have fromHyphen :
          body.drop (body.length - 13) = '-' :: body.drop (body.length - 12) := by
        rw [List.drop_eq_getElem_cons within, isHyphen]
        congr 2
        omega
      have behindStamp :
          (body.drop (body.length - 27)).drop 14 = body.drop (body.length - 13) := by
        rw [List.drop_drop]
        congr 1
        omega
      rw [← fromHyphen, ← behindStamp, List.take_append_drop, List.take_append_drop]
  · rintro ⟨base, stamp, commit, isBase, stampLength, areDigits, commitLength, isCommit, rfl⟩
    have length : (base ++ (stamp ++ '-' :: commit)).length = base.length + 27 := by
      simp [stampLength, commitLength]
    have afterBase :
        (base ++ (stamp ++ '-' :: commit)).length - 27 = base.length := by
      omega
    have atHyphen :
        (base ++ (stamp ++ '-' :: commit)).length - 13 = (base ++ stamp).length := by
      rw [length, List.length_append, stampLength]
      omega
    have afterHyphen :
        (base ++ (stamp ++ '-' :: commit)).length - 12 = (base ++ (stamp ++ ['-'])).length := by
      simp [stampLength, commitLength]
    refine ⟨by omega, ?_, ?_, ?_, ?_⟩
    · rw [afterBase, List.take_left]
      exact isBase
    · rw [afterBase, List.drop_left, List.take_left' stampLength]
      exact List.all_eq_true.mpr areDigits
    · rw [atHyphen, ← List.append_assoc, List.getElem?_append_right (Nat.le_refl _), Nat.sub_self]
      rfl
    · have split :
          base ++ (stamp ++ '-' :: commit) = (base ++ (stamp ++ ['-'])) ++ commit := by
        simp
      rw [afterHyphen, split, List.drop_left]
      exact List.all_eq_true.mpr isCommit

/-- A text has the shape of a pseudo-version exactly if it is spelled from parts of that shape. -/
theorem isPseudo_iff {text : Text} :
    isPseudo text = true ↔
      ∃ spelling : Spelling, spelling.IsShaped ∧ Text.trim text = spelling.toText := by
  rw [isPseudo_iff_isBody, isBody_iff]
  constructor
  · rintro ⟨_, stamp, commit, isBase, stampLength, areDigits, commitLength, isCommit, split⟩
    obtain ⟨major, minor, patch, earlier, isMajor, isMinor, isPatch, fits, rfl⟩ :=
      isBase_iff.mp isBase
    have shaped : ∀ incompatible,
        Spelling.IsShaped { major, minor, patch, earlier, stamp, commit, incompatible } :=
      fun _ =>
        ⟨isMajor, isMinor, isPatch, fits, stampLength, areDigits, commitLength, isCommit⟩
    rw [Text.dropEnding] at split
    cases found : Text.before? incompatibleMarker (Text.trim text) with
    | none =>
        rw [found, Option.getD_none] at split
        exact ⟨_, shaped false, by simp [Spelling.toText, Spelling.marker, Spelling.base, split]⟩
    | some body =>
        rw [found, Option.getD_some] at split
        refine ⟨_, shaped true, ?_⟩
        rw [Text.before?_eq_some_iff.mp found, split]
        rfl
  · rintro ⟨spelling, shaped, whole⟩
    refine
      ⟨spelling.base, spelling.stamp, spelling.commit, ?_, shaped.stampLength, shaped.stamp,
        shaped.commitLength, shaped.commit, ?_⟩
    · exact isBase_iff.mpr
        ⟨_, _, _, _, shaped.major, shaped.minor, shaped.patch, shaped.earlier, rfl⟩
    · rw [whole, Text.dropEnding, Spelling.toText, Spelling.marker]
      split
      · rw [Text.before?_eq_some_iff.mpr rfl, Option.getD_some]
      · rw [List.append_nil]
        cases found :
            Text.before? incompatibleMarker
              (spelling.base ++ (spelling.stamp ++ '-' :: spelling.commit)) with
        | none => rfl
        | some body =>
            -- The hyphen in front of the commit stands where the marker has its plus sign.
            have ending := Text.before?_eq_some_iff.mp found
            rw [← List.append_assoc] at ending
            have sameEnding := (List.append_inj' ending (by simp [shaped.commitLength]; rfl)).2
            cases sameEnding

end Pseudo

end ModuleUpdate
