import ModuleUpdate.ModulePath

namespace ModuleUpdate

/-!
# Nested module paths

A path lies within another if it is that path or goes on behind it with a slash.  Two paths that
a third one lies within are nested in each other.  The major suffix of a path is spelled in a
small alphabet, so paths that differ in it alone have every other character in common.
-/

namespace Text

/-- A text that is cut at a mark is put together again around it. -/
theorem splitAtLast?_eq_some
    {mark text before behind : Text}
    (found : splitAtLast? mark text = some (before, behind)) :
    text = before ++ mark ++ behind := by
  induction text generalizing before with
  | nil =>
      obtain ⟨_, follows, same⟩ := Option.map_eq_some_iff.mp found
      cases same
      exact after?_eq_some_iff.mp follows
  | cons character rest inductionHypothesis =>
      rw [splitAtLast?] at found
      split at found
      · next earlier left later =>
          cases found
          rw [inductionHypothesis later]
          rfl
      · obtain ⟨_, follows, same⟩ := Option.map_eq_some_iff.mp found
        cases same
        exact after?_eq_some_iff.mp follows

theorem dropEnding_append (ending text : Text) :
    ∃ dropped, text = dropEnding ending text ++ dropped ∧
      (dropped = [] ∨ dropped = ending) := by
  simp only [dropEnding]
  cases found : before? ending text with
  | none => exact ⟨[], by simp, .inl rfl⟩
  | some before => exact ⟨ending, before?_eq_some_iff.mp found, .inr rfl⟩

end Text

namespace ModulePath

/-- A path is nested in another one where it is that path or goes on behind a slash. -/
theorem isWithin_iff
    {path base : Text} :
    isWithin path base = true ↔
      ∃ rest, path = base ++ rest ∧ (rest = [] ∨ rest.head? = some '/') := by
  simp only [isWithin]
  constructor
  · intro within
    split at within
    · next found => exact ⟨[], Text.after?_eq_some_iff.mp found, .inl rfl⟩
    · next separator rest found =>
        rw [beq_iff_eq] at within
        exact ⟨separator :: rest, Text.after?_eq_some_iff.mp found, .inr (by simp [within])⟩
    · cases within
  · rintro ⟨rest, split, ends⟩
    rw [Text.after?_eq_some_iff.mpr split]
    cases rest with
    | nil => rfl
    | cons separator others => simpa using ends

theorem isWithin_refl (path : Text) :
    isWithin path path = true :=
  isWithin_iff.mpr ⟨[], by simp, .inl rfl⟩

/-- A path is nested in what the path around it is nested in. -/
theorem isWithin_trans
    {path middle base : Text}
    (inner : isWithin path middle = true)
    (outer : isWithin middle base = true) :
    isWithin path base = true := by
  obtain ⟨behind, rfl, innerEnds⟩ := isWithin_iff.mp inner
  obtain ⟨between, rfl, outerEnds⟩ := isWithin_iff.mp outer
  refine isWithin_iff.mpr ⟨between ++ behind, by simp, ?_⟩
  cases between with
  | nil => exact innerEnds
  | cons => exact .inr (by simpa using outerEnds)

/-- Two paths that a third one lies within are nested in each other. -/
theorem isWithin_or_isWithin
    {path first second : Text}
    (withinFirst : isWithin path first = true)
    (withinSecond : isWithin path second = true) :
    isWithin first second = true ∨ isWithin second first = true := by
  obtain ⟨behindFirst, rfl, firstEnds⟩ := isWithin_iff.mp withinFirst
  obtain ⟨behindSecond, same, secondEnds⟩ := isWithin_iff.mp withinSecond
  have opens :
      ∀ {between behind : Text},
        (between ++ behind = [] ∨ (between ++ behind).head? = some '/') →
          between = [] ∨ between.head? = some '/' := by
    intro between behind ends
    cases between with
    | nil => exact .inl rfl
    | cons => exact .inr (by simpa using ends)
  rcases List.append_eq_append_iff.mp same with ⟨between, rfl, rfl⟩ | ⟨between, rfl, rfl⟩
  · exact .inr (isWithin_iff.mpr ⟨between, rfl, opens firstEnds⟩)
  · exact .inl (isWithin_iff.mpr ⟨between, rfl, opens secondEnds⟩)

/-- A path moves if it lies within the old module and not within the new one. -/
theorem move?_eq_some_iff
    {path old new moved : Text} :
    move? path old new = some moved ↔
      isWithin path old = true ∧ isWithin path new = false ∧
        moved = new ++ path.drop old.length := by
  simp only [move?]
  cases isWithin path new <;> cases isWithin path old <;> simp [eq_comm]

/-- A path moves where it is nested in the old path and not in the new one. -/
theorem move?_getD
    (path old new : Text) :
    (move? path old new).getD path =
      if isWithin path old = true ∧ isWithin path new = false then
        new ++ path.drop old.length
      else
        path := by
  simp only [move?]
  cases isWithin path new <;> cases isWithin path old <;> rfl

/-- Nothing moves to a module that the old one lies within. -/
theorem move?_eq_none_of_isWithin
    {old new : Text}
    (nested : isWithin old new = true)
    (path : Text) :
    move? path old new = none := by
  rw [Option.eq_none_iff_forall_ne_some]
  intro moved isMoved
  obtain ⟨within, outside, _⟩ := move?_eq_some_iff.mp isMoved
  rw [isWithin_trans within nested] at outside
  cases outside

/-- A moved path keeps what stands behind the old module. -/
theorem exists_of_move?
    {path old new moved : Text}
    (isMoved : move? path old new = some moved) :
    ∃ rest, path = old ++ rest ∧ moved = new ++ rest := by
  obtain ⟨within, _, rfl⟩ := move?_eq_some_iff.mp isMoved
  obtain ⟨rest, rfl, _⟩ := isWithin_iff.mp within
  exact ⟨rest, rfl, by rw [List.drop_left]⟩

/-- A moved path is within the new module. -/
theorem isWithin_of_move?
    {path old new moved : Text}
    (isMoved : move? path old new = some moved) :
    isWithin moved new = true := by
  obtain ⟨within, _, rfl⟩ := move?_eq_some_iff.mp isMoved
  obtain ⟨rest, rfl, ends⟩ := isWithin_iff.mp within
  rw [List.drop_left]
  exact isWithin_iff.mpr ⟨rest, rfl, ends⟩

/-- A path within the new module does not move there. -/
theorem move?_eq_none_of_isWithin_new
    {path new : Text}
    (within : isWithin path new = true)
    (old : Text) :
    move? path old new = none := by
  simp only [move?, within, if_true]

/-- A moved path does not move again. -/
theorem move?_eq_none_of_move?
    {path old new moved : Text}
    (isMoved : move? path old new = some moved) :
    move? moved old new = none :=
  move?_eq_none_of_isWithin_new (isWithin_of_move? isMoved) old

/-- What a move leaves is moved no further by it. -/
theorem move?_getD_eq_none (path old new : Text) :
    move? ((move? path old new).getD path) old new = none := by
  cases isMoved : move? path old new with
  | none => exact isMoved
  | some moved => exact move?_eq_none_of_move? isMoved

/--
A path that an earlier upgrade does not move is not brought back by a later one to a module that
is nested in the new one of the earlier upgrade, or that has nothing to do with the old one.
-/
theorem move?_getD_eq_none_of_onward
    {path earlierOld earlierNew new : Text}
    (stays : move? path earlierOld earlierNew = none)
    (onward :
      isWithin new earlierNew = true ∨
        (isWithin new earlierOld = false ∧ isWithin earlierOld new = false))
    (old : Text) :
    move? ((move? path old new).getD path) earlierOld earlierNew = none := by
  cases isMoved : move? path old new with
  | none => exact stays
  | some moved =>
      have withinNew := isWithin_of_move? isMoved
      rcases onward with nested | ⟨notBelow, notAbove⟩
      · exact move?_eq_none_of_isWithin_new (isWithin_trans withinNew nested) earlierOld
      · rw [Option.eq_none_iff_forall_ne_some]
        intro again movesBack
        obtain ⟨withinOld, _⟩ := move?_eq_some_iff.mp movesBack
        rcases isWithin_or_isWithin withinNew withinOld with below | above
        · exact Bool.false_ne_true (notBelow.symm.trans below)
        · exact Bool.false_ne_true (notAbove.symm.trans above)

/-- Neither of two paths lies within the other. -/
def AreApart (first second : Text) : Prop :=
  isWithin first second = false ∧ isWithin second first = false

instance (first second : Text) : Decidable (AreApart first second) :=
  inferInstanceAs (Decidable (_ ∧ _))

theorem AreApart.symm
    {first second : Text}
    (apart : AreApart first second) :
    AreApart second first :=
  And.symm apart

/-- Paths that are apart are different. -/
theorem AreApart.ne
    {first second : Text}
    (apart : AreApart first second) :
    first ≠ second := by
  rintro rfl
  exact Bool.false_ne_true (apart.1.symm.trans (isWithin_refl first))

/-- What lies within a module is not moved away from one that is apart from it. -/
theorem move?_eq_none_of_areApart
    {path base old : Text}
    (within : isWithin path base = true)
    (apart : AreApart base old)
    (new : Text) :
    move? path old new = none := by
  rw [Option.eq_none_iff_forall_ne_some]
  intro moved isMoved
  obtain ⟨withinOld, _⟩ := move?_eq_some_iff.mp isMoved
  rcases isWithin_or_isWithin within withinOld with below | above
  · exact Bool.false_ne_true (apart.1.symm.trans below)
  · exact Bool.false_ne_true (apart.2.symm.trans above)

/-- The characters that major suffixes are spelled with. -/
def isSuffixCharacter (character : Char) : Bool :=
  character.isDigit || character ∈ ['/', '.', 'v'] ++ unstableMarker

private theorem isSuffixCharacter_of_isMajorDigits
    {digits : Text}
    (spelled : isMajorDigits digits = true) :
    ∀ character ∈ digits, isSuffixCharacter character = true := by
  intro character member
  simp only [isMajorDigits, Bool.and_eq_true] at spelled
  have isDigit := List.all_eq_true.mp spelled.1.2 character member
  simp [isSuffixCharacter, isDigit]

/-- The parts of a path make it up, and its suffix is spelled in the alphabet. -/
private theorem splitDotted_eq (path : Text) :
    (splitDotted path).root ++ (splitDotted path).suffix = path ∧
      ∀ character ∈ (splitDotted path).suffix, isSuffixCharacter character = true := by
  obtain ⟨dropped, whole, isMarker⟩ := Text.dropEnding_append unstableMarker path
  simp only [splitDotted]
  split
  · next root digits found =>
      split
      · next spelled =>
          rw [Text.splitAtLast?_eq_some found, List.append_assoc, List.append_assoc] at whole
          have suffix : path.drop root.length = ".v".toList ++ (digits ++ dropped) := by
            rw [whole, List.drop_left]
          refine ⟨by simp only [suffix]; exact whole.symm, fun character member => ?_⟩
          simp only [suffix, List.mem_append] at member
          rcases member with inMark | inDigits | inDropped
          · have areMarks : ".v".toList.all isSuffixCharacter = true := by decide
            exact List.all_eq_true.mp areMarks character inMark
          · exact isSuffixCharacter_of_isMajorDigits spelled character inDigits
          · rcases isMarker with rfl | rfl
            · cases inDropped
            · simp [isSuffixCharacter, inDropped]
      · exact ⟨by simp, by simp⟩
  · exact ⟨by simp, by simp⟩

/-- Root and suffix make up the path, and the suffix holds a major version only. -/
private theorem splitSlashed_eq (path : Text) :
    (splitSlashed path).root ++ (splitSlashed path).suffix = path ∧
      ∀ character ∈ (splitSlashed path).suffix, isSuffixCharacter character = true := by
  simp only [splitSlashed]
  split
  · next root digits found =>
      split
      · next spelled =>
          have whole := Text.splitAtLast?_eq_some found
          rw [List.append_assoc] at whole
          have suffix : path.drop root.length = "/v".toList ++ digits := by
            rw [whole, List.drop_left]
          refine ⟨by simp only [suffix]; exact whole.symm, fun character member => ?_⟩
          simp only [suffix, List.mem_append] at member
          rcases member with inMark | inDigits
          · have areMarks : "/v".toList.all isSuffixCharacter = true := by decide
            exact List.all_eq_true.mp areMarks character inMark
          · exact isSuffixCharacter_of_isMajorDigits spelled.1 character inDigits
      · exact ⟨by simp, by simp⟩
  · exact ⟨by simp, by simp⟩

/-- The parts of a path make it up, and its suffix is spelled in the alphabet. -/
theorem split_eq (path : Text) :
    (split path).root ++ (split path).suffix = path ∧
      ∀ character ∈ (split path).suffix, isSuffixCharacter character = true := by
  simp only [split]
  split
  · exact splitDotted_eq path
  · exact splitSlashed_eq path

/-- A major change keeps every character that no suffix is spelled with. -/
theorem count_of_isMajorChange
    {old new : Text}
    (isMajor : isMajorChange old new = true)
    {character : Char}
    (isOther : isSuffixCharacter character = false) :
    old.count character = new.count character := by
  have sameRoot : (split old).root = (split new).root := by
    simp only [isMajorChange, Bool.and_eq_true, beq_iff_eq] at isMajor
    exact isMajor.2
  have inRoot : ∀ path : Text, path.count character = (split path).root.count character := by
    intro path
    obtain ⟨whole, spelled⟩ := split_eq path
    have absent : character ∉ (split path).suffix := by
      intro member
      rw [spelled character member] at isOther
      cases isOther
    calc
      path.count character = ((split path).root ++ (split path).suffix).count character := by
        rw [whole]
      _ = (split path).root.count character := by
        rw [List.count_append, List.count_eq_zero.mpr absent, Nat.add_zero]
  rw [inRoot old, inRoot new, sameRoot]

end ModulePath

end ModuleUpdate
