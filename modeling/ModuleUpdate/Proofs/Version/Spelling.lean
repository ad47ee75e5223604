import ModuleUpdate.Proofs.Version.Order

namespace ModuleUpdate

/-!
# The spelling of versions

A semantic version can be spelled in one way only: its numbers have no superfluous zeros, and its
identifiers stand in it as they are.  So two texts of one precedence are the same but for the
white space around them.  On all texts, those that cannot be read among them, precedence is a
total preorder.
-/

namespace SemanticVersion

/-- Identifiers behind their mark, which is left out where there are none. -/
def tailText (mark : Char) : List Text → Text
  | [] => []
  | first :: others => mark :: Text.join ['.'] (first :: others)

/-- The version as it is spelled, without the letter in front. -/
def toText (version : SemanticVersion) : Text :=
  Text.ofNatural version.major ++ '.' :: Text.ofNatural version.minor ++
    '.' :: Text.ofNatural version.patch ++ tailText '-' version.prerelease ++
      tailText '+' version.build

/-- Digits without a superfluous zero are the digits of their number. -/
theorem ofNatural_ofDigits
    {digits : Text}
    (notEmpty : digits ≠ [])
    (areDigits : digits.all Char.isDigit = true)
    (plain : hasSuperfluousZero digits = false) :
    Text.ofNatural (Text.ofDigits digits) = digits := by
  obtain ⟨first, others, rfl⟩ := List.exists_cons_of_ne_nil notEmpty
  by_cases isZero : first = '0'
  · subst isZero
    have alone : others = [] := by
      simpa [hasSuperfluousZero] using plain
    rw [alone]
    decide
  · exact (Text.ofNatural_ofDigits areDigits isZero).2

/-- A number is read off its digits. -/
theorem text_of_readNumber?
    {text rest : Text}
    {number : Nat}
    (read : readNumber? text = some (number, rest)) :
    text = Text.ofNatural number ++ rest := by
  simp only [readNumber?] at read
  split at read
  · cases read
  · next plain =>
      obtain ⟨spelled, isNumber, same⟩ := Option.map_eq_some_iff.mp read
      cases same
      rw [Text.word?, Option.filter_eq_some_iff, Text.natural?] at isNumber
      split at isNumber
      · next digits =>
          cases isNumber.1
          rw [ofNatural_ofDigits digits.1 digits.2 (Bool.eq_false_iff.mpr plain),
            List.takeWhile_append_dropWhile]
      · cases isNumber.1

/-- There is always an identifier, and dots join it to the others. -/
theorem text_of_readIdentifiers
    {text rest : Text}
    {identifiers : List Text}
    (read : readIdentifiers text = (identifiers, rest)) :
    identifiers ≠ [] ∧ text = Text.join ['.'] identifiers ++ rest := by
  cases read
  refine ⟨List.splitOn_ne_nil _ _, ?_⟩
  rw [Text.join, List.intercalate_splitOn, List.takeWhile_append_dropWhile]

/-- Identifiers are read off the text behind their mark. -/
theorem text_of_readTail?
    {mark : Char}
    {accepts : Text → Bool}
    {text rest : Text}
    {identifiers : List Text}
    (read : readTail? mark accepts text = some (identifiers, rest)) :
    text = tailText mark identifiers ++ rest := by
  cases text with
  | nil =>
      cases read
      rfl
  | cons character behind =>
      simp only [readTail?] at read
      split at read
      · next isMark =>
          subst isMark
          cases found : readIdentifiers behind with
          | mk identifiers rest =>
              rw [found] at read
              obtain ⟨notEmpty, whole⟩ := text_of_readIdentifiers found
              obtain ⟨first, others, rfl⟩ := List.exists_cons_of_ne_nil notEmpty
              split at read
              · cases read
                rw [tailText, List.cons_append, ← whole]
              · cases read
      · cases read
        rfl

/-- A semantic version is read off its spelling. -/
theorem text_of_parse?
    {text : Text}
    {version : SemanticVersion}
    (read : parse? text = some version) :
    text = version.toText := by
  simp only [parse?, Option.bind_eq_bind, Option.bind_eq_some_iff, Prod.exists,
    Option.ite_none_right_eq_some, Text.after?_eq_some_iff] at read
  obtain ⟨major, _, majorRead, minor, _, ⟨_, rfl, minorRead⟩, patch, _, ⟨_, rfl, patchRead⟩,
    prerelease, _, prereleaseRead, build, _, buildRead, rfl, made⟩ := read
  cases made
  simp only [toText, text_of_readNumber? majorRead, text_of_readNumber? minorRead,
    text_of_readNumber? patchRead, text_of_readTail? prereleaseRead, text_of_readTail? buildRead,
    List.cons_append, List.nil_append, List.append_nil, List.append_assoc]

end SemanticVersion

namespace Version

/-- A version is spelled with the letter in front. -/
theorem trim_of_parse?
    {text : Text}
    {version : Version}
    (read : parse? text = some version) :
    Text.trim text = 'v' :: version.semantic.toText := by
  simp only [parse?, Option.bind_eq_bind, Option.bind_eq_some_iff, Text.after?_eq_some_iff] at read
  obtain ⟨semantic, ⟨bare, spelled, bareRead⟩, made⟩ := read
  cases made
  rw [spelled, SemanticVersion.text_of_parse? bareRead]
  rfl

/-- Only texts with the same spelling are of the same precedence. -/
theorem trim_eq_of_order
    {left right : Text}
    (same : order left right = .eq) :
    Text.trim left = Text.trim right := by
  simp only [order] at same
  cases leftRead : parse? left <;> cases rightRead : parse? right <;>
    simp only [leftRead, rightRead] at same
  case none.none => rw [Std.LawfulEqOrd.eq_of_compare same]
  case some.some =>
    rw [trim_of_parse? leftRead, trim_of_parse? rightRead, Std.LawfulEqCmp.eq_of_compare same]
  all_goals cases same

/-- White space around a text does not matter to what is read. -/
theorem parse?_congr
    {left right : Text}
    (same : Text.trim left = Text.trim right) :
    parse? left = parse? right := by
  simp only [parse?, same]

/-- A text that is no version is below every version. -/
theorem order_of_unread
    {left right : Text}
    (unread : parse? left = none)
    (isRead : (parse? right).isSome = true) :
    order left right = .lt := by
  obtain ⟨version, read⟩ := Option.isSome_iff_exists.mp isRead
  rw [order, unread, read]

/-- Two texts are of the same order only as spellings of one version, or as the same text. -/
theorem order_eq_iff {left right : Text} :
    order left right = .eq ↔
      left = right ∨
        (parse? left).isSome = true ∧ (parse? right).isSome = true ∧
          Text.trim left = Text.trim right := by
  constructor
  · intro same
    have sameSpelling := trim_eq_of_order same
    have sameRead := parse?_congr sameSpelling
    cases read : parse? left with
    | some version =>
        rw [read] at sameRead
        exact .inr ⟨rfl, by rw [← sameRead]; rfl, sameSpelling⟩
    | none =>
        simp only [order, ← sameRead, read] at same
        exact .inl (Std.LawfulEqOrd.eq_of_compare same)
  · rintro (rfl | ⟨isRead, _, sameSpelling⟩)
    · exact Std.ReflCmp.compare_self
    · obtain ⟨version, read⟩ := Option.isSome_iff_exists.mp isRead
      have alike : version.semantic.order version.semantic = .eq := Std.ReflCmp.compare_self
      rw [order, ← parse?_congr sameSpelling, read]
      exact alike

/--
All texts are in a total preorder: comparing the other way round gives the opposite answer, any two
are in order one way round, and the order is transitive.  Texts that are no version come before all
versions, and two different texts are of the same order exactly if they spell a version alike but
for white space around them.
-/
theorem order_is_total_preorder :
    (∀ left right, order left right = (order right left).swap) ∧
      (∀ left right, (order left right).isLE = true ∨ (order right left).isLE = true) ∧
      (∀ first second third,
        (order first second).isLE = true →
          (order second third).isLE = true → (order first third).isLE = true) ∧
      (∀ left right,
        parse? left = none → (parse? right).isSome = true → order left right = .lt) ∧
      ∀ left right,
        order left right = .eq ↔
          left = right ∨
            (parse? left).isSome = true ∧ (parse? right).isSome = true ∧
              Text.trim left = Text.trim right := by
  refine ⟨order_swap, fun left right => ?_, fun _ _ _ => Std.TransCmp.isLE_trans,
    fun _ _ => order_of_unread, fun _ _ => order_eq_iff⟩
  rw [order_swap left right]
  cases order right left
  · exact .inr rfl
  · exact .inl rfl
  · exact .inl rfl

/-- A prerelease with numbers and names, its release, and that release built twice. -/
theorem order_is_total_preorder_built :
    (order "v1.0.0-rc.2".toList "v1.0.0+007".toList).isLE = true ∧
      order "latest".toList "v1.0.0-rc.2".toList = .lt ∧
      order " v1.0.0+7".toList "v1.0.0+7".toList = .eq ∧
      order "v1.0.0+7".toList "v1.0.0+007".toList ≠ .eq := by
  obtain ⟨_, _, transitive, unread, same⟩ := order_is_total_preorder
  have prereleaseBelow :
      (order "v1.0.0-rc.2".toList "v1.0.0-rc.x".toList).isLE = true := by
    decide +kernel
  have releaseAbove : (order "v1.0.0-rc.x".toList "v1.0.0+007".toList).isLE = true := by
    decide +kernel
  have spelledApart : Text.trim "v1.0.0+7".toList ≠ Text.trim "v1.0.0+007".toList := by
    decide +kernel
  refine ⟨transitive _ _ _ prereleaseBelow releaseAbove,
    unread _ _ (by decide +kernel) (by decide +kernel),
    (same _ _).mpr (.inr (by decide +kernel)), fun sameOrder => ?_⟩
  rcases (same _ _).mp sameOrder with sameText | ⟨_, _, sameSpelling⟩
  · exact spelledApart (congrArg Text.trim sameText)
  · exact spelledApart sameSpelling

end Version

end ModuleUpdate
