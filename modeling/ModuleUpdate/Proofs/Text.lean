import Mathlib.Data.List.DropRight
import Mathlib.Data.List.Forall2
import ModuleUpdate.Text.Quoted

namespace ModuleUpdate.Text

/-!
# Lines, white space and escapes

A printer that ends every line with a line feed is undone by `Text.lines`, as long as no line
holds a line feed or ends in a carriage return.  Trimming the end of a text keeps what stands in
front of its last visible character.  Escaping goes character by character.  White space, letters
and digits are told apart by the ranges of their code points.  A run of characters is taken off a
text where the next character stops it, and parts that lack a character are told apart by it.
-/

/-- A text that stays one line: without a line feed and without a carriage return at its end. -/
structure IsLine (text : Text) : Prop where
  noLineFeed : '\n' ∉ text
  noReturn : text.getLast? ≠ some '\r'

/-- Texts on lines of their own. -/
def unlines (texts : List Text) : Text :=
  texts.flatMap fun text => text ++ ['\n']

/-- A line in front of a text is its first line. -/
theorem lines_append
    {line : Text}
    (isLine : IsLine line)
    (rest : Text) :
    lines (line ++ '\n' :: rest) = line :: lines rest := by
  obtain ⟨noLineFeed, noReturn⟩ := isLine
  induction line with
  | nil => rfl
  | cons character others inductionHypothesis =>
      have isOther : character ≠ '\n' := by
        rintro rfl
        exact noLineFeed (by simp)
      have othersNoFeed : '\n' ∉ others :=
        fun member => noLineFeed (List.mem_cons_of_mem _ member)
      have othersNoReturn : others.getLast? ≠ some '\r' := by
        intro last
        apply noReturn
        rw [List.getLast?_cons, last]
        rfl
      have tail := inductionHypothesis othersNoFeed othersNoReturn
      rw [List.cons_append, lines, tail]
      · exact isOther
      · intro behind isReturn same
        subst isReturn
        cases others with
        | nil => exact noReturn rfl
        | cons second following =>
            have : second = '\n' := (List.cons.inj same).1
            exact othersNoFeed (by simp [this])

/-- Lines that were printed are read back. -/
theorem lines_unlines
    {texts : List Text}
    (areLines : ∀ text ∈ texts, IsLine text) :
    lines (unlines texts) = texts := by
  induction texts with
  | nil => rfl
  | cons text following inductionHypothesis =>
      have whole : unlines (text :: following) = text ++ '\n' :: unlines following := by
        simp [unlines]
      rw [whole, lines_append (areLines text (by simp)),
        inductionHypothesis fun other member => areLines other (by simp [member])]

/-- A carriage return in front of a line feed belongs to it. -/
theorem lines_return
    {text : Text}
    (ends : text.head? = some '\n') :
    lines ('\r' :: text) = lines text := by
  obtain ⟨rest, rfl⟩ := List.head?_eq_some_iff.mp ends
  rfl

/-- A character that ends no line stands in front of the first line. -/
theorem lines_cons
    {character : Char}
    (isOther : character ≠ '\n')
    {text : Text}
    (noReturn : ¬(character = '\r' ∧ text.head? = some '\n')) :
    lines (character :: text) =
      match lines text with
      | [] => [[character]]
      | line :: following => (character :: line) :: following := by
  rw [lines.eq_def]
  split
  · next same => cases same
  · next same => exact absurd (List.cons.inj same).1 isOther
  · next same =>
      obtain ⟨isReturn, rfl⟩ := List.cons.inj same
      exact absurd ⟨isReturn, rfl⟩ noReturn
  · next same =>
      cases same
      rfl

/-- A text without a line feed in front of a line that is not empty is part of the line. -/
theorem lines_append_left
    {front : Text}
    (oneLine : '\n' ∉ front)
    {text line : Text}
    {following : List Text}
    (split : lines text = line :: following)
    (notEmpty : line ≠ []) :
    lines (front ++ text) = (front ++ line) :: following := by
  induction front with
  | nil => exact split
  | cons character others inductionHypothesis =>
      rw [List.mem_cons, not_or] at oneLine
      have others := inductionHypothesis oneLine.2
      rw [List.cons_append, lines_cons (Ne.symm oneLine.1), others]
      · rfl
      · rintro ⟨_, ends⟩
        obtain ⟨rest, same⟩ := List.head?_eq_some_iff.mp ends
        rw [same, lines] at others
        simp [notEmpty] at others

/-- Lines hold no line feed. -/
theorem lineFeed_not_mem_of_mem_lines
    {text line : Text}
    (member : line ∈ lines text) :
    '\n' ∉ line := by
  fun_induction lines text generalizing line with
  | case1 => cases member
  | case2 rest inductionHypothesis =>
      rcases List.mem_cons.mp member with rfl | inRest
      · exact List.not_mem_nil
      · exact inductionHypothesis inRest
  | case3 rest inductionHypothesis =>
      rcases List.mem_cons.mp member with rfl | inRest
      · exact List.not_mem_nil
      · exact inductionHypothesis inRest
  | case4 character rest isOther _ none inductionHypothesis =>
      rw [List.mem_singleton] at member
      subst member
      rw [List.mem_singleton]
      exact fun same => isOther same.symm
  | case5 character rest isOther _ first following split inductionHypothesis =>
      rcases List.mem_cons.mp member with rfl | inRest
      · rw [List.mem_cons, not_or]
        exact ⟨fun same => isOther same.symm, inductionHypothesis (by simp [split])⟩
      · exact inductionHypothesis (by simp [split, inRest])

/-- Trimming the end of a text gives an initial part of it. -/
theorem initial_trimEnd (text : Text) : trimEnd text <+: text :=
  List.rdropWhile_prefix isBlank text

/-- Trimming the end twice trims it once. -/
theorem trimEnd_trimEnd (text : Text) : trimEnd (trimEnd text) = trimEnd text :=
  List.rdropWhile_idempotent isBlank text

/-- Trimming stops at the last visible character. -/
theorem trimEnd_append
    (front : Text)
    {last : Char}
    (visible : isBlank last = false)
    (behind : Text) :
    trimEnd (front ++ last :: behind) = front ++ last :: trimEnd behind := by
  have reversed :
      (front ++ last :: behind).reverse = behind.reverse ++ last :: front.reverse := by
    simp
  simp only [trimEnd]
  rw [reversed, List.dropWhile_append]
  split
  · next allBlank =>
      rw [List.dropWhile_cons_of_neg (by simp [visible]), List.isEmpty_iff.mp allBlank]
      simp
  · simp

/-- A text that ends in a visible character is trimmed. -/
theorem trimEnd_eq_self
    (front : Text)
    {last : Char}
    (visible : isBlank last = false) :
    trimEnd (front ++ [last]) = front ++ [last] :=
  trimEnd_append front visible []

/-- A trimmed text does not end in white space. -/
theorem isBlank_of_trimEnd_eq_self
    {text : Text}
    (trimmed : trimEnd text = text)
    {last : Char}
    (isLast : text.getLast? = some last) :
    isBlank last = false := by
  obtain ⟨front, rfl⟩ := List.getLast?_eq_some_iff.mp isLast
  by_contra blank
  have shorter : trimEnd (front ++ [last]) = trimEnd front :=
    List.rdropWhile_concat_pos isBlank front last (by simpa using blank)
  have bound := (initial_trimEnd front).length_le
  rw [shorter] at trimmed
  rw [trimmed, List.length_append] at bound
  exact Nat.not_succ_le_self _ bound

theorem trimStart_trim (text : Text) : trimStart (trim text) = trim text := by
  cases trimmed : trim text with
  | nil => rfl
  | cons first rest =>
      obtain ⟨behind, whole⟩ : first :: rest <+: trimStart text :=
        trimmed ▸ initial_trimEnd (trimStart text)
      have visible := List.head?_dropWhile_not isBlank text
      rw [trimStart] at whole
      rw [← whole] at visible
      exact List.dropWhile_cons_of_neg (by simpa using visible)

/-- A trimmed text is trimmed. -/
theorem trim_trim (text : Text) : trim (trim text) = trim text := by
  rw [trim, trimStart_trim]
  exact trimEnd_trimEnd (trimStart text)

/-- White space in front is trimmed away. -/
theorem trim_blank
    {blank : Char}
    (isBlank : isBlank blank = true)
    (text : Text) :
    trim (blank :: text) = trim text := by
  rw [trim, trimStart, List.dropWhile_cons_of_pos isBlank]
  rfl

theorem trimEnd_of_trim
    {text : Text}
    (trimmed : trim text = text) :
    trimEnd text = text := by
  rw [← trimmed]
  exact trimEnd_trimEnd _

/-- The characters of joined texts are those of the separator and of the texts. -/
theorem mem_join
    {separator : Text}
    {texts : List Text}
    {character : Char}
    (member : character ∈ join separator texts) :
    character ∈ separator ∨ ∃ text ∈ texts, character ∈ text := by
  simp only [join] at member
  induction texts with
  | nil => cases member
  | cons text following inductionHypothesis =>
      cases following with
      | nil =>
          rw [List.intercalate_singleton] at member
          exact .inr ⟨text, by simp, member⟩
      | cons second others =>
          rw [List.intercalate_cons_cons, List.mem_append, List.mem_append] at member
          rcases member with (inFirst | inSeparator) | inOthers
          · exact .inr ⟨text, by simp, inFirst⟩
          · exact .inl inSeparator
          · rcases inductionHypothesis inOthers with inSeparator | ⟨other, found, within⟩
            · exact .inl inSeparator
            · exact .inr ⟨other, by simp [found], within⟩

/-- The characters of a text are among those of the joined texts. -/
theorem mem_join_of_mem
    (separator : Text)
    {texts : List Text}
    {text : Text}
    (isText : text ∈ texts)
    {character : Char}
    (member : character ∈ text) :
    character ∈ join separator texts := by
  obtain ⟨front, behind, rfl⟩ := List.mem_iff_append.mp isText
  simp only [join]
  induction front with
  | nil =>
      cases behind with
      | nil => simpa [List.intercalate_singleton] using member
      | cons second others => simp [List.intercalate_cons_cons, member]
  | cons first others inductionHypothesis =>
      rw [List.cons_append, List.intercalate_cons_of_ne_nil (by simp)]
      exact List.mem_append_right _ (inductionHypothesis (by simp))

/-- Joined texts end in the last of them. -/
theorem join_append_singleton
    (separator : Text)
    (texts : List Text)
    (last : Text) :
    ∃ front, join separator (texts ++ [last]) = front ++ last := by
  simp only [join]
  induction texts with
  | nil => exact ⟨[], by simp⟩
  | cons text following inductionHypothesis =>
      obtain ⟨front, whole⟩ := inductionHypothesis
      refine ⟨text ++ separator ++ front, ?_⟩
      rw [List.cons_append, List.intercalate_cons_of_ne_nil (by simp), whole]
      simp

/-- A run of characters ends in front of the first one that does not belong to it. -/
theorem takeWhile_of_stops
    {keeps : Char → Bool}
    {run behind : Text}
    (allKept : ∀ character ∈ run, keeps character = true)
    (stops : ∀ character ∈ behind.head?, keeps character = false) :
    (run ++ behind).takeWhile keeps = run ∧ (run ++ behind).dropWhile keeps = behind := by
  rw [List.takeWhile_append_of_pos allKept, List.dropWhile_append_of_pos allKept]
  cases behind with
  | nil => simp
  | cons first following =>
      have stopsHere : ¬keeps first = true := Bool.eq_false_iff.mp (stops first rfl)
      rw [List.takeWhile_cons_of_neg stopsHere, List.dropWhile_cons_of_neg stopsHere,
        List.append_nil]
      exact ⟨rfl, rfl⟩

/-- A text is a run of characters and what stops it in one way only. -/
theorem eq_of_append_of_stops
    {keeps : Char → Bool}
    {first second behindFirst behindSecond : Text}
    (firstKept : ∀ character ∈ first, keeps character = true)
    (secondKept : ∀ character ∈ second, keeps character = true)
    (firstStops : ∀ character ∈ behindFirst.head?, keeps character = false)
    (secondStops : ∀ character ∈ behindSecond.head?, keeps character = false)
    (same : first ++ behindFirst = second ++ behindSecond) :
    first = second ∧ behindFirst = behindSecond := by
  obtain ⟨firstRun, firstBehind⟩ := takeWhile_of_stops firstKept firstStops
  obtain ⟨secondRun, secondBehind⟩ := takeWhile_of_stops secondKept secondStops
  rw [same] at firstRun firstBehind
  exact ⟨firstRun.symm.trans secondRun, firstBehind.symm.trans secondBehind⟩

/-- The parts of a text that is split at a mark do not hold the mark. -/
theorem not_mem_of_mem_splitOn
    {mark : Char}
    {text part : Text}
    (isPart : part ∈ text.splitOn mark) :
    mark ∉ part := by
  induction text generalizing part with
  | nil =>
      rw [List.splitOn_nil, List.mem_singleton] at isPart
      simp [isPart]
  | cons character rest inductionHypothesis =>
      rw [List.splitOn_cons_eq_if_modifyHead] at isPart
      split at isPart
      · rcases List.mem_cons.mp isPart with rfl | inRest
        · exact List.not_mem_nil
        · exact inductionHypothesis inRest
      · next isOther =>
          cases split : rest.splitOn mark with
          | nil => exact absurd split (List.splitOn_ne_nil mark rest)
          | cons first others =>
              rw [split] at isPart inductionHypothesis
              rcases List.mem_cons.mp isPart with rfl | inOthers
              · rw [List.mem_cons, not_or]
                exact ⟨fun same => isOther (by simp [same]), inductionHypothesis (by simp)⟩
              · exact inductionHypothesis (by simp [inOthers])

theorem escape_cons_of_special
    {character : Char}
    (isSpecial : character = '\\' ∨ character = '"')
    (rest : Text) :
    escape (character :: rest) = '\\' :: character :: escape rest := by
  simp [escape, isSpecial]

theorem escape_cons_of_plain
    {character : Char}
    (isPlain : ¬(character = '\\' ∨ character = '"'))
    (rest : Text) :
    escape (character :: rest) = character :: escape rest := by
  simp [escape, isPlain]

/-- Escaping adds no line feed. -/
theorem lineFeed_not_mem_escape
    {value : Text}
    (oneLine : '\n' ∉ value) :
    '\n' ∉ escape value := by
  intro member
  obtain ⟨character, inValue, inEscaped⟩ := List.mem_flatMap.mp member
  split at inEscaped
  · next special =>
      rcases special with rfl | rfl <;> simp at inEscaped
  · rw [List.mem_singleton] at inEscaped
    exact oneLine (inEscaped ▸ inValue)

theorem byteLength_append (front rest : Text) :
    byteLength (front ++ rest) = byteLength front + byteLength rest := by
  induction front with
  | nil => simp [byteLength]
  | cons character following inductionHypothesis =>
      rw [List.cons_append, byteLength, byteLength, inductionHypothesis]
      omega

theorem byteLength_eq_utf8ByteSize (text : Text) :
    byteLength text = (String.ofList text).utf8ByteSize := by
  induction text with
  | nil => rfl
  | cons character following inductionHypothesis => simp [byteLength, inductionHypothesis]

/-- Behind a part of a text a character starts or the text ends. -/
theorem isValid_byteLength (front rest : Text) :
    String.Pos.Raw.IsValid (String.ofList (front ++ rest)) ⟨byteLength front⟩ := by
  rw [String.Pos.Raw.isValid_iff_exists_append]
  refine ⟨String.ofList front, String.ofList rest, String.ofList_append, ?_⟩
  rw [byteLength_eq_utf8ByteSize]
  rfl

/-- A code point that ranges hold is in one of them. -/
theorem exists_of_inRanges
    {ranges : List (Nat × Nat)}
    {code : Nat}
    (within : inRanges ranges code = true) :
    ∃ range ∈ ranges, range.1 ≤ code ∧ code ≤ range.2 := by
  fun_induction inRanges ranges code with
  | case1 => cases within
  | case2 => cases within
  | case3 code range last higher notBelow inductionHypothesis =>
      rcases Bool.or_eq_true_iff.mp within with isLast | isHigher
      · exact ⟨_, List.mem_cons_self, Nat.le_of_not_lt notBelow, of_decide_eq_true isLast⟩
      · obtain ⟨range, member, bounds⟩ := inductionHypothesis isHigher
        exact ⟨range, List.mem_cons_of_mem _ member, bounds⟩

/-- No range of the one list meets a range of the other. -/
def AreDisjoint (ranges others : List (Nat × Nat)) : Prop :=
  ∀ range ∈ ranges, ∀ other ∈ others, range.2 < other.1 ∨ other.2 < range.1

instance (ranges others : List (Nat × Nat)) : Decidable (AreDisjoint ranges others) :=
  inferInstanceAs (Decidable (∀ range ∈ ranges, _))

theorem AreDisjoint.inRanges_eq_false
    {ranges others : List (Nat × Nat)}
    {code : Nat}
    (disjoint : AreDisjoint ranges others)
    (within : inRanges ranges code = true) :
    inRanges others code = false := by
  rw [Bool.eq_false_iff]
  intro withinOthers
  obtain ⟨range, member, above, below⟩ := exists_of_inRanges within
  obtain ⟨other, otherMember, otherAbove, otherBelow⟩ := exists_of_inRanges withinOthers
  rcases disjoint range member other otherMember with isLower | isHigher <;> omega

/-- White space is neither a letter nor a digit of any script. -/
theorem isAlphanumeric_of_isBlank
    {character : Char}
    (blank : isBlank character = true) :
    isAlphanumeric character = false := by
  rw [isAlphanumeric, Bool.or_eq_false_iff]
  constructor
  · exact AreDisjoint.inRanges_eq_false (by decide +kernel) blank
  · exact AreDisjoint.inRanges_eq_false (by decide +kernel) blank

end ModuleUpdate.Text
