import ModuleUpdate.Proofs.Manifest.Formatting

namespace ModuleUpdate

/-!
# The order of the lines of a block

Lines are compared cell by cell: two versions by precedence, any other two cells as text.  Each of
the two orders is transitive, but not the one that is glued from them.  A cell that is no version
may stand as text between two versions whose texts are in the opposite order of their precedence.
Such a tangle is the only way in which three lines can precede each other in a circle, so a block
can be put in order exactly if it holds none.
-/

namespace Token

/-- Versions in the order of precedence, and as text in the other with a third cell between them. -/
structure IsTangle (low high stray : Text) : Prop where
  lowValid : Version.isValid low = true
  highValid : Version.isValid high = true
  strayInvalid : Version.isValid stray = false
  ascends : Version.order low high = .lt
  highBelow : compare high stray = .lt
  strayBelow : compare stray low = .lt

section Cells

variable {first second third : Text}

/-- Versions are compared by precedence, then as text. -/
private def versionOrder : Text → Text → Ordering :=
  compareLex Version.order compare

private instance : Std.TransCmp versionOrder :=
  inferInstanceAs (Std.TransCmp (compareLex Version.order compare))

private theorem valueOrder_of_valid
    (firstValid : Version.isValid first = true)
    (secondValid : Version.isValid second = true) :
    valueOrder first second = versionOrder first second :=
  if_pos ⟨firstValid, secondValid⟩

private theorem valueOrder_of_invalid
    (someInvalid : Version.isValid first = false ∨ Version.isValid second = false) :
    valueOrder first second = compare first second := by
  refine if_neg fun bothValid => ?_
  rcases someInvalid with firstInvalid | secondInvalid
  · exact absurd bothValid.1 (Bool.eq_false_iff.mp firstInvalid)
  · exact absurd bothValid.2 (Bool.eq_false_iff.mp secondInvalid)

instance : Std.OrientedCmp valueOrder where
  eq_swap := valueOrder_swap _ _

/-- Only equal cells compare as equal. -/
theorem valueOrder_eq_iff : valueOrder first second = .eq ↔ first = second := by
  constructor
  · intro same
    simp only [valueOrder] at same
    split at same
    · exact Std.LawfulEqOrd.eq_of_compare (Ordering.then_eq_eq.mp same).2
    · exact Std.LawfulEqOrd.eq_of_compare same
  · rintro rfl
    exact Std.ReflCmp.compare_self

theorem valueOrder_self (value : Text) : valueOrder value value = .eq :=
  valueOrder_eq_iff.mpr rfl

/-- In a circle of two versions and another cell the versions are in order of precedence. -/
private theorem isTangle_of_valid
    (firstValid : Version.isValid first = true)
    (secondValid : Version.isValid second = true)
    (thirdInvalid : Version.isValid third = false)
    (firstBelow : valueOrder first second = .lt)
    (secondBelow : valueOrder second third = .lt)
    (thirdBelow : valueOrder third first = .lt) :
    IsTangle first second third := by
  rw [valueOrder_of_invalid (.inr thirdInvalid)] at secondBelow
  rw [valueOrder_of_invalid (.inl thirdInvalid)] at thirdBelow
  rw [valueOrder_of_valid firstValid secondValid] at firstBelow
  refine ⟨firstValid, secondValid, thirdInvalid, ?_, secondBelow, thirdBelow⟩
  rcases Ordering.then_eq_lt.mp firstBelow with ascends | ⟨_, asText⟩
  · exact ascends
  · have inCircle := Std.TransCmp.lt_trans secondBelow thirdBelow
    exact absurd inCircle (Std.OrientedCmp.not_lt_of_lt asText)

/-- Cells that precede each other in a circle are tangled. -/
theorem isTangle_of_circle
    (firstBelow : valueOrder first second = .lt)
    (secondBelow : valueOrder second third = .lt)
    (thirdBelow : valueOrder third first = .lt) :
    IsTangle first second third ∨ IsTangle second third first ∨ IsTangle third first second := by
  cases firstValid : Version.isValid first <;> cases secondValid : Version.isValid second <;>
    cases thirdValid : Version.isValid third
  case true.true.false =>
    exact .inl
      (isTangle_of_valid firstValid secondValid thirdValid firstBelow secondBelow thirdBelow)
  case false.true.true =>
    exact .inr (.inl
      (isTangle_of_valid secondValid thirdValid firstValid secondBelow thirdBelow firstBelow))
  case true.false.true =>
    exact .inr (.inr
      (isTangle_of_valid thirdValid firstValid secondValid thirdBelow firstBelow secondBelow))
  case true.true.true =>
    rw [valueOrder_of_valid firstValid secondValid] at firstBelow
    rw [valueOrder_of_valid secondValid thirdValid] at secondBelow
    rw [valueOrder_of_valid thirdValid firstValid] at thirdBelow
    have inOrder := Std.TransCmp.lt_trans firstBelow secondBelow
    exact absurd thirdBelow (Std.OrientedCmp.not_lt_of_lt inOrder)
  -- With at most one version among the three, all of them are compared as text.
  all_goals
    rw [valueOrder_of_invalid (by simp only [firstValid, secondValid, true_or, or_true])]
      at firstBelow
    rw [valueOrder_of_invalid (by simp only [secondValid, thirdValid, true_or, or_true])]
      at secondBelow
    rw [valueOrder_of_invalid (by simp only [thirdValid, firstValid, true_or, or_true])]
      at thirdBelow
    have inOrder := Std.TransCmp.lt_trans firstBelow secondBelow
    exact absurd thirdBelow (Std.OrientedCmp.not_lt_of_lt inOrder)

/-- Tangled cells precede each other in a circle. -/
theorem IsTangle.circle
    (tangle : IsTangle first second third) :
    valueOrder first second = .lt ∧
      valueOrder second third = .lt ∧ valueOrder third first = .lt := by
  refine ⟨?_, ?_, ?_⟩
  · rw [valueOrder_of_valid tangle.lowValid tangle.highValid]
    exact Ordering.then_eq_lt.mpr (.inl tangle.ascends)
  · rw [valueOrder_of_invalid (.inr tangle.strayInvalid)]
    exact tangle.highBelow
  · rw [valueOrder_of_invalid (.inl tangle.strayInvalid)]
    exact tangle.strayBelow

/-- Cells of which none is above the next one, nor the last above the first. -/
private theorem eq_or_circle
    (firstPair : valueOrder first second = .lt ∨ first = second)
    (secondPair : valueOrder second third = .lt ∨ second = third)
    (thirdPair : valueOrder third first = .lt ∨ third = first) :
    second = first ∧ third = first ∨
      valueOrder first second = .lt ∧ valueOrder second third = .lt ∧
        valueOrder third first = .lt := by
  rcases firstPair with firstBelow | rfl
  · rcases secondPair with secondBelow | rfl
    · rcases thirdPair with thirdBelow | rfl
      · exact .inr ⟨firstBelow, secondBelow, thirdBelow⟩
      · exact absurd secondBelow (Std.OrientedCmp.not_lt_of_lt firstBelow)
    · rcases thirdPair with secondBelow | rfl
      · exact absurd secondBelow (Std.OrientedCmp.not_lt_of_lt firstBelow)
      · exact .inl ⟨rfl, rfl⟩
  · rcases thirdPair with thirdBelow | rfl
    · rcases secondPair with firstBelow | rfl
      · exact absurd thirdBelow (Std.OrientedCmp.not_lt_of_lt firstBelow)
      · exact .inl ⟨rfl, rfl⟩
    · exact .inl ⟨rfl, rfl⟩

end Cells

/-- Three rows that are alike up to a column with a tangle. -/
inductive AreTangled : List Token → List Token → List Token → Prop where
  | here
      {low high stray : Token}
      {lows highs strays : List Token}
      (tangle : IsTangle low.value high.value stray.value) :
      AreTangled (low :: lows) (high :: highs) (stray :: strays)
  | behind
      {low high stray : Token}
      {lows highs strays : List Token}
      (sameHigh : high.value = low.value)
      (sameStray : stray.value = low.value)
      (others : AreTangled lows highs strays) :
      AreTangled (low :: lows) (high :: highs) (stray :: strays)

section Rows

variable {first second third : List Token}

/-- Rows compare as equal if their values are the same. -/
theorem rowOrder_eq_iff : rowOrder first second = .eq ↔ first.map value = second.map value := by
  induction first generalizing second with
  | nil => cases second <;> simp [rowOrder]
  | cons token following inductionHypothesis =>
      cases second with
      | nil => simp [rowOrder]
      | cons other others =>
          simp only [rowOrder, Ordering.then_eq_eq, valueOrder_eq_iff, inductionHypothesis,
            List.map_cons, List.cons.injEq]

/-- The order looks at the values only. -/
theorem rowOrder_eq_compareLex (first second : List Token) :
    rowOrder first second = List.compareLex valueOrder (first.map value) (second.map value) := by
  induction first generalizing second with
  | nil => cases second <;> rfl
  | cons token following inductionHypothesis =>
      cases second with
      | nil => rfl
      | cons other others =>
          rw [rowOrder, inductionHypothesis, List.map_cons, List.map_cons,
            List.compareLex_cons_cons]

/-- Rows that precede each other in a circle are tangled. -/
theorem areTangled_of_circle
    (firstBelow : rowOrder first second = .lt)
    (secondBelow : rowOrder second third = .lt)
    (thirdBelow : rowOrder third first = .lt) :
    AreTangled first second third ∨ AreTangled second third first ∨
      AreTangled third first second := by
  induction first generalizing second third with
  | nil => cases third <;> cases thirdBelow
  | cons token following inductionHypothesis =>
      cases second with
      | nil => cases firstBelow
      | cons other others =>
          cases third with
          | nil => cases secondBelow
          | cons last lasts =>
              simp only [rowOrder, Ordering.then_eq_lt, valueOrder_eq_iff]
                at firstBelow secondBelow thirdBelow
              rcases
                eq_or_circle (firstBelow.imp_right And.left) (secondBelow.imp_right And.left)
                  (thirdBelow.imp_right And.left) with
                ⟨sameOther, sameLast⟩ | ⟨firstPair, secondPair, thirdPair⟩
              · simp only [sameOther, sameLast, valueOrder_self, reduceCtorEq, true_and, false_or]
                  at firstBelow secondBelow thirdBelow
                rcases inductionHypothesis firstBelow secondBelow thirdBelow with
                  areTangled | areTangled | areTangled
                · exact .inl (.behind sameOther sameLast areTangled)
                · exact .inr (.inl
                    (.behind (sameLast.trans sameOther.symm) sameOther.symm areTangled))
                · exact .inr (.inr
                    (.behind sameLast.symm (sameOther.trans sameLast.symm) areTangled))
              · rcases isTangle_of_circle firstPair secondPair thirdPair with
                  tangle | tangle | tangle
                · exact .inl (.here tangle)
                · exact .inr (.inl (.here tangle))
                · exact .inr (.inr (.here tangle))

/-- Tangled rows precede each other in a circle. -/
theorem AreTangled.circle
    (areTangled : AreTangled first second third) :
    rowOrder first second = .lt ∧ rowOrder second third = .lt ∧ rowOrder third first = .lt := by
  induction areTangled with
  | here tangle =>
      obtain ⟨firstPair, secondPair, thirdPair⟩ := tangle.circle
      simp only [rowOrder, firstPair, secondPair, thirdPair, Ordering.then, and_self]
  | behind sameHigh sameStray _ inductionHypothesis =>
      simpa only [rowOrder, sameHigh, sameStray, valueOrder_self, Ordering.then] using
        inductionHypothesis

end Rows

end Token

namespace Line

/-- The order in which the lines of a block are sorted. -/
def order (left right : Line) : Ordering :=
  Token.rowOrder left.arguments right.arguments

instance : Std.OrientedCmp order where
  eq_swap := Token.rowOrder_swap _ _

/-- Three of the lines are tangled. -/
def HoldTangle (lines : List Line) : Prop :=
  ∃ low ∈ lines, ∃ high ∈ lines, ∃ stray ∈ lines,
    Token.AreTangled low.arguments high.arguments stray.arguments

/-- The order of the lines is transitive. -/
def AreTransitive (lines : List Line) : Prop :=
  ∀ first ∈ lines, ∀ second ∈ lines, ∀ third ∈ lines,
    (first.order second).isLE = true → (second.order third).isLE = true →
      (first.order third).isLE = true

/-- No line is above one behind it. -/
def AreInOrder (lines : List Line) : Prop :=
  lines.Pairwise fun earlier later => (earlier.order later).isLE = true

section

variable {first second third : Line} {lines others : List Line}

/-- Lines that compare as equal compare alike with any other. -/
private theorem order_congr
    (same : first.order second = .eq)
    (other : Line) :
    first.order other = second.order other ∧ other.order first = other.order second := by
  have sameValues := Token.rowOrder_eq_iff.mp same
  simp only [order, Token.rowOrder_eq_compareLex, sameValues, and_self]

/-- The order is transitive exactly where no lines are tangled. -/
theorem areTransitive_iff : AreTransitive lines ↔ ¬HoldTangle lines := by
  constructor
  · rintro transitive ⟨low, isLow, high, isHigh, stray, isStray, areTangled⟩
    obtain ⟨lowBelow, highBelow, strayBelow⟩ := areTangled.circle
    have isBelow : stray.order low = .lt := strayBelow
    have inOrder :=
      transitive low isLow high isHigh stray isStray (Ordering.isLE_of_eq_lt lowBelow)
        (Ordering.isLE_of_eq_lt highBelow)
    exact Std.OrientedCmp.not_isLE_of_lt isBelow inOrder
  · intro free first isFirst second isSecond third isThird firstBelow secondBelow
    by_contra above
    have thirdBelow : third.order first = .lt := Std.OrientedCmp.lt_of_not_isLE above
    rcases Ordering.isLE_iff_eq_lt_or_eq_eq.mp firstBelow with firstLt | same
    · rcases Ordering.isLE_iff_eq_lt_or_eq_eq.mp secondBelow with secondLt | same
      · rcases Token.areTangled_of_circle firstLt secondLt thirdBelow with
          areTangled | areTangled | areTangled
        · exact free ⟨first, isFirst, second, isSecond, third, isThird, areTangled⟩
        · exact free ⟨second, isSecond, third, isThird, first, isFirst, areTangled⟩
        · exact free ⟨third, isThird, first, isFirst, second, isSecond, areTangled⟩
      · rw [← (order_congr same first).2] at above
        exact above firstBelow
    · rw [(order_congr same third).1] at above
      exact above secondBelow

/-- A line does not precede another one exactly if that one is not above it. -/
theorem precedes_eq_false_iff :
    second.precedes first = false ↔ (first.order second).isLE = true := by
  have swapped : second.order first = (first.order second).swap := Std.OrientedCmp.eq_swap
  change (second.order first).isLT = false ↔ _
  rw [swapped]
  cases first.order second <;> decide

theorem holdTangle_of_perm
    (permuted : lines.Perm others)
    (tangled : HoldTangle lines) :
    HoldTangle others := by
  obtain ⟨low, isLow, high, isHigh, stray, isStray, areTangled⟩ := tangled
  exact
    ⟨low, permuted.mem_iff.mp isLow, high, permuted.mem_iff.mp isHigh, stray,
      permuted.mem_iff.mp isStray, areTangled⟩

/-- Whichever of three lines in a circle comes first, the one before it in the circle is behind. -/
private theorem not_areInOrder_of_circle
    (isFirst : first ∈ lines)
    (isSecond : second ∈ lines)
    (isThird : third ∈ lines)
    (firstBelow : first.order second = .lt)
    (secondBelow : second.order third = .lt)
    (thirdBelow : third.order first = .lt) :
    ¬AreInOrder lines := by
  intro inOrder
  induction lines with
  | nil => cases isFirst
  | cons head rest inductionHypothesis =>
      obtain ⟨headInOrder, restInOrder⟩ := List.pairwise_cons.mp inOrder
      have notBelowHead :
          ∀ {line : Line}, line ∈ head :: rest → line.order head ≠ .lt := by
        intro line member isBelow
        rcases List.mem_cons.mp member with rfl | inRest
        · exact Std.OrientedCmp.not_lt_of_lt isBelow isBelow
        · exact Std.OrientedCmp.not_isLE_of_lt isBelow (headInOrder line inRest)
      rcases List.mem_cons.mp isFirst with rfl | firstInRest
      · exact notBelowHead isThird thirdBelow
      · rcases List.mem_cons.mp isSecond with rfl | secondInRest
        · exact notBelowHead isFirst firstBelow
        · rcases List.mem_cons.mp isThird with rfl | thirdInRest
          · exact notBelowHead isSecond secondBelow
          · exact inductionHypothesis firstInRest secondInRest thirdInRest restInOrder

/-- Lines that are in order are not tangled. -/
theorem not_holdTangle_of_areInOrder
    (inOrder : AreInOrder lines) :
    ¬HoldTangle lines := by
  rintro ⟨low, isLow, high, isHigh, stray, isStray, areTangled⟩
  obtain ⟨lowBelow, highBelow, strayBelow⟩ := areTangled.circle
  exact not_areInOrder_of_circle isLow isHigh isStray lowBelow highBelow strayBelow inOrder

/-- Sorting puts lines in order that are not tangled. -/
theorem areInOrder_stableSort
    (free : ¬HoldTangle lines) :
    AreInOrder (stableSort precedes lines) := by
  have permuted := stableSort_perm precedes lines
  have transitive := areTransitive_iff.mpr fun tangled => free (holdTangle_of_perm permuted tangled)
  refine pairwise_of_isChain transitive ?_
  exact (isSorted_stableSort isAsymmetric_precedes lines).imp fun _ _ => precedes_eq_false_iff.mp

/-- There is one way to put lines in order of which no two compare as equal. -/
theorem eq_of_areInOrder
    (apart : lines.Pairwise fun earlier later => earlier.order later ≠ .eq)
    (permuted : others.Perm lines)
    (inOrder : AreInOrder lines)
    (othersInOrder : AreInOrder others) :
    others = lines := by
  refine List.Perm.eq_of_pairwise ?_ othersInOrder inOrder permuted
  intro left right inOthers inLines leftBelow rightBelow
  by_contra differ
  have : Std.Symm fun left right : Line => left.order right ≠ .eq :=
    ⟨fun _ _ notSame same => notSame (Std.OrientedCmp.eq_symm same)⟩
  have notSame := apart.forall (permuted.mem_iff.mp inOthers) inLines differ
  exact notSame (Std.OrientedCmp.isLE_antisymm leftBelow rightBelow)

end

end Line

namespace Block

/--
The order of lines is reflexive, the same from both sides, and total.  It is transitive on the lines
of a block, and sorting puts the block in order, exactly if none of its lines are tangled.  Then the
order in which the lines came makes no difference where no two of them compare as equal.
-/
theorem order_of_lines
    {block : Block}
    (verbSorted : block.verb.isSorted = true) :
    (∀ line : Line, line.order line = .eq) ∧
      (∀ left right : Line, left.order right = (right.order left).swap) ∧
      (∀ left right : Line,
        (left.order right).isLE = true ∨ (right.order left).isLE = true) ∧
      (Line.AreTransitive block.lines ↔ ¬Line.HoldTangle block.lines) ∧
      (Line.AreInOrder block.sorted.lines ↔ ¬Line.HoldTangle block.lines) ∧
      (¬Line.HoldTangle block.lines →
        (block.lines.Pairwise fun earlier later => earlier.order later ≠ .eq) →
          ∀ lines : List Line,
            lines.Perm block.lines →
              { block with lines }.sorted.lines = block.sorted.lines) := by
  have sortedLines : ∀ lines : List Line,
      { block with lines }.sorted.lines = stableSort Line.precedes lines := by
    intro lines
    rw [sorted, if_pos verbSorted]
  have permuted := stableSort_perm Line.precedes block.lines
  refine
    ⟨fun _ => Std.ReflCmp.compare_self, fun _ _ => Std.OrientedCmp.eq_swap, fun left right => ?_,
      Line.areTransitive_iff, ⟨fun inOrder => ?_, fun free => ?_⟩, fun free apart lines same => ?_⟩
  · by_contra neither
    rw [not_or] at neither
    have isBelow : right.order left = .lt := Std.OrientedCmp.lt_of_not_isLE neither.1
    exact neither.2 (Ordering.isLE_of_eq_lt isBelow)
  · rw [sortedLines block.lines] at inOrder
    exact fun tangled =>
      Line.not_holdTangle_of_areInOrder inOrder (Line.holdTangle_of_perm permuted.symm tangled)
  · rw [sortedLines block.lines]
    exact Line.areInOrder_stableSort free
  · rw [sortedLines lines, sortedLines block.lines]
    have permutedThere := (stableSort_perm Line.precedes lines).trans same
    have freeThere : ¬Line.HoldTangle lines :=
      fun tangled => free (Line.holdTangle_of_perm same tangled)
    refine
      Line.eq_of_areInOrder ?_ (permutedThere.trans permuted.symm) (Line.areInOrder_stableSort free)
        (Line.areInOrder_stableSort freeThere)
    exact (permuted.pairwise_iff fun {_ _} notSame same =>
      notSame (Std.OrientedCmp.eq_symm same)).mpr apart

/-- Two versions of a module in the order of their texts, and a third text between them. -/
private def tangledBlock : Block where
  verb := .replace
  lines :=
    [{ arguments := ["m.io/a", "v1.10.0", "=>", "../x"].map String.toList, number := 4 },
      { arguments := ["m.io/a", "v1.2", "=>", "../x"].map String.toList, number := 5 },
      { arguments := ["m.io/a", "v1.9.0", "=>", "../x"].map String.toList, number := 6 }]
  number := 3

/-- A manifest may hold such a block, and sorting leaves it out of order. -/
theorem order_of_lines_tangled :
    (Manifest.ofText
        ("module m\n\nreplace (\n\tm.io/a v1.10.0 => ../x\n\tm.io/a v1.2 => ../x\n" ++
          "\tm.io/a v1.9.0 => ../x\n)\n").toList).toOption.any
        (fun manifest =>
          manifest.statements.any fun statement => statement.content = .block tangledBlock) =
        true ∧
      tangledBlock.verb.isSorted = true ∧
      ¬Line.AreTransitive tangledBlock.lines ∧
      ¬Line.AreInOrder tangledBlock.sorted.lines := by
  have tangle : Token.IsTangle "v1.9.0".toList "v1.10.0".toList "v1.2".toList := by
    constructor <;> decide +kernel
  have tangled : Line.HoldTangle tangledBlock.lines :=
    ⟨_, .tail _ (.tail _ (.head _)), _, .head _, _, .tail _ (.head _),
      .behind rfl rfl (.here tangle)⟩
  obtain ⟨_, _, _, transitive, inOrder, _⟩ := @order_of_lines tangledBlock rfl
  refine
    ⟨?_, rfl, fun isTransitive => transitive.mp isTransitive tangled,
      fun areInOrder => inOrder.mp areInOrder tangled⟩
  decide +kernel

end Block

/-- A requirement or an exclusion without a fault is a path and a valid version. -/
private theorem Directive.exists_version_of_fault?_eq_none
    {directive : Directive}
    (faultless : directive.fault? = none)
    (isStated : directive.verb = .require ∨ directive.verb = .exclude) :
    ∃ path version,
      directive.line.arguments = [path, version] ∧ Version.isValid version.value = true := by
  rcases isStated with isRequire | isExclude
  all_goals
    simp only [fault?, *] at faultless
    split at faultless
    · next path version same =>
        split at faultless
        · next valid => exact ⟨path, version, same, valid⟩
        · cases faultless
    · cases faultless

/-- Requirements and exclusions of a manifest are tangled only where a module path is a version. -/
theorem Manifest.exists_versionPath_of_holdTangle
    {manifest : Manifest}
    (sound : manifest.IsSound)
    {statement : Statement}
    (member : statement ∈ manifest.statements)
    {block : Block}
    (isBlock : statement.content = .block block)
    (isStated : block.verb = .require ∨ block.verb = .exclude)
    (tangled : Line.HoldTangle block.lines) :
    ∃ line ∈ block.lines, ∃ path version,
      line.arguments = [path, version] ∧ Version.isValid path.value = true := by
  have stated : ∀ line ∈ block.lines, ∃ path version,
      line.arguments = [path, version] ∧ Version.isValid version.value = true := by
    intro line isLine
    have inManifest : { verb := block.verb, line } ∈ manifest.directives := by
      refine List.mem_flatMap.mpr ⟨statement, member, ?_⟩
      rw [isBlock]
      exact List.mem_map.mpr ⟨line, isLine, rfl⟩
    exact Directive.exists_version_of_fault?_eq_none (sound.faultless _ inManifest) isStated
  obtain ⟨low, isLow, high, isHigh, stray, isStray, areTangled⟩ := tangled
  obtain ⟨lowPath, lowVersion, lowArguments, _⟩ := stated low isLow
  obtain ⟨highPath, highVersion, highArguments, _⟩ := stated high isHigh
  obtain ⟨strayPath, strayVersion, strayArguments, strayValid⟩ := stated stray isStray
  rw [lowArguments, highArguments, strayArguments] at areTangled
  cases areTangled with
  | here tangle => exact ⟨low, isLow, lowPath, lowVersion, lowArguments, tangle.lowValid⟩
  | behind _ _ others =>
      cases others with
      | here tangle =>
          rw [tangle.strayInvalid] at strayValid
          cases strayValid
      | behind _ _ rests => cases rests

end ModuleUpdate
