import Mathlib.Data.List.Basic
import Mathlib.Data.List.Count
import ModuleUpdate.LongSort
import ModuleUpdate.Proofs.Sorting

namespace ModuleUpdate.LongSort

/-!
# Which lists are sorted

Sorting goes through where the order of the elements is a total one.  Then each element has a rank,
and the two ends of a merge meet: both of them part the halves at the one place where all that is
taken from one half ranks below all that is left of the other.  Sorting also goes through a list in
which no element precedes the one in front of it, whatever the order.
-/

/-- One element precedes another exactly if its rank is lower. -/
def AreRanked (precedes : α → α → Bool) (rank : α → Nat) (elements : List α) : Prop :=
  ∀ first ∈ elements, ∀ second ∈ elements,
    precedes first second = decide (rank first < rank second)

/-- No element ranks below an earlier one. -/
def Ascends (rank : α → Nat) (elements : List α) : Prop :=
  elements.Pairwise fun earlier later => rank earlier ≤ rank later

/-- No element ranks above an earlier one. -/
def Descends (rank : α → Nat) (elements : List α) : Prop :=
  elements.Pairwise fun earlier later => rank later ≤ rank earlier

variable {precedes : α → α → Bool} {rank : α → Nat} {elements : List α}

/-- Some of the elements are ranked as all of them are. -/
theorem AreRanked.of_subset
    {others : List α}
    (ranked : AreRanked precedes rank elements)
    (within : ∀ element ∈ others, element ∈ elements) :
    AreRanked precedes rank others :=
  fun first isFirst second isSecond =>
    ranked first (within first isFirst) second (within second isSecond)

/-- Where an order is total on a list, the rank of an element is how many precede it. -/
theorem exists_areRanked
    (asymmetric : IsAsymmetric precedes)
    (transitive : ∀ first ∈ elements, ∀ second ∈ elements, ∀ third ∈ elements,
      precedes second first = false → precedes third second = false →
        precedes third first = false) :
    ∃ rank, AreRanked precedes rank elements := by
  have below : ∀ first ∈ elements, ∀ second ∈ elements,
      precedes second first = false →
        ∀ other ∈ elements, precedes other first = true → precedes other second = true := by
    intro first isFirst second isSecond atMost other isOther isBelow
    by_contra notBelow
    rw [Bool.not_eq_true] at notBelow
    rw [transitive first isFirst second isSecond other isOther atMost notBelow] at isBelow
    cases isBelow
  refine ⟨fun element => elements.countP (precedes · element), ?_⟩
  intro first isFirst second isSecond
  cases isBelow : precedes first second with
  | false =>
      have atMost := List.countP_mono_left (below second isSecond first isFirst isBelow)
      simpa using atMost
  | true =>
      have within := below first isFirst second isSecond (asymmetric first second isBelow)
      -- Those that precede the first are some of those that precede the second, which it is too.
      have same :
          elements.countP (precedes · first) =
            (elements.filter (precedes · second)).countP (precedes · first) := by
        rw [List.countP_filter]
        refine List.countP_congr fun other isOther => ?_
        simpa using within other isOther
      have fewer :
          (elements.filter (precedes · second)).countP (precedes · first) <
            (elements.filter (precedes · second)).length := by
        rw [List.countP_lt_length_iff]
        refine ⟨first, List.mem_filter.mpr ⟨isFirst, isBelow⟩, ?_⟩
        by_contra itself
        rw [Bool.not_eq_false] at itself
        rw [asymmetric first first itself] at itself
        cases itself
      rw [← same, ← List.countP_eq_length_filter] at fewer
      exact (decide_eq_true fewer).symm

/-- Four elements are put in order without losing one. -/
theorem sortFour_perm
    (precedes : α → α → Bool)
    (first second third fourth : α) :
    (sortFour precedes first second third fourth).Perm [first, second, third, fourth] := by
  classical
  rw [List.perm_iff_count]
  intro element
  simp only [sortFour]
  split_ifs <;> simp only [List.count_cons, List.count_nil] <;> omega

/-- Four elements are put in order where they are ranked. -/
theorem ascends_sortFour
    {first second third fourth : α}
    (ranked : AreRanked precedes rank [first, second, third, fourth]) :
    Ascends rank (sortFour precedes first second third fourth) := by
  have decides : ∀ left ∈ [first, second, third, fourth],
      ∀ right ∈ [first, second, third, fourth],
        precedes left right = true ↔ rank left < rank right := by
    intro left isLeft right isRight
    rw [ranked left isLeft right isRight, decide_eq_true_iff]
  simp only [List.forall_mem_cons, List.not_mem_nil, false_implies, implies_true, and_true]
    at decides
  simp only [sortFour, Ascends]
  -- In each outcome of the comparisons, the ranks settle how the other pairs compare.
  split_ifs
  all_goals
    simp only [decides, List.pairwise_cons, List.mem_cons, List.not_mem_nil, or_false,
      forall_eq_or_imp, forall_eq, List.Pairwise.nil, false_implies, implies_true, and_true] at *
    omega

/-- An element is inserted behind those that rank higher. -/
theorem descends_insertBackward
    {element : α}
    {sorted : List α}
    (ranked : AreRanked precedes rank (element :: sorted))
    (descends : Descends rank sorted) :
    Descends rank (insertBackward precedes element sorted) := by
  induction sorted with
  | nil => exact List.pairwise_singleton _ _
  | cons last earlier inductionHypothesis =>
      obtain ⟨lastIsHighest, others⟩ := List.pairwise_cons.mp descends
      have decides := ranked element (by simp) last (by simp)
      unfold insertBackward
      by_cases isBelow : rank element < rank last
      · rw [decides, decide_eq_true isBelow, if_pos rfl]
        refine List.pairwise_cons.mpr ⟨fun other member => ?_, ?_⟩
        · rcases List.mem_cons.mp ((insertBackward_perm precedes element earlier).mem_iff.mp member)
            with rfl | isEarlier
          · exact isBelow.le
          · exact lastIsHighest other isEarlier
        · refine inductionHypothesis (ranked.of_subset fun other member => ?_) others
          rcases List.mem_cons.mp member with rfl | isEarlier
          · simp
          · simp [isEarlier]
      · rw [decides, decide_eq_false isBelow, if_neg Bool.false_ne_true]
        refine List.pairwise_cons.mpr ⟨fun other member => ?_, descends⟩
        rcases List.mem_cons.mp member with rfl | isEarlier
        · exact Nat.not_lt.mp isBelow
        · exact (lastIsHighest other isEarlier).trans (Nat.not_lt.mp isBelow)

/-- Inserting elements one by one keeps what is sorted in order. -/
theorem descends_foldl_insertBackward
    {sorted : List α}
    (ranked : AreRanked precedes rank (elements ++ sorted))
    (descends : Descends rank sorted) :
    Descends rank
        (elements.foldl (fun sorted element => insertBackward precedes element sorted) sorted) ∧
      (elements.foldl (fun sorted element => insertBackward precedes element sorted)
          sorted).Perm
        (elements ++ sorted) := by
  induction elements generalizing sorted with
  | nil => exact ⟨descends, .refl sorted⟩
  | cons element following inductionHypothesis =>
      have inserted := insertBackward_perm precedes element sorted
      have moved : (following ++ insertBackward precedes element sorted).Perm
          (element :: following ++ sorted) :=
        (inserted.append_left following).trans List.perm_middle
      obtain ⟨others, permuted⟩ :=
        inductionHypothesis (ranked.of_subset fun other member => moved.mem_iff.mp member)
          (descends_insertBackward
            (ranked.of_subset fun other member => by
              rcases List.mem_cons.mp member with rfl | isSorted
              · simp
              · simp [isSorted])
            descends)
      exact ⟨others, permuted.trans moved⟩

/-- A half of a piece is sorted from last to first where it is ranked. -/
theorem sortHalf_spec
    (ranked : AreRanked precedes rank elements)
    (isLong : Bool) :
    Descends rank (sortHalf precedes isLong elements) ∧
      (sortHalf precedes isLong elements).Perm elements := by
  unfold sortHalf
  dsimp only
  split
  · next first second third fourth following =>
      have permuted := sortFour_perm precedes first second third fourth
      have ascends : Ascends rank (sortFour precedes first second third fourth) :=
        ascends_sortFour (ranked.of_subset fun element member => by
          simp only [List.mem_cons, List.not_mem_nil, or_false] at member ⊢
          tauto)
      have whole : (following ++ (sortFour precedes first second third fourth).reverse).Perm
          (first :: second :: third :: fourth :: following) :=
        (((List.reverse_perm _).trans permuted).append_left following).trans
          List.perm_append_comm
      obtain ⟨descends, collected⟩ :=
        descends_foldl_insertBackward
          (ranked.of_subset fun element member => whole.mem_iff.mp member)
          (List.pairwise_reverse.mpr ascends)
      exact ⟨descends, collected.trans whole⟩
  · have fromNothing : AreRanked precedes rank (elements ++ []) := by simpa using ranked
    simpa using descends_foldl_insertBackward fromNothing List.Pairwise.nil

/--
Elements are taken from two lists by their first ones.  All that is taken from the left list would
be taken in front of all that is left of the right one, and the other way round.
-/
theorem takenLeft_spec
    {takesLeft : α → α → Bool}
    {order : α → α → Prop}
    {steps : Nat}
    {lefts rights : List α}
    (enoughLefts : steps ≤ lefts.length)
    (enoughRights : steps ≤ rights.length)
    (leftsOrdered : lefts.Pairwise order)
    (rightsOrdered : rights.Pairwise order)
    (goesOn : ∀ left ∈ lefts, ∀ right ∈ rights, ∀ later ∈ rights,
      order right later → takesLeft left right = true → takesLeft left later = true)
    (staysOut : ∀ left ∈ lefts, ∀ later ∈ lefts, ∀ right ∈ rights,
      order left later → takesLeft left right = false → takesLeft later right = false) :
    takenLeft takesLeft steps lefts rights ≤ steps ∧
      (∀ left ∈ lefts.take (takenLeft takesLeft steps lefts rights),
        ∀ right ∈ rights.drop (steps - takenLeft takesLeft steps lefts rights),
          takesLeft left right = true) ∧
      ∀ left ∈ lefts.drop (takenLeft takesLeft steps lefts rights),
        ∀ right ∈ rights.take (steps - takenLeft takesLeft steps lefts rights),
          takesLeft left right = false := by
  induction steps generalizing lefts rights with
  | zero => simp [takenLeft]
  | succ steps inductionHypothesis =>
      cases lefts with
      | nil => cases enoughLefts
      | cons left followingLefts =>
      cases rights with
      | nil => cases enoughRights
      | cons right followingRights =>
      obtain ⟨leftOrdered, othersLeft⟩ := List.pairwise_cons.mp leftsOrdered
      obtain ⟨rightOrdered, othersRight⟩ := List.pairwise_cons.mp rightsOrdered
      cases takes : takesLeft left right with
      | true =>
          obtain ⟨atMost, front, behind⟩ :=
            inductionHypothesis (Nat.le_of_succ_le_succ enoughLefts)
              (Nat.le_of_succ_le enoughRights) othersLeft rightsOrdered
              (fun other member => goesOn other (List.mem_cons_of_mem left member))
              (fun other member later isLater =>
                staysOut other (List.mem_cons_of_mem left member) later
                  (List.mem_cons_of_mem left isLater))
          simp only [takenLeft, takes, if_true, List.take_succ_cons, List.drop_succ_cons,
            Nat.add_sub_add_right]
          refine ⟨by omega, fun other member => ?_, behind⟩
          rcases List.mem_cons.mp member with rfl | isLater
          · intro later isRight
            rcases List.mem_cons.mp (List.mem_of_mem_drop isRight) with rfl | isBehind
            · exact takes
            · exact goesOn other List.mem_cons_self right List.mem_cons_self later
                (List.mem_cons_of_mem right isBehind) (rightOrdered later isBehind) takes
          · exact front other isLater
      | false =>
          obtain ⟨atMost, front, behind⟩ :=
            inductionHypothesis (Nat.le_of_succ_le enoughLefts)
              (Nat.le_of_succ_le_succ enoughRights) leftsOrdered othersRight
              (fun other member right isRight later isLater =>
                goesOn other member right (List.mem_cons_of_mem _ isRight) later
                  (List.mem_cons_of_mem _ isLater))
              (fun other member later isLater right isRight =>
                staysOut other member later isLater right (List.mem_cons_of_mem _ isRight))
          simp only [takenLeft, takes, Bool.false_eq_true, if_false]
          rw [Nat.succ_sub atMost, List.drop_succ_cons, List.take_succ_cons]
          refine ⟨by omega, front, fun other member later isRight => ?_⟩
          rcases List.mem_cons.mp isRight with rfl | isBehind
          · rcases List.mem_cons.mp (List.mem_of_mem_drop member) with rfl | isLater
            · exact takes
            · exact staysOut left List.mem_cons_self other (List.mem_cons_of_mem left isLater)
                later List.mem_cons_self (leftOrdered other isLater) takes
          · exact behind other member later isBehind

private theorem exists_mem_drop_take
    (elements : List α)
    {start stop : Nat}
    (isBefore : start < stop)
    (isWithin : start < elements.length) :
    ∃ element ∈ elements.drop start, element ∈ elements.take stop :=
  ⟨elements[start], List.mem_drop_iff_getElem.mpr ⟨0, by simpa using isWithin, by simp⟩,
    List.mem_take_iff_getElem.mpr ⟨start, by omega, rfl⟩⟩

/--
Merged from both ends, two halves are taken up to the same place.  Otherwise some element would be
taken from both ends or from neither, in front of another one and behind it.
-/
theorem takenLeft_meets
    {lefts rights : List α}
    (leftsDescend : Descends rank lefts)
    (rightsDescend : Descends rank rights)
    (compares : ∀ left ∈ lefts, ∀ right ∈ rights,
      precedes right left = decide (rank right < rank left))
    (enough : lefts.length ≤ rights.length) :
    let forward :=
      takenLeft (fun left right => !precedes right left) lefts.length lefts.reverse
        rights.reverse
    let backward :=
      takenLeft (fun left right => precedes right left) lefts.length lefts rights
    forward + backward ≤ lefts.length ∧
      lefts.length ≤ forward + backward + (rights.length - lefts.length) := by
  intro forward backward
  obtain ⟨forwardLe, inFront, behind⟩ :
      forward ≤ lefts.length ∧
        (∀ left ∈ lefts.reverse.take forward,
          ∀ right ∈ rights.reverse.drop (lefts.length - forward),
            (!precedes right left) = true) ∧
        ∀ left ∈ lefts.reverse.drop forward,
          ∀ right ∈ rights.reverse.take (lefts.length - forward),
            (!precedes right left) = false := by
    refine takenLeft_spec (by simp) (by simpa using enough)
      (List.pairwise_reverse.mpr leftsDescend) (List.pairwise_reverse.mpr rightsDescend) ?_ ?_
    · intro left isLeft right isRight later isLater ascends
      rw [List.mem_reverse] at isLeft isRight isLater
      rw [compares left isLeft right isRight, compares left isLeft later isLater]
      simp only [Bool.not_eq_true', decide_eq_false_iff_not]
      omega
    · intro left isLeft later isLater right isRight ascends
      rw [List.mem_reverse] at isLeft isRight isLater
      rw [compares left isLeft right isRight, compares later isLater right isRight]
      simp only [Bool.not_eq_false', decide_eq_true_eq]
      omega
  obtain ⟨backwardLe, above, below⟩ :
      backward ≤ lefts.length ∧
        (∀ left ∈ lefts.take backward, ∀ right ∈ rights.drop (lefts.length - backward),
          precedes right left = true) ∧
        ∀ left ∈ lefts.drop backward, ∀ right ∈ rights.take (lefts.length - backward),
          precedes right left = false := by
    refine takenLeft_spec le_rfl enough leftsDescend rightsDescend ?_ ?_
    · intro left isLeft right isRight later isLater descends
      rw [compares left isLeft right isRight, compares left isLeft later isLater]
      simp only [decide_eq_true_eq]
      omega
    · intro left isLeft later isLater right isRight descends
      rw [compares left isLeft right isRight, compares later isLater right isRight]
      simp only [decide_eq_false_iff_not]
      omega
  simp only [List.take_reverse, List.drop_reverse, List.mem_reverse, Bool.not_eq_true',
    Bool.not_eq_false'] at inFront behind
  constructor
  · by_contra tooMany
    obtain ⟨left, leftBehind, leftInFront⟩ :=
      exists_mem_drop_take lefts (show lefts.length - forward < backward by omega) (by omega)
    obtain ⟨right, rightBehind, rightInFront⟩ :=
      exists_mem_drop_take rights
        (show lefts.length - backward < rights.length - (lefts.length - forward) by omega)
        (by omega)
    have isAbove := above left leftInFront right rightBehind
    rw [inFront left leftBehind right rightInFront] at isAbove
    cases isAbove
  · by_contra tooFew
    obtain ⟨left, leftBehind, leftInFront⟩ :=
      exists_mem_drop_take lefts (show backward < lefts.length - forward by omega) (by omega)
    obtain ⟨right, rightBehind, rightInFront⟩ :=
      exists_mem_drop_take rights
        (show rights.length - (lefts.length - forward) < lefts.length - backward by omega)
        (by omega)
    have isBelow := below left leftBehind right rightInFront
    rw [behind left leftInFront right rightBehind] at isBelow
    cases isBelow

/-- The halves of a piece are merged where its elements are ranked. -/
theorem mergesPiece_of_areRanked
    (ranked : AreRanked precedes rank elements) :
    mergesPiece precedes elements = true := by
  have within : ∀ half : List α, half.Sublist elements → AreRanked precedes rank half :=
    fun half isHalf => ranked.of_subset fun _ member => isHalf.subset member
  obtain ⟨leftsDescend, leftsPermuted⟩ :=
    sortHalf_spec (within _ (List.take_sublist (elements.length / 2) elements))
      (8 ≤ elements.length)
  obtain ⟨rightsDescend, rightsPermuted⟩ :=
    sortHalf_spec (within _ (List.drop_sublist (elements.length / 2) elements))
      (8 ≤ elements.length)
  have leftsLength := leftsPermuted.length_eq
  have rightsLength := rightsPermuted.length_eq
  rw [List.length_take_of_le (Nat.div_le_self elements.length 2)] at leftsLength
  rw [List.length_drop] at rightsLength
  have meets :=
    takenLeft_meets leftsDescend rightsDescend
      (fun left isLeft right isRight =>
        ranked right (List.mem_of_mem_drop (rightsPermuted.mem_iff.mp isRight)) left
          (List.mem_of_mem_take (leftsPermuted.mem_iff.mp isLeft)))
      (by omega)
  rw [leftsLength, rightsLength] at meets
  simp only [mergesPiece, decide_eq_true_eq]
  omega

/-- Cutting a list into runs adds no element. -/
theorem mem_of_mem_runs
    {least size greatest : Nat}
    {run : Run α}
    (isRun : run ∈ runs precedes least size greatest elements)
    {element : α}
    (member : element ∈ run.elements) :
    element ∈ elements := by
  induction greatest generalizing elements with
  | zero => simp [runs] at isRun
  | succ greatest inductionHypothesis =>
      cases elements with
      | nil => simp [runs] at isRun
      | cons first following =>
          simp only [runs] at isRun
          split at isRun
          all_goals
            rcases List.mem_cons.mp isRun with rfl | isLater
            · exact List.mem_of_mem_take member
            · exact List.mem_of_mem_drop (inductionHypothesis isLater)

/-- Pieces of a list are sorted where its elements are ranked. -/
theorem sortsPieces_of_areRanked
    (ranked : AreRanked precedes rank elements) :
    sortsPieces precedes elements = true := by
  refine List.all_eq_true.mpr fun run isRun => ?_
  rw [mergesPiece_of_areRanked (ranked.of_subset fun _ member => mem_of_mem_runs isRun member),
    Bool.or_true]

/-- Parting a list leaves lists of its own elements, down to those that are sorted as pieces. -/
theorem sortsParts_of_areRanked
    (limit : Nat)
    (ancestor : Option α)
    (ranked : AreRanked precedes rank elements) :
    sortsParts precedes limit ancestor elements = true := by
  induction limit generalizing ancestor elements with
  | zero =>
      unfold sortsParts
      split
      · exact mergesPiece_of_areRanked ranked
      · exact sortsPieces_of_areRanked ranked
  | succ limit inductionHypothesis =>
      unfold sortsParts
      split
      · exact mergesPiece_of_areRanked ranked
      · split
        · rfl
        · next before pivot behind parted =>
            rw [List.splitAt_eq, Prod.mk.injEq] at parted
            have joined : before ++ pivot :: behind = elements := by
              rw [← parted.1, ← parted.2, List.take_append_drop]
            subst joined
            dsimp only
            split
            · refine inductionHypothesis none (ranked.of_subset fun element member => ?_)
              have isOther := (List.mem_filter.mp member).1
              simp only [List.mem_append, List.mem_cons] at isOther ⊢
              tauto
            · refine Bool.and_eq_true_iff.mpr
                ⟨inductionHypothesis (some pivot) (ranked.of_subset fun element member => ?_),
                  inductionHypothesis ancestor (ranked.of_subset fun element member => ?_)⟩
              · simp only [List.mem_append, List.mem_cons, List.mem_filter] at member ⊢
                tauto
              · have isOther := (List.mem_filter.mp member).1
                simp only [List.mem_append, List.mem_cons] at isOther ⊢
                tauto

/-- A run is sorted where its elements are ranked. -/
theorem Run.sorts_of_areRanked
    {run : Run α}
    (ranked : AreRanked precedes rank run.elements) :
    run.sorts precedes = true := by
  rw [Run.sorts, sortsParts_of_areRanked _ _ ranked, Bool.or_true]

/-- Two runs are joined where the elements of either are ranked. -/
theorem Run.exists_join
    {left right : Run α}
    (room : Nat)
    (leftRanked : AreRanked precedes rank left.elements)
    (rightRanked : AreRanked precedes rank right.elements) :
    ∃ joined,
      left.join? precedes room right = some joined ∧
        joined.elements = left.elements ++ right.elements := by
  simp only [Run.join?, Run.sorts_of_areRanked leftRanked, Run.sorts_of_areRanked rightRanked,
    Bool.and_self, if_true]
  split <;> exact ⟨_, rfl, rfl⟩

/-- All elements of a run are among those of a list. -/
def Run.LiesIn (run : Run α) (elements : List α) : Prop :=
  ∀ element ∈ run.elements, element ∈ elements

/-- Runs are joined to those in front of them where all elements are ranked. -/
theorem exists_joinBack
    {earlier : List (Run α × Nat)}
    {run : Run α}
    (room desired : Nat)
    (ranked : AreRanked precedes rank elements)
    (earlierLies : ∀ entry ∈ earlier, entry.1.LiesIn elements)
    (runLies : run.LiesIn elements) :
    ∃ reached joined,
      joinBack? precedes room desired earlier run = some (reached, joined) ∧
        (∀ entry ∈ reached, entry.1.LiesIn elements) ∧ joined.LiesIn elements := by
  induction earlier generalizing run with
  | nil => exact ⟨[], run, rfl, earlierLies, runLies⟩
  | cons entry earlier inductionHypothesis =>
      obtain ⟨left, depth⟩ := entry
      obtain ⟨leftLies, othersLie⟩ := List.forall_mem_cons.mp earlierLies
      unfold joinBack?
      split
      · obtain ⟨joined, isJoined, sameElements⟩ :=
          Run.exists_join room (ranked.of_subset leftLies) (ranked.of_subset runLies)
        rw [isJoined, Option.bind_some]
        refine inductionHypothesis othersLie fun element member => ?_
        rw [sameElements, List.mem_append] at member
        exact member.elim (leftLies element) (runLies element)
      · exact ⟨_, run, rfl, earlierLies, runLies⟩

/-- Runs are joined to one where all elements are ranked. -/
theorem exists_joinRuns
    {following : List (Run α)}
    {earlier : List (Run α × Nat)}
    {run : Run α}
    (room scale place : Nat)
    (ranked : AreRanked precedes rank elements)
    (followingLies : ∀ next ∈ following, next.LiesIn elements)
    (earlierLies : ∀ entry ∈ earlier, entry.1.LiesIn elements)
    (runLies : run.LiesIn elements) :
    ∃ joined,
      joinRuns? precedes room scale following place earlier run = some joined ∧
        joined.LiesIn elements := by
  induction following generalizing place earlier run with
  | nil =>
      obtain ⟨_, joined, isJoined, _, lies⟩ :=
        exists_joinBack room 0 ranked earlierLies runLies
      exact ⟨joined, by rw [joinRuns?, isJoined, Option.map_some], lies⟩
  | cons next following inductionHypothesis =>
      obtain ⟨nextLies, othersLie⟩ := List.forall_mem_cons.mp followingLies
      obtain ⟨reached, joined, isJoined, reachedLies, joinedLies⟩ :=
        exists_joinBack room
          (depth scale (place - run.elements.length) place (place + next.elements.length))
          ranked earlierLies runLies
      simp only [joinRuns?, isJoined]
      exact inductionHypothesis _ othersLie
        (List.forall_mem_cons.mpr ⟨joinedLies, reachedLies⟩) nextLies

/-- A list is sorted where the order of its elements is total. -/
theorem goesThrough_of_areRanked
    (ranked : AreRanked precedes rank elements) :
    goesThrough precedes elements = true := by
  unfold goesThrough
  split
  · rfl
  split
  · exact sortsPieces_of_areRanked ranked
  unfold sortsRuns
  dsimp only
  split
  · rfl
  · next first following cut =>
      have lies : ∀ run ∈ first :: following, run.LiesIn elements :=
        fun run isRun element member => mem_of_mem_runs (cut ▸ isRun) member
      obtain ⟨firstLies, othersLie⟩ := List.forall_mem_cons.mp lies
      obtain ⟨joined, isJoined, joinedLies⟩ :=
        exists_joinRuns _ _ _ ranked othersLie (List.forall_mem_nil _) firstLies
      rw [isJoined, Option.any_some, Run.sorts_of_areRanked (ranked.of_subset joinedLies)]

/-- An opening that goes on to the end is the whole list. -/
theorem openingLength_of_isChain
    {goesOn : α → α → Bool}
    (inOrder : elements.IsChain fun earlier later => goesOn earlier later = true) :
    openingLength goesOn elements = elements.length := by
  induction elements with
  | nil => rfl
  | cons first following inductionHypothesis =>
      cases following with
      | nil => rfl
      | cons second others =>
          obtain ⟨step, othersInOrder⟩ := List.isChain_cons_cons.mp inOrder
          rw [openingLength, if_pos step, inductionHypothesis othersInOrder]
          rfl

/-- A list in which no element precedes the one in front of it opens with all of it. -/
theorem runLength_of_isSorted
    (isSorted : IsSorted precedes elements) :
    runLength precedes elements = elements.length := by
  match elements, isSorted with
  | [], _ => rfl
  | [_], _ => rfl
  | first :: second :: following, isSorted =>
      have inFront := (List.isChain_cons_cons.mp isSorted).1
      rw [runLength, inFront]
      exact openingLength_of_isChain
        (isSorted.imp fun earlier later inOrder => by simp [inOrder])

/-- A list has at least as many elements as it takes to make a run. -/
theorem leastRun_le (count : Nat) : leastRun count ≤ count := by
  unfold leastRun
  split
  · omega
  · next isLong =>
      have fits : (count ||| 1) < 2 ^ (count.log2 + 1) :=
        Nat.or_lt_two_pow Nat.lt_log2_self (Nat.one_lt_two_pow (by omega))
      have atMost : (count ||| 1).log2 < count.log2 + 1 :=
        (Nat.log2_lt (Nat.pos_iff_ne_zero.mp Nat.right_le_or)).mpr fits
      have power : 2 ^ ((1 + (count ||| 1).log2) / 2) ≤ count :=
        (Nat.pow_le_pow_right (by omega) (by omega)).trans (Nat.log2_self_le (by omega))
      have quotient : count / 2 ^ ((1 + (count ||| 1).log2) / 2) ≤ count :=
        Nat.div_le_self count _
      simp only [Nat.pow_eq]
      omega

/-- A list in order is one run. -/
theorem runs_of_isSorted
    (size : Nat)
    (isFilled : elements ≠ [])
    (isSorted : IsSorted precedes elements) :
    runs precedes (leastRun elements.length) size elements.length elements =
      [{ elements, isSorted := true }] := by
  obtain ⟨first, following, rfl⟩ := List.exists_cons_of_ne_nil isFilled
  rw [List.length_cons, runs, runLength_of_isSorted isSorted, ← List.length_cons (a := first)]
  rw [if_pos (leastRun_le _), List.take_length, List.drop_length]
  cases following.length <;> rfl

/-- A list in which no element precedes the one in front of it is sorted, whatever the order. -/
theorem goesThrough_of_isSorted
    (isSorted : IsSorted precedes elements) :
    goesThrough precedes elements = true := by
  by_cases isFilled : elements = []
  · subst isFilled
    rfl
  have asRun := fun size => runs_of_isSorted size isFilled isSorted
  unfold goesThrough
  split
  · rfl
  split
  · simp [sortsPieces, asRun]
  · simp [sortsRuns, asRun, joinRuns?, joinBack?, Run.sorts]

end ModuleUpdate.LongSort
