import ModuleUpdate.Sorting

namespace ModuleUpdate.LongSort

/-!
# Sorting long lists

A list that is too long to be sorted by insertion alone is cut into runs, which are sorted and then
merged.  A short piece is sorted in two halves that are merged from both ends at once.  Under an
order that is not total the two ends may fail to meet, and then sorting breaks off.  This module
follows the sort as far as needed to tell whether it goes through.
-/

/-- The greatest number of elements that are sorted by insertion alone. -/
def greatestInsertion : Nat :=
  20

/-- The greatest number of elements that are sorted as one piece. -/
def greatestPiece : Nat :=
  32

/-- The greatest number of elements that there is always room to move. -/
def greatestRoom : Nat :=
  100000

/-- Four elements in order. -/
def sortFour (precedes : α → α → Bool) (first second third fourth : α) : List α :=
  let (lower, upper) := if precedes second first then (second, first) else (first, second)
  let (lowerBehind, upperBehind) :=
    if precedes fourth third then (fourth, third) else (third, fourth)
  let startsBehind := precedes lowerBehind lower
  let endsBefore := precedes upperBehind upper
  let lowest := if startsBehind then lowerBehind else lower
  let highest := if endsBefore then upper else upperBehind
  let left := if startsBehind then lower else if endsBefore then lowerBehind else upper
  let right := if endsBefore then upperBehind else if startsBehind then upper else lowerBehind
  if precedes right left then [lowest, right, left, highest] else [lowest, left, right, highest]

/-- One half of a piece, sorted from last to first.  A long one starts with four in order. -/
def sortHalf (precedes : α → α → Bool) (isLong : Bool) (half : List α) : List α :=
  let insertAll := List.foldl fun sorted element => insertBackward precedes element sorted
  match isLong, half with
  | true, first :: second :: third :: fourth :: following =>
      insertAll (sortFour precedes first second third fourth).reverse following
  | _, _ => insertAll [] half

/-- How many of the elements that a number of steps takes from two lists come from the left one. -/
def takenLeft (takesLeft : α → α → Bool) : Nat → List α → List α → Nat
  | steps + 1, left :: lefts, right :: rights =>
      if takesLeft left right then
        takenLeft takesLeft steps lefts (right :: rights) + 1
      else
        takenLeft takesLeft steps (left :: lefts) rights
  | _, _, _ => 0

/--
Whether the halves of a piece are merged.  From either end, as many steps are made as the left half
has elements, and together they have to take each of its elements once.  In a piece of odd length
one element is left over, which may be one of the left half.
-/
def mergesPiece (precedes : α → α → Bool) (elements : List α) : Bool :=
  let steps := elements.length / 2
  let left := sortHalf precedes (8 ≤ elements.length) (elements.take steps)
  let right := sortHalf precedes (8 ≤ elements.length) (elements.drop steps)
  let forward :=
    takenLeft (fun left right => !precedes right left) steps left.reverse right.reverse
  let backward := takenLeft (fun left right => precedes right left) steps left right
  forward + backward = steps ∨
    (elements.length % 2 = 1 ∧ forward + backward + 1 = steps)

/-- The length of the longest opening in which each element goes on from the one in front of it. -/
def openingLength (goesOn : α → α → Bool) : List α → Nat
  | first :: second :: following =>
      if goesOn first second then openingLength goesOn (second :: following) + 1 else 1
  | elements => elements.length

/-- The length of the longest opening that is in order, or in strictly reversed order. -/
def runLength (precedes : α → α → Bool) : List α → Nat
  | first :: second :: following =>
      let goesOn :=
        if precedes second first then
          fun earlier later => precedes later earlier
        else
          fun earlier later => !precedes later earlier
      openingLength goesOn (first :: second :: following)
  | elements => elements.length

/-- Neighbouring elements of a list that are sorted together. -/
structure Run (α : Type) where
  elements : List α
  isSorted : Bool

/-- The number of elements that an opening in order needs to be taken as a run. -/
def leastRun (count : Nat) : Nat :=
  if count ≤ 64 * 64 then
    min (count - count / 2) 64
  else
    let shift := (1 + (count ||| 1).log2) / 2
    (Nat.pow 2 shift + count / Nat.pow 2 shift) / 2

/--
Cut a list into runs, of which those that are not in order have a given size.  A run has at least
one element, so there are at most as many runs as elements.
-/
def runs (precedes : α → α → Bool) (least size : Nat) : Nat → List α → List (Run α)
  | greatest + 1, first :: following =>
      let elements := first :: following
      let ordered := runLength precedes elements
      if least ≤ ordered then
        { elements := elements.take ordered, isSorted := true } ::
          runs precedes least size greatest (elements.drop ordered)
      else
        { elements := elements.take size, isSorted := false } ::
          runs precedes least size greatest (elements.drop size)
  | _, _ => []

/-- Whether sorting a list goes through when each of its runs is sorted as one piece. -/
def sortsPieces (precedes : α → α → Bool) (elements : List α) : Bool :=
  let count := elements.length
  (runs precedes (leastRun count) greatestPiece count elements).all fun run =>
    run.isSorted || mergesPiece precedes run.elements

/-- The middle one of three places. -/
def middle (isBelow : Nat → Nat → Bool) (first second third : Nat) : Nat :=
  if isBelow first second = isBelow first third then
    if isBelow second third = isBelow first second then second else third
  else
    first

/--
The place of an element near the middle, sought at three places.  Where the elements from each of
them on are many, each place is sought among them in the same way.
-/
def middlePlace (isBelow : Nat → Nat → Bool) : Nat → Nat → Nat → Nat
  | depth + 1, start, size =>
      let eighth := size / 8
      let place :=
        if eighth < 8 then
          id
        else
          fun start => middlePlace isBelow depth start eighth
      middle isBelow (place start) (place (start + 4 * eighth)) (place (start + 7 * eighth))
  | 0, start, _ => start

/-- The place of the element that parts a list. -/
def pivotPlace (precedes : α → α → Bool) (elements : List α) : Nat :=
  let isBelow := fun left right =>
    (elements[left]?.any fun lower => elements[right]?.any fun higher => precedes lower higher)
  middlePlace isBelow elements.length 0 elements.length

/--
Whether sorting a list by parting it goes through.  A list is parted in front of an element, or
behind all elements like it where it follows none of the list or is not above the one that the
list was parted at last.  Once a limit of partings is reached, the rest is sorted in pieces.
-/
def sortsParts (precedes : α → α → Bool) : Nat → Option α → List α → Bool
  | 0, _, elements =>
      if elements.length ≤ greatestPiece then
        mergesPiece precedes elements
      else
        sortsPieces precedes elements
  | limit + 1, ancestor, elements =>
      if elements.length ≤ greatestPiece then
        mergesPiece precedes elements
      else
        match elements.splitAt (pivotPlace precedes elements) with
        | (_, []) => true
        | (before, pivot :: behind) =>
            let isBelow := fun element => precedes element pivot
            let lower := (before ++ behind).filter isBelow
            if lower.isEmpty || ancestor.any fun ancestor => !precedes ancestor pivot then
              sortsParts precedes limit none ((before ++ behind).filter (precedes pivot))
            else
              let upper :=
                before.filter (!isBelow ·) ++ pivot :: behind.filter (!isBelow ·)
              sortsParts precedes limit (some pivot) upper &&
                sortsParts precedes limit ancestor lower

/-- Whether a run is in order or can be sorted by parting it. -/
def Run.sorts (precedes : α → α → Bool) (run : Run α) : Bool :=
  run.isSorted ||
    sortsParts precedes (2 * (run.elements.length ||| 1).log2) none run.elements

/--
Two neighbouring runs as one.  Each of them is sorted for that, unless neither was and there is
room to sort them together later.  Where one cannot be sorted there is no such run.
-/
def Run.join? (precedes : α → α → Bool) (room : Nat) (left right : Run α) : Option (Run α) :=
  let elements := left.elements ++ right.elements
  if elements.length ≤ room ∧ !left.isSorted ∧ !right.isSorted then
    some { elements, isSorted := false }
  else if left.sorts precedes && right.sorts precedes then
    some { elements, isSorted := true }
  else
    none

/--
The depth at which two runs meet in the tree of merges, from the places where the first run starts,
where the second one starts and where that ends.
-/
def depth (scale start between stop : Nat) : Nat :=
  63 - (scale * (start + between) ^^^ scale * (between + stop)).log2

/-- Join a run to those in front of it that lie at least as deep, the nearest first. -/
def joinBack?
    (precedes : α → α → Bool)
    (room desired : Nat) :
    List (Run α × Nat) → Run α → Option (List (Run α × Nat) × Run α)
  | [], run => some ([], run)
  | (left, depth) :: earlier, run =>
      if desired ≤ depth then
        (left.join? precedes room run).bind (joinBack? precedes room desired earlier)
      else
        some ((left, depth) :: earlier, run)

/-- Join runs to one, along with those in front of them. -/
def joinRuns?
    (precedes : α → α → Bool)
    (room scale : Nat) :
    List (Run α) → Nat → List (Run α × Nat) → Run α → Option (Run α)
  | [], _, earlier, run => (joinBack? precedes room 0 earlier run).map Prod.snd
  | next :: following, place, earlier, run =>
      let stop := place + next.elements.length
      let desired := depth scale (place - run.elements.length) place stop
      match joinBack? precedes room desired earlier run with
      | none => none
      | some (reached, joined) =>
          joinRuns? precedes room scale following stop ((joined, desired) :: reached) next

/-- Whether sorting a list goes through when its runs are sorted only where they are merged. -/
def sortsRuns (precedes : α → α → Bool) (elements : List α) : Bool :=
  let count := elements.length
  let room := max (count / 2) (min count greatestRoom)
  let scale := (Nat.pow 2 62 + count - 1) / count
  let least := leastRun count
  match runs precedes least least count elements with
  | [] => true
  | first :: following =>
      (joinRuns? precedes room scale following first.elements.length [] first).any
        (Run.sorts precedes)

/-- Whether sorting a list goes through. -/
def goesThrough (precedes : α → α → Bool) (elements : List α) : Bool :=
  if elements.length ≤ greatestInsertion then
    true
  else if elements.length ≤ 2 * greatestPiece then
    sortsPieces precedes elements
  else
    sortsRuns precedes elements

end ModuleUpdate.LongSort
