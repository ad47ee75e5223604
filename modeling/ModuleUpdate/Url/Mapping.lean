import ModuleUpdate.Text.Composition
import ModuleUpdate.Text.Hexadecimal
import ModuleUpdate.Url.MappingWord
import ModuleUpdate.Url.PermittedRange

namespace ModuleUpdate.Url

/-!
# Characters of host names

Spellings that readers take for the same are one name.  Every character of a name stands for itself,
for others, for nothing, or is refused.  Of the basic characters only the uppercase letters stand
for others.
-/

/-- A run of characters that stand for others. -/
structure MappedRun where
  first : Nat
  last : Nat
  step : Nat
  targets : List Nat
  deriving Repr

namespace MappedRun

/-- Whether a code point lies on the grid of a run. -/
def contains (run : MappedRun) (code : Nat) : Bool :=
  run.first ≤ code && code ≤ run.last && (code - run.first) % run.step == 0

/-- What a code point of a run stands for. -/
def image (run : MappedRun) (code : Nat) : Text :=
  run.targets.map fun target => Char.ofNat (target + (code - run.first))

/-- The run of a word of the table. -/
def ofWord? (word : Text) : Option MappedRun := do
  let source := word.takeWhile (· ≠ '=')
  let targets := word.drop (source.length + 1)
  let bounds ← (source.splitOnP fun mark => mark == '-' || mark == '~').mapM Text.ofHexDigits?
  let targets ←
    if targets = [] then some [] else (targets.splitOn '+').mapM Text.ofHexDigits?
  some
    { first := ← bounds.head?
      last := ← bounds.getLast?
      step := if source.contains '~' then 2 else 1
      targets }

end MappedRun

/-- The runs of the table. -/
def mappedRuns : List MappedRun :=
  (mappingWords.toList.splitOnP Text.isBlank).filterMap MappedRun.ofWord?

/-- A character that stands for itself. -/
def isPermitted (character : Char) : Bool :=
  if character.toNat < 0x80 then
    !character.isUpper
  else if character.toNat < 0x10000 then
    Text.inRanges permittedBasicRanges character.toNat
  else
    Text.inRanges permittedFurtherRanges character.toNat

/-- What a character stands for, unless it is refused. -/
def image? (character : Char) : Option Text :=
  if character.toNat < 0x80 then
    some [character.toLower]
  else
    match mappedRuns.find? fun run => run.contains character.toNat with
    | some run => some (run.image character.toNat)
    | none => if isPermitted character then some [character] else none

/-- The one name of all spellings that readers take for the same. -/
def canonicalName? (name : Text) : Option Text :=
  if name.all fun character => character.toNat < 0x80 then
    some (name.map Char.toLower)
  else
    (name.mapM image?).map fun images => Text.composed images.flatten

end ModuleUpdate.Url
