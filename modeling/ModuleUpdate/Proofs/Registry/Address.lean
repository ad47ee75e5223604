import Mathlib
import ModuleUpdate.Registry.Proxy

namespace ModuleUpdate.Text

/-!
# Uppercase letters of ASCII

The first run of uppercase characters is the uppercase alphabet of ASCII.  Every other one lies
beyond ASCII, and no lowercase form is an uppercase letter of ASCII.
-/

/-- The uppercase letters of ASCII by their code points. -/
theorem isUpper_iff
    {character : Char} :
    character.isUpper = true ↔ 0x41 ≤ character.toNat ∧ character.toNat ≤ 0x5A := by
  simp only [Char.isUpper, ge_iff_le, UInt32.le_iff_toNat_le, decide_eq_true_eq]
  rfl

/-- Only the code points of the uppercase letters of ASCII make one of them. -/
theorem le_of_isUpper_ofNat
    {code : Nat}
    (upper : (Char.ofNat code).isUpper = true) :
    0x41 ≤ code ∧ code ≤ 0x5A := by
  by_cases valid : code.isValidChar
  · rwa [isUpper_iff, Char.toNat_ofNat, if_pos valid] at upper
  · rw [isUpper_iff, Char.toNat_ofNat, if_neg valid] at upper
    omega

/-- Behind the first run every uppercase character is beyond ASCII. -/
private theorem ascii_lt_first_of_mem_tail :
    ∀ run ∈ uppercaseRuns.tail, 0x80 ≤ run.first := by
  decide +kernel

/-- The lowercase forms of a run lie behind the uppercase letters of ASCII. -/
private theorem letters_lt_lowercase_of_mem :
    ∀ run ∈ uppercaseRuns, 0x5A < run.first + run.distance := by
  decide +kernel

/-- An uppercase letter of ASCII is in the first run. -/
theorem uppercaseRun?_of_isUpper
    {character : Char}
    (upper : character.isUpper = true) :
    uppercaseRun? character = some ⟨0x41, 0x5A, 1, 32⟩ := by
  have ⟨least, greatest⟩ := isUpper_iff.mp upper
  exact List.find?_cons_of_pos
    (by simp [UppercaseRun.contains, least, greatest, Nat.mod_one])

/-- The run of an uppercase character begins at or before it. -/
theorem first_le_of_uppercaseRun?
    {character : Char}
    {run : UppercaseRun}
    (found : uppercaseRun? character = some run) :
    run.first ≤ character.toNat := by
  have contained := List.find?_some found
  simp only [UppercaseRun.contains, Bool.and_eq_true, decide_eq_true_eq] at contained
  exact contained.1.1

/-- Among the characters of ASCII those with the property Uppercase are the uppercase letters. -/
theorem isUppercase_of_lt
    {character : Char}
    (ascii : character.toNat < 0x80) :
    isUppercase character = character.isUpper := by
  rw [Bool.eq_iff_iff]
  constructor
  · intro uppercase
    obtain ⟨run, found⟩ := Option.isSome_iff_exists.mp uppercase
    have least := first_le_of_uppercaseRun? found
    rcases List.mem_cons.mp (List.mem_of_find?_eq_some found) with rfl | member
    · have contained := List.find?_some found
      simp only [UppercaseRun.contains, Bool.and_eq_true, decide_eq_true_eq] at contained
      exact isUpper_iff.mpr contained.1
    · have := ascii_lt_first_of_mem_tail run member
      omega
  · intro upper
    rw [isUppercase, uppercaseRun?_of_isUpper upper]
    rfl

/-- The lowercase form of an uppercase letter of ASCII is the one that the letter has there. -/
theorem lowercase_of_isUpper
    {character : Char}
    (upper : character.isUpper = true) :
    lowercase character = [character.toLower] := by
  have ⟨_, greatest⟩ := isUpper_iff.mp upper
  have notDotted : character ≠ Char.ofNat 0x130 := by
    rintro rfl
    exact absurd greatest (by decide)
  rw [lowercase, if_neg notDotted, uppercaseRun?_of_isUpper upper,
    Char.toLower_eq_of_isUpper upper]
  rfl

/-- A lowercase form has no uppercase letter of ASCII. -/
theorem isUpper_of_mem_lowercase
    {character letter : Char}
    (uppercase : isUppercase character = true)
    (member : letter ∈ lowercase character) :
    letter.isUpper = false := by
  obtain ⟨run, found⟩ := Option.isSome_iff_exists.mp uppercase
  rw [lowercase] at member
  split at member
  -- The dotted capital has two characters in its lowercase form, every other one has one.
  · simp only [List.mem_cons, List.not_mem_nil, or_false] at member
    rcases member with rfl | rfl <;> decide
  · rw [found, List.mem_singleton] at member
    subst letter
    have least := first_le_of_uppercaseRun? found
    have behind := letters_lt_lowercase_of_mem run (List.mem_of_find?_eq_some found)
    by_contra upper
    have ⟨_, greatest⟩ := le_of_isUpper_ofNat (Bool.eq_true_of_not_eq_false upper)
    omega

end ModuleUpdate.Text

namespace ModuleUpdate.Proxy

/-!
# Addresses of version lists

An escaped path has no uppercase letter, and its escapes can be taken back: in a path of ASCII
without exclamation marks each mark of the escaped path announces the lowercase form of one letter.
So the addresses at which a proxy lists the versions of two modules differ, and they differ in more
than the case of their letters.
-/

/-- A character of the alphabet of module paths: one of ASCII, but no exclamation mark. -/
def isPlain (character : Char) : Bool :=
  character.toNat < 0x80 && character != '!'

/-- A path over the alphabet of module paths. -/
def IsPlainPath (path : Text) : Prop :=
  ∀ character ∈ path, isPlain character = true

instance : DecidablePred IsPlainPath :=
  fun path => List.decidableBAll (fun character => isPlain character = true) path

/--
The plain path that is escaped as a text, if one is: a mark stands in front of a lowercase letter
and makes it uppercase, and no other letter is uppercase.
-/
def unescape? : Text → Option Text
  | [] => some []
  | '!' :: letter :: rest =>
      if letter.isLower then
        (unescape? rest).map (letter.toUpper :: ·)
      else
        none
  | character :: rest =>
      if isPlain character && !character.isUpper then
        (unescape? rest).map (character :: ·)
      else
        none

section Escape

variable {character letter : Char} {path rest text : Text}

/-- The characters of plain paths by their code points. -/
theorem isPlain_iff :
    isPlain character = true ↔ character.toNat < 0x80 ∧ character ≠ '!' := by
  simp [isPlain]

/-- An uppercase letter is a character of plain paths. -/
theorem isPlain_of_isUpper
    (upper : character.isUpper = true) :
    isPlain character = true := by
  have ⟨least, greatest⟩ := Text.isUpper_iff.mp upper
  refine isPlain_iff.mpr ⟨by omega, ?_⟩
  rintro rfl
  exact absurd least (by decide)

/-- An uppercase letter is escaped as a mark and its lowercase form. -/
theorem escape_cons_of_isUpper
    (upper : character.isUpper = true) :
    escape (character :: rest) = '!' :: character.toLower :: escape rest := by
  have ascii := (isPlain_iff.mp (isPlain_of_isUpper upper)).1
  have uppercase : Text.isUppercase character = true := by
    rw [Text.isUppercase_of_lt ascii, upper]
  rw [escape, List.flatMap_cons, if_pos uppercase, Text.lowercase_of_isUpper upper]
  rfl

/-- Any other character of plain paths stays as it is. -/
theorem escape_cons_of_not_isUpper
    (plain : isPlain character = true)
    (notUpper : character.isUpper = false) :
    escape (character :: rest) = character :: escape rest := by
  have lowercase : Text.isUppercase character = false := by
    rw [Text.isUppercase_of_lt (isPlain_iff.mp plain).1, notUpper]
  rw [escape, List.flatMap_cons, if_neg (by simp [lowercase])]
  rfl

/-- A mark makes the letter behind it uppercase. -/
theorem unescape?_mark
    (lower : letter.isLower = true) :
    unescape? ('!' :: letter :: rest) = (unescape? rest).map (letter.toUpper :: ·) := by
  rw [unescape?, if_pos lower]

/-- A character that is neither a mark nor uppercase stands for itself. -/
theorem unescape?_cons
    (plain : isPlain character = true)
    (notUpper : character.isUpper = false) :
    unescape? (character :: rest) = (unescape? rest).map (character :: ·) := by
  have notMark := (isPlain_iff.mp plain).2
  rw [unescape?, if_pos (by simp [plain, notUpper])]
  exact fun _ _ marked => absurd marked notMark

/-- An escaped plain path is read back. -/
theorem unescape?_escape
    (isPath : IsPlainPath path) :
    unescape? (escape path) = some path := by
  induction path with
  | nil => rfl
  | cons character rest inductionHypothesis =>
      have ⟨plain, restIsPath⟩ := List.forall_mem_cons.mp isPath
      cases upper : character.isUpper with
      | true =>
          have lower : character.toLower.isLower = true := by
            simp [Char.isAlpha, upper]
          have restored : character.toLower.toUpper = character := by
            rw [Char.toUpper_toLower_eq_toUpper,
              Char.toUpper_eq_of_not_isLower (Char.not_isLower_of_isUpper upper)]
          rw [escape_cons_of_isUpper upper, unescape?_mark lower,
            inductionHypothesis restIsPath, restored]
          rfl
      | false =>
          rw [escape_cons_of_not_isUpper plain upper, unescape?_cons plain upper,
            inductionHypothesis restIsPath]
          rfl

/-- Only an escaped plain path is read back. -/
theorem escape_of_unescape?
    (read : unescape? text = some path) :
    IsPlainPath path ∧ escape path = text := by
  -- The cases are those in which the reader goes on or refuses the text.
  induction text using unescape?.induct generalizing path with
  | case1 =>
      cases read
      exact ⟨List.forall_mem_nil _, rfl⟩
  | case2 letter rest lower inductionHypothesis =>
      rw [unescape?_mark lower, Option.map_eq_some_iff] at read
      obtain ⟨readRest, restRead, rfl⟩ := read
      have ⟨isPath, escaped⟩ := inductionHypothesis restRead
      have upper : letter.toUpper.isUpper = true := by
        simp [Char.isAlpha, lower]
      have restored : letter.toUpper.toLower = letter := by
        rw [Char.toLower_toUpper_eq_toLower,
          Char.toLower_eq_of_not_isUpper (Char.not_isUpper_of_isLower lower)]
      refine ⟨List.forall_mem_cons.mpr ⟨isPlain_of_isUpper upper, isPath⟩, ?_⟩
      rw [escape_cons_of_isUpper upper, restored, escaped]
  | case3 letter rest notLower =>
      rw [unescape?, if_neg notLower] at read
      cases read
  | case4 character rest notMarked accepted inductionHypothesis =>
      have ⟨plain, notUpper⟩ : isPlain character = true ∧ character.isUpper = false := by
        simpa using accepted
      rw [unescape?_cons plain notUpper, Option.map_eq_some_iff] at read
      obtain ⟨readRest, restRead, rfl⟩ := read
      have ⟨isPath, escaped⟩ := inductionHypothesis restRead
      refine ⟨List.forall_mem_cons.mpr ⟨plain, isPath⟩, ?_⟩
      rw [escape_cons_of_not_isUpper plain notUpper, escaped]
  | case5 character rest notMarked refused =>
      rw [unescape?, if_neg refused] at read
      · cases read
      · exact notMarked

/-- What a text is read as is the plain path whose escaped form it is. -/
theorem unescape?_eq_some_iff :
    unescape? text = some path ↔ IsPlainPath path ∧ escape path = text :=
  ⟨escape_of_unescape?, fun ⟨isPath, escaped⟩ => escaped ▸ unescape?_escape isPath⟩

/-- An escaped path has no uppercase letter, whatever characters the path is made of. -/
theorem isUpper_of_mem_escape
    (member : letter ∈ escape path) :
    letter.isUpper = false := by
  obtain ⟨character, _, standsFor⟩ := List.mem_flatMap.mp member
  split at standsFor
  next uppercase =>
    rcases List.mem_cons.mp standsFor with rfl | inForm
    · decide
    · exact Text.isUpper_of_mem_lowercase uppercase inForm
  next notUppercase =>
    -- The character stands for itself, and an uppercase letter would have been escaped.
    rw [List.mem_singleton] at standsFor
    subst letter
    by_contra upper
    rw [Text.isUppercase, Text.uppercaseRun?_of_isUpper (Bool.eq_true_of_not_eq_false upper)]
      at notUppercase
    exact notUppercase rfl

/-- An escaped path has one case only. -/
theorem map_toLower_escape (path : Text) :
    (escape path).map Char.toLower = escape path := by
  refine (List.map_congr_left fun letter member => ?_).trans (List.map_id _)
  exact Char.toLower_eq_of_not_isUpper (Bool.eq_false_iff.mp (isUpper_of_mem_escape member))

/-- Escaping takes no two plain paths to the same text. -/
theorem escape_injOn : Set.InjOn escape {path | IsPlainPath path} := by
  intro first firstIsPath second secondIsPath same
  have read := unescape?_eq_some_iff.mpr ⟨firstIsPath, same⟩
  rw [unescape?_escape secondIsPath] at read
  exact (Option.some.inj read).symm

/-- An exclamation mark in a path could be taken for an escape. -/
example : escape "example.com/!a".toList = escape "example.com/A".toList := by
  decide

end Escape

section ListAddress

variable {base first second : Text}

/-- Under one base the address of a list tells the escaped path. -/
theorem escape_eq_of_listAddress
    (same : listAddress base first = listAddress base second) :
    escape first = escape second := by
  simpa [listAddress] using same

/-- Without regard to case an address is the one of the same path under the base in lowercase. -/
theorem map_toLower_listAddress (base path : Text) :
    (listAddress base path).map Char.toLower = listAddress (base.map Char.toLower) path := by
  rw [listAddress, listAddress, List.map_append, List.map_append, List.map_cons,
    map_toLower_escape]
  rfl

/--
Under every base two modules with plain paths are listed at two addresses, and at addresses that
differ in more than case: an escaped path has no uppercase letter, so the case of a letter is told by
the mark in front of it.
-/
theorem listAddress_separates (base : Text) :
    (∀ first second,
        IsPlainPath first → IsPlainPath second →
          listAddress base first = listAddress base second →
            first = second) ∧
      (∀ path, ∀ letter ∈ escape path, letter.isUpper = false) ∧
      ∀ first second,
        IsPlainPath first → IsPlainPath second →
          (listAddress base first).map Char.toLower =
              (listAddress base second).map Char.toLower →
            first = second := by
  refine ⟨fun first second firstIsPath secondIsPath same => ?_,
    fun path letter member => isUpper_of_mem_escape member,
    fun first second firstIsPath secondIsPath same => ?_⟩
  · exact escape_injOn firstIsPath secondIsPath (escape_eq_of_listAddress same)
  · rw [map_toLower_listAddress, map_toLower_listAddress] at same
    exact escape_injOn firstIsPath secondIsPath (escape_eq_of_listAddress same)

/-- Two modules whose paths differ in case are listed at two addresses. -/
theorem listAddress_separates_cases :
    IsPlainPath "github.com/BurntSushi/toml".toList ∧
      IsPlainPath "github.com/burntsushi/toml".toList ∧
      (listAddress "https://proxy.golang.org".toList "github.com/BurntSushi/toml".toList).map
          Char.toLower ≠
        (listAddress "https://proxy.golang.org".toList "github.com/burntsushi/toml".toList).map
          Char.toLower := by
  have upperIsPath : IsPlainPath "github.com/BurntSushi/toml".toList := by decide
  have lowerIsPath : IsPlainPath "github.com/burntsushi/toml".toList := by decide
  refine ⟨upperIsPath, lowerIsPath, fun same => ?_⟩
  have equal :=
    (listAddress_separates "https://proxy.golang.org".toList).2.2 _ _ upperIsPath lowerIsPath same
  exact absurd equal (by decide)

end ListAddress

end ModuleUpdate.Proxy
