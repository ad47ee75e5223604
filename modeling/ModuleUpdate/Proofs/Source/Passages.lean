import Mathlib.Data.List.Forall2
import ModuleUpdate.Proofs.Source.Edits

namespace ModuleUpdate.Source

/-!
# A source around its imports

A source is cut at the literals of its imports.  Two sources are the same around their imports
when the texts between the literals are, and when each import of the one is the import of the
other at the path it moves to.
-/

/--
An import in its source: the text between the literal in front of it and its own, and its literal
as it is spelled.
-/
structure Passage where
  gap : Text
  spec : Import
  literal : Text
  deriving Repr, DecidableEq

/-- The text that starts at an offset, cut at the literals of imports, and the text behind them. -/
def passages (offset : Nat) : List Import → Text → List Passage × Text
  | [], text => ([], text)
  | spec :: specs, text =>
      let (gap, found) := Text.splitAtByte (spec.start - offset) text
      let (literal, behind) := Text.splitAtByte (spec.stop - spec.start) found
      let (others, last) := passages spec.stop specs behind
      ({ gap, spec, literal } :: others, last)

/-- Nothing of a text is lost when it is cut. -/
theorem flatMap_passages
    (offset : Nat)
    (specs : List Import)
    (text : Text) :
    (passages offset specs text).1.flatMap (fun passage => passage.gap ++ passage.literal) ++
        (passages offset specs text).2 =
      text := by
  induction specs generalizing offset text with
  | nil => rfl
  | cons spec specs inductionHypothesis =>
      simp only [passages, List.flatMap_cons, List.append_assoc, inductionHypothesis,
        Text.splitAtByte_append]

/-- A text is cut at the imports that are given. -/
theorem map_spec_passages
    (offset : Nat)
    (specs : List Import)
    (text : Text) :
    (passages offset specs text).1.map Passage.spec = specs := by
  induction specs generalizing offset text with
  | nil => rfl
  | cons spec specs inductionHypothesis =>
      simp only [passages, List.map_cons, inductionHypothesis]

/-- More text in front of what was cut. -/
private def withFront (front : Text) : List Passage × Text → List Passage × Text
  | ([], last) => ([], front ++ last)
  | (first :: others, last) => ({ first with gap := front ++ first.gap } :: others, last)

private theorem passages_append
    {offset : Nat}
    {front : Text}
    {specs : List Import}
    (ahead : ∀ spec ∈ specs.head?, offset + Text.byteLength front ≤ spec.start)
    (text : Text) :
    passages offset specs (front ++ text) =
      withFront front (passages (offset + Text.byteLength front) specs text) := by
  cases specs with
  | nil => rfl
  | cons spec specs =>
      have start := ahead spec rfl
      have reaches : Text.byteLength front ≤ spec.start - offset := by omega
      have left :
          spec.start - offset - Text.byteLength front =
            spec.start - (offset + Text.byteLength front) := by
        omega
      simp only [passages, Text.splitAtByte_append_of_le reaches, left, withFront]

private theorem passages_cons
    {offset : Nat}
    {gap literal : Text}
    {spec : Import}
    (start : spec.start = offset + Text.byteLength gap)
    (stop : spec.stop = spec.start + Text.byteLength literal)
    (specs : List Import)
    (text : Text) :
    passages offset (spec :: specs) (gap ++ literal ++ text) =
      ({ gap, spec, literal } :: (passages spec.stop specs text).1,
        (passages spec.stop specs text).2) := by
  have before : spec.start - offset = Text.byteLength gap := by omega
  have spanned : spec.stop - spec.start = Text.byteLength literal := by omega
  simp only [passages, before, spanned, List.append_assoc, Text.splitAtByte_byteLength]

/-- A passage and the same one after its path moved where it moves at all. -/
structure Passage.IsMoved (move : Text → Option Text) (before after : Passage) : Prop where
  gap : after.gap = before.gap
  localName : after.spec.localName = before.spec.localName
  quote : after.spec.quote = before.spec.quote
  line : after.spec.line = before.spec.line
  path : after.spec.path = (move before.spec.path).getD before.spec.path
  literal :
    after.literal = ((move before.spec.path).map before.spec.quote.literal).getD before.literal

/-- Cut texts that differ in the paths that moved only. -/
structure AreMoved (move : Text → Option Text) (before after : List Passage × Text) : Prop where
  passages : List.Forall₂ (Passage.IsMoved move) before.1 after.1
  last : after.2 = before.2

private theorem areMoved_withFront
    {move : Text → Option Text}
    {before after : List Passage × Text}
    (areMoved : AreMoved move before after)
    (front : Text) :
    AreMoved move (withFront front before) (withFront front after) := by
  obtain ⟨earlier, earlierLast⟩ := before
  obtain ⟨later, laterLast⟩ := after
  obtain ⟨moved, last⟩ := areMoved
  cases moved with
  | nil => exact ⟨.nil, congrArg (front ++ ·) last⟩
  | cons first others =>
      refine ⟨.cons ?_ others, last⟩
      exact { first with gap := congrArg (front ++ ·) first.gap }

/--
The texts from two cursors on, cut at the imports that are still to come, differ in the paths that
moved only.
-/
structure SameAround
    (move : Text → Option Text)
    (cursor : Cursor)
    (specs : List Import)
    (other : Cursor)
    (moved : List Import) :
    Prop where
  ahead : ∀ spec ∈ specs.head?, cursor.position.offset ≤ spec.start
  aheadThere : ∀ spec ∈ moved.head?, other.position.offset ≤ spec.start
  areMoved :
    AreMoved move (passages cursor.position.offset specs cursor.text)
      (passages other.position.offset moved other.text)

/-- A cursor stands behind the start of a source. -/
structure Cursor.IsBehind (cursor : Cursor) (front text : Text) : Prop where
  text : text = front ++ cursor.text
  position : cursor.position = Position.past {} front

namespace SameAround

variable
  {move : Text → Option Text}
  {cursor behind other left : Cursor}
  {specs moved : List Import}
  {trivia : Text}
  {lexeme shown : Lexeme}

theorem refl
    (sameText : other.text = cursor.text) :
    SameAround move cursor [] other [] where
  ahead := by simp
  aheadThere := by simp
  areMoved := ⟨.nil, sameText⟩

/-- The same lexeme in front of both texts changes nothing. -/
theorem of_lexeme
    {spelling : Text}
    (spans : cursor.Spans trivia spelling lexeme behind)
    (spansThere : other.Spans trivia spelling shown left)
    (sameAround : SameAround move behind specs left moved) :
    SameAround move cursor specs other moved := by
  obtain ⟨ahead, aheadThere, areMoved⟩ := sameAround
  rw [spans.position] at ahead areMoved
  rw [spansThere.position] at aheadThere areMoved
  refine
    ⟨fun spec isFirst => Nat.le_trans (Nat.le_add_right _ _) (ahead spec isFirst),
      fun spec isFirst => Nat.le_trans (Nat.le_add_right _ _) (aheadThere spec isFirst), ?_⟩
  rw [spans.text, spansThere.text, passages_append ahead, passages_append aheadThere]
  exact areMoved_withFront areMoved (trivia ++ spelling)

/-- An import in front of both texts stands at the path that it moves to. -/
theorem of_literal
    {spelling written : Text}
    (spans : cursor.Spans trivia spelling lexeme behind)
    (spansThere : other.Spans trivia written shown left)
    {spec movedSpec : Import}
    (start : spec.start = lexeme.start)
    (stop : spec.stop = lexeme.stop)
    (startThere : movedSpec.start = shown.start)
    (stopThere : movedSpec.stop = shown.stop)
    (isMoved :
      Passage.IsMoved move { gap := trivia, spec, literal := spelling }
        { gap := trivia, spec := movedSpec, literal := written })
    (sameAround : SameAround move behind specs left moved) :
    SameAround move cursor (spec :: specs) other (movedSpec :: moved) := by
  have starts : spec.start = cursor.position.offset + Text.byteLength trivia :=
    start.trans spans.start
  have stops : spec.stop = spec.start + Text.byteLength spelling := by
    rw [stop, start, spans.stop]
  have startsThere : movedSpec.start = other.position.offset + Text.byteLength trivia :=
    startThere.trans spansThere.start
  have stopsThere : movedSpec.stop = movedSpec.start + Text.byteLength written := by
    rw [stopThere, startThere, spansThere.stop]
  have others := sameAround.areMoved
  rw [spans.offset, spansThere.offset, ← stop, ← stopThere] at others
  refine ⟨?_, ?_, ?_⟩
  · rintro _ ⟨⟩
    exact Nat.le.intro starts.symm
  · rintro _ ⟨⟩
    exact Nat.le.intro startsThere.symm
  · rw [spans.text, spansThere.text, passages_cons starts stops,
      passages_cons startsThere stopsThere]
    exact ⟨.cons isMoved others.passages, others.last⟩

/-- Behind the same start, sources are the same as a whole. -/
theorem areMoved_of_isBehind
    {front text textThere : Text}
    (isBehind : cursor.IsBehind front text)
    (isBehindThere : other.IsBehind front textThere)
    (sameAround : SameAround move cursor specs other moved) :
    AreMoved move (passages 0 specs text) (passages 0 moved textThere) := by
  obtain ⟨ahead, aheadThere, areMoved⟩ := sameAround
  rw [isBehind.position] at ahead areMoved
  rw [isBehindThere.position] at aheadThere areMoved
  rw [isBehind.text, isBehindThere.text, passages_append ahead, passages_append aheadThere]
  exact areMoved_withFront areMoved front

end SameAround

end ModuleUpdate.Source
