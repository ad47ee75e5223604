import Mathlib.Data.List.Forall2
import ModuleUpdate.Proofs.ModulePath
import ModuleUpdate.Proofs.Source.Passages

namespace ModuleUpdate.Source

/-!
# Reading imports after a move

Imports that were moved are read again in the same places, with their new paths.  There is one
exception: an interpreted literal is read with a line feed where it holds the escape for one, but
is written with the line feed itself.  So an import with such a path is stuck when it moves, and
is no longer read.

Every reader is followed from a cursor in the source and its counterpart in the edited source.
The edits that are still to come are those of the imports that are still to be read.
-/

/-- Module paths that hold the same number of line feeds and of raw marks. -/
structure SpelledAlike (old new : Text) : Prop where
  lineFeeds : old.count '\n' = new.count '\n'
  rawMarks : old.count (Quote.mark .raw) = new.count (Quote.mark .raw)

namespace Import

/-- An import that would be moved to a path whose line feed is written as it stands. -/
structure IsStuck (old new : Text) (spec : Import) : Prop where
  isInterpreted : spec.quote = .interpreted
  hasLineFeed : '\n' ∈ spec.path
  moves : (ModulePath.move? spec.path old new).isSome = true

/-- An import and the same import in the source after a move. -/
structure IsMoved (old new : Text) (before after : Import) : Prop where
  notStuck : ¬before.IsStuck old new
  localName : after.localName = before.localName
  quote : after.quote = before.quote
  line : after.line = before.line
  path : after.path = (ModulePath.move? before.path old new).getD before.path

end Import

/-- The edits that move imports. -/
def editsOf (old new : Text) (specs : List Import) : List Edit :=
  specs.filterMap fun spec => spec.edit? old new

/-- One more import adds its edit, if it moves. -/
theorem editsOf_cons
    (old new : Text)
    (spec : Import)
    (specs : List Import) :
    editsOf old new (spec :: specs) = (spec.edit? old new).toList ++ editsOf old new specs := by
  cases moved : spec.edit? old new <;> simp [editsOf, moved]

/-- The edits for two lists of imports follow each other. -/
theorem editsOf_append
    (old new : Text)
    (specs others : List Import) :
    editsOf old new (specs ++ others) = editsOf old new specs ++ editsOf old new others :=
  List.filterMap_append

/-- A move between paths with as many of a character keeps how many a moved path has. -/
private theorem count_of_move?
    {path old new moved : Text}
    {character : Char}
    (isMoved : ModulePath.move? path old new = some moved)
    (same : old.count character = new.count character) :
    moved.count character = path.count character := by
  obtain ⟨rest, rfl, rfl⟩ := ModulePath.exists_of_move? isMoved
  rw [List.count_append, List.count_append, same]

namespace Cursor

variable {old new : Text} {cursor behind other : Cursor} {following : List Edit}

/--
Imports are read from a cursor up to another one, and the moved imports between the counterparts
of the two, with the same text around them.
-/
structure Follows
    (old new : Text)
    (following : List Edit)
    (cursor other : Cursor)
    (specs moved : List Import)
    (behind left : Cursor) :
    Prop where
  areMoved : List.Forall₂ (Import.IsMoved old new) specs moved
  isAt : behind.IsAt following left
  sameAround :
    ∀ others movedOthers,
      SameAround (ModulePath.move? · old new) behind others left movedOthers →
        SameAround (ModulePath.move? · old new) cursor (specs ++ others) other
          (moved ++ movedOthers)

namespace Follows

variable {left last lastThere : Cursor} {specs others moved movedOthers : List Import}

/-- A cursor is followed by its counterpart over no import. -/
theorem refl
    (isAt : cursor.IsAt following other) :
    Follows old new following cursor other [] [] cursor other where
  areMoved := .nil
  isAt
  sameAround := fun _ _ sameAround => sameAround

/-- Two stretches of imports that are followed one after the other are followed together. -/
theorem trans
    {edits : List Edit}
    (first : Follows old new edits cursor other specs moved behind left)
    (second : Follows old new following behind left others movedOthers last lastThere) :
    Follows old new following cursor other (specs ++ others) (moved ++ movedOthers) last
      lastThere where
  areMoved := List.rel_append first.areMoved second.areMoved
  isAt := second.isAt
  sameAround := by
    intro later movedLater sameAround
    rw [List.append_assoc, List.append_assoc]
    exact first.sameAround _ _ (second.sameAround _ _ sameAround)

end Follows

variable (old new) in
/-- A step over a lexeme that no edit touches is followed in the edited source. -/
theorem next_follows
    {lexeme : Lexeme}
    (step : cursor.next = .lexeme lexeme behind)
    (awaits : behind.Awaits following)
    (isAt : cursor.IsAt following other) :
    ∃ shown left,
      other.next = .lexeme shown left ∧
        shown.kind = lexeme.kind ∧
        Follows old new following cursor other [] [] behind left := by
  obtain ⟨shown, left, trivia, spelling, shows, kind, _, stays, spans, spansThere⟩ :=
    next_of_isAt step awaits isAt
  refine ⟨shown, left, shows, kind, .nil, stays, fun others movedOthers sameAround => ?_⟩
  exact .of_lexeme spans spansThere sameAround

section Path

variable {localName : Option Text} {spec : Import}

/-- The path of an import is read from a literal, which the import takes its span from. -/
theorem readPath_eq_ok
    (read : cursor.readPath localName = .ok (spec, behind)) :
    ∃ lexeme,
      cursor.next = .lexeme lexeme behind ∧
        lexeme.kind = .literal spec.quote spec.path ∧
        spec =
          { localName, path := spec.path, start := lexeme.start, stop := lexeme.stop,
            quote := spec.quote, line := lexeme.line } := by
  simp only [readPath] at read
  split at read
  · cases read
  · cases read
  · next lexeme left step =>
      split at read
      · next isLiteral =>
          cases read
          exact ⟨lexeme, step, isLiteral, rfl⟩
      · cases read

/-- In front of a literal the path of an import is read. -/
theorem readPath_of_literal
    {lexeme : Lexeme}
    {quote : Quote}
    {path : Text}
    (step : cursor.next = .lexeme lexeme behind)
    (isLiteral : lexeme.kind = .literal quote path)
    (localName : Option Text) :
    cursor.readPath localName =
      .ok
        ({ localName, path, start := lexeme.start, stop := lexeme.stop, quote,
           line := lexeme.line },
          behind) := by
  simp only [readPath, step, isLiteral]

/-- In front of a lexeme that cannot be read, no path can be read either. -/
theorem readPath_of_broken
    {error : ScanError}
    (broken : cursor.next = .broken error)
    (localName : Option Text) :
    cursor.readPath localName = .error error := by
  simp only [readPath, broken]

/-- An import is edited in the span of the literal that it was read from. -/
theorem edit?_of_step
    {lexeme : Lexeme}
    (origin :
      spec =
        { localName, path := spec.path, start := lexeme.start, stop := lexeme.stop,
          quote := spec.quote, line := lexeme.line }) :
    spec.edit? old new =
      (ModulePath.move? spec.path old new).map (lexeme.rewriting spec.quote) := by
  rw [origin]
  rfl

/-- In front of a path that is read, its edit is still to come. -/
theorem awaits_of_readPath
    (read : cursor.readPath localName = .ok (spec, behind))
    (awaits : behind.Awaits following) :
    cursor.Awaits ((spec.edit? old new).toList ++ following) := by
  obtain ⟨lexeme, step, isLiteral, origin⟩ := readPath_eq_ok read
  rw [edit?_of_step origin]
  cases ModulePath.move? spec.path old new with
  | none => exact awaits_of_next step awaits
  | some moved => exact awaits_of_rewriting step isLiteral moved following

/-- An import whose literal is read again with its path moved. -/
private theorem follows_of_literal
    {lexeme shown : Lexeme}
    {moved : Import}
    {left : Cursor}
    {trivia spelling written : Text}
    (origin :
      spec =
        { localName, path := spec.path, start := lexeme.start, stop := lexeme.stop,
          quote := spec.quote, line := lexeme.line })
    (originThere :
      moved =
        { localName, path := (ModulePath.move? spec.path old new).getD spec.path,
          start := shown.start, stop := shown.stop, quote := spec.quote, line := shown.line })
    (line : shown.line = lexeme.line)
    (notStuck : ¬spec.IsStuck old new)
    (stays : behind.IsAt following left)
    (spans : cursor.Spans trivia spelling lexeme behind)
    (spansThere : other.Spans trivia written shown left)
    (literal :
      written = ((ModulePath.move? spec.path old new).map spec.quote.literal).getD spelling) :
    Follows old new following cursor other [spec] [moved] behind left := by
  have sameName : spec.localName = localName := congrArg Import.localName origin
  have start : spec.start = lexeme.start := congrArg Import.start origin
  have stop : spec.stop = lexeme.stop := congrArg Import.stop origin
  have sameLine : moved.line = spec.line := by
    rw [originThere, line]
    exact (congrArg Import.line origin).symm
  have sameNameThere : moved.localName = spec.localName := by
    rw [originThere, sameName]
  have isMoved : spec.IsMoved old new moved :=
    ⟨notStuck, sameNameThere, by rw [originThere], sameLine, by rw [originThere]⟩
  refine ⟨.cons isMoved .nil, stays, fun others movedOthers sameAround => ?_⟩
  refine .of_literal spans spansThere start stop (by rw [originThere]) (by rw [originThere]) ?_
    sameAround
  exact ⟨rfl, isMoved.localName, isMoved.quote, isMoved.line, isMoved.path, literal⟩

/-- An import is read again with its path moved, unless it is stuck. -/
theorem readPath_of_isAt
    (alike : SpelledAlike old new)
    (read : cursor.readPath localName = .ok (spec, behind))
    (awaits : behind.Awaits following)
    (isAt : cursor.IsAt ((spec.edit? old new).toList ++ following) other) :
    (∃ moved left,
      other.readPath localName = .ok (moved, left) ∧
        Follows old new following cursor other [spec] [moved] behind left) ∨
      (spec.IsStuck old new ∧ ∃ error, other.next = .broken error) := by
  obtain ⟨lexeme, step, isLiteral, origin⟩ := readPath_eq_ok read
  rw [edit?_of_step origin] at isAt
  cases isMoved : ModulePath.move? spec.path old new with
  | none =>
      rw [isMoved] at isAt
      obtain ⟨shown, left, trivia, spelling, shows, kind, line, stays, spans, spansThere⟩ :=
        next_of_isAt step awaits isAt
      rw [isLiteral] at kind
      refine .inl ⟨_, left, readPath_of_literal shows kind localName, ?_⟩
      refine follows_of_literal origin (by rw [isMoved]; rfl) line (fun stuck => ?_) stays spans
        spansThere (by rw [isMoved]; rfl)
      have moves := stuck.moves
      rw [isMoved] at moves
      cases moves
  | some path =>
      rw [isMoved] at isAt
      have sameLines := count_of_move? isMoved alike.lineFeeds
      by_cases spelled : spec.quote.Spells path
      · obtain ⟨shown, left, trivia, spelling, shows, kind, line, stays, spans, spansThere⟩ :=
          next_of_rewriting step isLiteral isAt spelled sameLines
        refine .inl ⟨_, left, readPath_of_literal shows kind localName, ?_⟩
        refine follows_of_literal origin (by rw [isMoved]; rfl) line (fun stuck => ?_) stays spans
          spansThere (by rw [isMoved]; rfl)
        rw [stuck.isInterpreted] at spelled
        have someLineFeed := List.count_pos_iff.mpr stuck.hasLineFeed
        rw [← sameLines] at someLineFeed
        exact spelled (List.count_pos_iff.mp someLineFeed)
      · have sameMarks := count_of_move? isMoved alike.rawMarks
        have isInterpreted : spec.quote = .interpreted := by
          cases isRaw : spec.quote with
          | interpreted => rfl
          | raw =>
              rw [isRaw] at spelled isLiteral
              have noMark := mark_not_mem_of_next step isLiteral
              refine absurd ?_ spelled
              show Quote.mark .raw ∉ path
              rwa [← List.count_eq_zero, sameMarks, List.count_eq_zero]
        rw [isInterpreted] at spelled isLiteral isAt
        have hasLineFeed : '\n' ∈ path := not_not.mp spelled
        refine .inr ⟨⟨isInterpreted, ?_, by rw [isMoved]; rfl⟩, ?_⟩
        · rwa [← List.count_pos_iff, ← sameLines, List.count_pos_iff]
        · exact next_of_rewriting_of_lineFeed step isLiteral isAt hasLineFeed

end Path

/-- No mark but a dot stands at the cursor. -/
def OpensImport (cursor : Cursor) : Prop :=
  ∀ shown left character,
    cursor.next = .lexeme shown left → shown.kind = .mark character → character = '.'

section Import

variable {spec : Import}

/-- The lexeme that names an import, and its name. -/
private def Names (lexeme : Lexeme) (name : Text) : Prop :=
  lexeme.kind = .word name ∨ lexeme.kind = .mark '.' ∧ name = ['.']

/-- Behind the name of an import its path is read. -/
theorem readImport_of_names
    {lexeme : Lexeme}
    {name : Text}
    (step : cursor.next = .lexeme lexeme behind)
    (names : Names lexeme name) :
    cursor.readImport = behind.readPath (some name) := by
  obtain ⟨kind, start, stop, line⟩ := lexeme
  simp only [readImport]
  rcases names with isWord | ⟨isDot, rfl⟩
  · cases isWord
    rw [step]
  · cases isDot
    rw [step]
    rfl

/-- An import that starts with its path has no name. -/
theorem readImport_of_literal
    {lexeme : Lexeme}
    {quote : Quote}
    {path : Text}
    (step : cursor.next = .lexeme lexeme behind)
    (isLiteral : lexeme.kind = .literal quote path) :
    cursor.readImport = cursor.readPath none := by
  obtain ⟨kind, start, stop, line⟩ := lexeme
  cases isLiteral
  simp only [readImport]
  rw [step]

/-- In front of a lexeme that cannot be read, no import can be read either. -/
theorem readImport_of_broken
    {error : ScanError}
    (broken : cursor.next = .broken error) :
    cursor.readImport = .error error := by
  simp only [readImport]
  rw [broken]
  exact readPath_of_broken broken none

/-- An import starts with its name or with its path. -/
theorem readImport_eq_ok
    (read : cursor.readImport = .ok (spec, behind)) :
    (∃ lexeme left name,
      cursor.next = .lexeme lexeme left ∧
        Names lexeme name ∧ left.readPath (some name) = .ok (spec, behind)) ∨
      cursor.readPath none = .ok (spec, behind) := by
  simp only [readImport] at read
  split at read
  · next name start stop line left step => exact .inl ⟨_, left, name, step, .inl rfl, read⟩
  · next start stop line left step => exact .inl ⟨_, left, ['.'], step, .inr ⟨rfl, rfl⟩, read⟩
  · exact .inr read

private theorem opensImport_of_names
    {lexeme : Lexeme}
    {name : Text}
    (step : cursor.next = .lexeme lexeme behind)
    (names : Names lexeme name) :
    cursor.OpensImport := by
  intro shown left character same isMark
  cases step.symm.trans same
  rcases names with isWord | ⟨isDot, _⟩
  · cases isWord.symm.trans isMark
  · cases isDot.symm.trans isMark
    rfl

private theorem opensImport_of_broken
    {error : ScanError}
    (broken : cursor.next = .broken error) :
    cursor.OpensImport := by
  intro shown left character same
  cases broken.symm.trans same

/-- Where an import is read, no mark but a dot stands in front of it. -/
theorem opensImport_of_readImport
    (read : cursor.readImport = .ok (spec, behind)) :
    cursor.OpensImport := by
  rcases readImport_eq_ok read with ⟨lexeme, left, name, step, names, _⟩ | read
  · exact opensImport_of_names step names
  · obtain ⟨lexeme, step, isLiteral, _⟩ := readPath_eq_ok read
    intro shown left character same isMark
    cases step.symm.trans same
    cases isLiteral.symm.trans isMark

/-- In front of an import that is read, its edit is still to come. -/
theorem awaits_of_readImport
    (read : cursor.readImport = .ok (spec, behind))
    (awaits : behind.Awaits following) :
    cursor.Awaits ((spec.edit? old new).toList ++ following) := by
  rcases readImport_eq_ok read with ⟨lexeme, left, name, step, _, readPath⟩ | readPath
  · exact awaits_of_next step (awaits_of_readPath readPath awaits)
  · exact awaits_of_readPath readPath awaits

/-- An import is read again in the edited source with its path moved, unless it is stuck. -/
theorem readImport_of_isAt
    (alike : SpelledAlike old new)
    (read : cursor.readImport = .ok (spec, behind))
    (awaits : behind.Awaits following)
    (isAt : cursor.IsAt ((spec.edit? old new).toList ++ following) other) :
    (∃ moved left,
      other.readImport = .ok (moved, left) ∧
        Follows old new following cursor other [spec] [moved] behind left) ∨
      (spec.IsStuck old new ∧
        other.OpensImport ∧ ∃ error, other.readImport = .error error) := by
  rcases readImport_eq_ok read with ⟨lexeme, left, name, step, names, readPath⟩ | readPath
  · obtain ⟨shown, leftThere, shows, kind, named⟩ :=
      next_follows old new step (awaits_of_readPath readPath awaits) isAt
    have namesThere : Names shown name := by
      simp only [Names]
      rwa [kind]
    rw [readImport_of_names shows namesThere]
    rcases readPath_of_isAt alike readPath awaits named.isAt with
      ⟨moved, leftLast, isRead, follows⟩ | ⟨stuck, error, broken⟩
    · exact .inl ⟨moved, leftLast, isRead, named.trans follows⟩
    · exact .inr
        ⟨stuck, opensImport_of_names shows namesThere, error, readPath_of_broken broken _⟩
  · rcases readPath_of_isAt alike readPath awaits isAt with
      ⟨moved, left, isRead, follows⟩ | ⟨stuck, error, broken⟩
    · obtain ⟨lexeme, step, isLiteral, _⟩ := readPath_eq_ok isRead
      rw [readImport_of_literal step isLiteral]
      exact .inl ⟨moved, left, isRead, follows⟩
    · exact .inr
        ⟨stuck, opensImport_of_broken broken, error, readImport_of_broken broken⟩

end Import

/-- No semicolon stands at the cursor. -/
def AvoidsSemicolon (cursor : Cursor) : Prop :=
  ∀ shown left, cursor.next = .lexeme shown left → shown.kind ≠ semicolon

/-- A lexeme that is no semicolon shows that none stands at the cursor. -/
theorem avoidsSemicolon_of_next
    {lexeme : Lexeme}
    (step : cursor.next = .lexeme lexeme behind)
    (notSemicolon : lexeme.kind ≠ semicolon) :
    cursor.AvoidsSemicolon := by
  intro shown left same
  cases step.symm.trans same
  exact notSemicolon

/-- No semicolon stands where an import can start. -/
theorem avoidsSemicolon_of_opensImport
    (opens : cursor.OpensImport) :
    cursor.AvoidsSemicolon := by
  intro shown left step isSemicolon
  have isDot := opens shown left ';' step isSemicolon
  exact absurd isDot (by decide)

/-- Where no semicolon stands, none is passed over. -/
theorem pastSemicolons_of_avoidsSemicolon
    (avoids : cursor.AvoidsSemicolon) :
    cursor.pastSemicolons = cursor := by
  rw [pastSemicolons]
  split
  · next lexeme behind step => rw [if_neg (avoids lexeme behind step)]
  · rfl
  · rfl

theorem pastSemicolons_of_semicolon
    {lexeme : Lexeme}
    (step : cursor.next = .lexeme lexeme behind)
    (isSemicolon : lexeme.kind = semicolon) :
    cursor.pastSemicolons = behind.pastSemicolons := by
  rw [pastSemicolons]
  split
  · next same =>
      cases step.symm.trans same
      rw [if_pos isSemicolon]
  · next same => cases step.symm.trans same
  · next same => cases step.symm.trans same

/-- What is still to come behind semicolons is so in front of them too. -/
theorem awaits_of_pastSemicolons
    (awaits : cursor.pastSemicolons.Awaits following) :
    cursor.Awaits following := by
  fun_induction pastSemicolons cursor with
  | case1 cursor lexeme behind step _ inductionHypothesis =>
      exact awaits_of_next step (inductionHypothesis awaits)
  | case2 => exact awaits
  | case3 => exact awaits
  | case4 => exact awaits

variable (old new) in
/-- Semicolons are passed in the edited source as far as they go in the source. -/
theorem pastSemicolons_of_isAt
    (awaits : cursor.pastSemicolons.Awaits following)
    (isAt : cursor.IsAt following other) :
    ∃ last,
      Follows old new following cursor other [] [] cursor.pastSemicolons last ∧
        (last.AvoidsSemicolon → other.pastSemicolons = last) := by
  fun_induction pastSemicolons cursor generalizing other with
  | case1 cursor lexeme behind step isSemicolon inductionHypothesis =>
      obtain ⟨shown, left, shows, kind, passed⟩ :=
        next_follows old new step (awaits_of_pastSemicolons awaits) isAt
      rw [pastSemicolons_of_semicolon shows (kind.trans isSemicolon)]
      obtain ⟨last, follows, passes⟩ := inductionHypothesis awaits passed.isAt
      exact ⟨last, passed.trans follows, passes⟩
  | case2 => exact ⟨other, .refl isAt, pastSemicolons_of_avoidsSemicolon⟩
  | case3 => exact ⟨other, .refl isAt, pastSemicolons_of_avoidsSemicolon⟩
  | case4 => exact ⟨other, .refl isAt, pastSemicolons_of_avoidsSemicolon⟩

section Group

variable {spec : Import} {specs : List Import} {last : Cursor}

private theorem exists_next_of_readImport
    (read : cursor.readImport = .ok (spec, behind)) :
    ∃ shown left, cursor.next = .lexeme shown left := by
  rcases readImport_eq_ok read with ⟨lexeme, left, _, step, _⟩ | readPath
  · exact ⟨lexeme, left, step⟩
  · obtain ⟨lexeme, step, _⟩ := readPath_eq_ok readPath
    exact ⟨lexeme, behind, step⟩

/-- A group is read on from the lexeme behind its semicolons. -/
theorem readGroup_of_lexeme
    {lexeme : Lexeme}
    (step : cursor.pastSemicolons.next = .lexeme lexeme behind) :
    cursor.readGroup =
      if lexeme.kind = .mark ')' then
        .ok ([], behind)
      else
        cursor.pastSemicolons.readImport.bind fun (spec, following) =>
          following.readGroup.map fun (specs, left) => (spec :: specs, left) := by
  rw [readGroup]
  split
  · next same => cases step.symm.trans same
  · next same => cases step.symm.trans same
  · next same =>
      cases step.symm.trans same
      split
      · rfl
      · split
        · next refused =>
            rw [refused]
            rfl
        · next spec following found =>
            rw [found]
            simp only [Except.bind]
            cases following.readGroup <;> rfl

private theorem not_closing_of_opensImport
    (opens : cursor.OpensImport)
    {shown : Lexeme}
    (step : cursor.next = .lexeme shown behind) :
    shown.kind ≠ .mark ')' := by
  intro isClosing
  have isDot := opens shown behind ')' step isClosing
  exact absurd isDot (by decide)

/-- A group that starts with an import goes on behind it. -/
theorem readGroup_of_readImport
    (read : cursor.pastSemicolons.readImport = .ok (spec, behind)) :
    cursor.readGroup =
      behind.readGroup.map fun (specs, left) => (spec :: specs, left) := by
  obtain ⟨shown, left, step⟩ := exists_next_of_readImport read
  have notClosing := not_closing_of_opensImport (opensImport_of_readImport read) step
  rw [readGroup_of_lexeme step, if_neg notClosing, read]
  rfl

/-- A group is refused with the first import that is refused. -/
theorem readGroup_of_refused
    {error : ScanError}
    (opens : cursor.pastSemicolons.OpensImport)
    (refused : cursor.pastSemicolons.readImport = .error error) :
    ∃ error, cursor.readGroup = .error error := by
  cases step : cursor.pastSemicolons.next with
  | lexeme shown left =>
      rw [readGroup_of_lexeme step, if_neg (not_closing_of_opensImport opens step), refused]
      exact ⟨error, rfl⟩
  | finished line =>
      rw [readGroup]
      split
      · exact ⟨_, rfl⟩
      · exact ⟨_, rfl⟩
      · next same => cases step.symm.trans same
  | broken fault =>
      rw [readGroup]
      split
      · exact ⟨_, rfl⟩
      · exact ⟨_, rfl⟩
      · next same => cases step.symm.trans same

/-- In front of a group that is read, the edits of its imports are still to come. -/
theorem awaits_of_readGroup
    (read : cursor.readGroup = .ok (specs, last))
    (awaits : last.Awaits following) :
    cursor.Awaits (editsOf old new specs ++ following) := by
  fun_induction readGroup cursor generalizing specs with
  | case1 => cases read
  | case2 => cases read
  | case3 cursor lexeme behind step _ =>
      cases read
      exact awaits_of_pastSemicolons (awaits_of_next step awaits)
  | case4 => cases read
  | case5 => cases read
  | case6 cursor _ _ _ _ spec behind found specs left rest inductionHypothesis =>
      cases read
      rw [editsOf_cons, List.append_assoc]
      exact awaits_of_pastSemicolons
        (awaits_of_readImport found (inductionHypothesis rest))

/-- A group is read again with its imports moved, unless one of them is stuck. -/
theorem readGroup_of_isAt
    (alike : SpelledAlike old new)
    (read : cursor.readGroup = .ok (specs, last))
    (awaits : last.Awaits following)
    (isAt : cursor.IsAt (editsOf old new specs ++ following) other) :
    (∃ moved left,
      other.readGroup = .ok (moved, left) ∧
        Follows old new following cursor other specs moved last left) ∨
      ((∃ spec ∈ specs, spec.IsStuck old new) ∧ ∃ error, other.readGroup = .error error) := by
  fun_induction readGroup cursor generalizing specs other with
  | case1 => cases read
  | case2 => cases read
  | case3 cursor lexeme behind step isClosing =>
      cases read
      obtain ⟨start, passed, passes⟩ :=
        pastSemicolons_of_isAt old new (awaits_of_next step awaits) isAt
      obtain ⟨shown, left, shows, kind, closed⟩ := next_follows old new step awaits passed.isAt
      rw [isClosing] at kind
      have avoids := avoidsSemicolon_of_next shows (ne_of_eq_of_ne kind (by decide))
      rw [← passes avoids] at shows
      have isRead : other.readGroup = .ok ([], left) := by
        rw [readGroup_of_lexeme shows, if_pos kind]
      exact .inl ⟨[], left, isRead, passed.trans closed⟩
  | case4 => cases read
  | case5 => cases read
  | case6 cursor _ _ _ _ spec behind found specs last rest inductionHypothesis =>
      cases read
      rw [editsOf_cons, List.append_assoc] at isAt
      have awaitsRest : behind.Awaits (editsOf old new specs ++ following) :=
        awaits_of_readGroup rest awaits
      obtain ⟨start, passed, passes⟩ :=
        pastSemicolons_of_isAt old new (awaits_of_readImport found awaitsRest) isAt
      rcases readImport_of_isAt alike found awaitsRest passed.isAt with
        ⟨moved, left, isRead, followsFirst⟩ | ⟨stuck, opens, error, refused⟩
      · have opens := opensImport_of_readImport isRead
        rw [← passes (avoidsSemicolon_of_opensImport opens)] at isRead
        rw [readGroup_of_readImport isRead]
        rcases inductionHypothesis rest followsFirst.isAt with
          ⟨others, behindAll, restRead, followsOthers⟩ |
          ⟨⟨other, member, stuck⟩, error, refused⟩
        · rw [restRead]
          exact .inl
            ⟨moved :: others, behindAll, rfl, (passed.trans followsFirst).trans followsOthers⟩
        · rw [refused]
          exact .inr ⟨⟨other, List.mem_cons_of_mem _ member, stuck⟩, error, rfl⟩
      · have passedThere := passes (avoidsSemicolon_of_opensImport opens)
        rw [← passedThere] at opens refused
        exact .inr ⟨⟨spec, List.mem_cons_self, stuck⟩, readGroup_of_refused opens refused⟩

end Group

section Declaration

variable {specs : List Import}

/-- A declaration that opens a parenthesis is read as a group. -/
theorem readDeclaration_of_opening
    {lexeme : Lexeme}
    (step : cursor.next = .lexeme lexeme behind)
    (isOpening : lexeme.kind = .mark '(') :
    cursor.readDeclaration = behind.readGroup := by
  obtain ⟨kind, start, stop, line⟩ := lexeme
  cases isOpening
  simp only [readDeclaration]
  rw [step]
  rfl

/-- Any other declaration is read as one import. -/
theorem readDeclaration_of_opensImport
    (opens : cursor.OpensImport) :
    cursor.readDeclaration =
      cursor.readImport.map fun (spec, behind) => ([spec], behind) := by
  simp only [readDeclaration]
  split
  · next step =>
      have isDot := opens _ _ '(' step rfl
      exact absurd isDot (by decide)
  · cases cursor.readImport <;> rfl

/-- A declaration is a group in parentheses or one import. -/
theorem readDeclaration_eq_ok
    (read : cursor.readDeclaration = .ok (specs, behind)) :
    (∃ lexeme inside,
      cursor.next = .lexeme lexeme inside ∧
        lexeme.kind = .mark '(' ∧ inside.readGroup = .ok (specs, behind)) ∨
      ∃ spec, specs = [spec] ∧ cursor.readImport = .ok (spec, behind) := by
  simp only [readDeclaration] at read
  split at read
  · next step => exact .inl ⟨_, _, step, rfl, read⟩
  · split at read
    · cases read
    · next found =>
        cases read
        exact .inr ⟨_, rfl, found⟩

/-- In front of a declaration that is read, the edits of its imports are still to come. -/
theorem awaits_of_readDeclaration
    (read : cursor.readDeclaration = .ok (specs, behind))
    (awaits : behind.Awaits following) :
    cursor.Awaits (editsOf old new specs ++ following) := by
  rcases readDeclaration_eq_ok read with ⟨lexeme, inside, step, _, readGroup⟩ | ⟨spec, rfl, found⟩
  · exact awaits_of_next step (awaits_of_readGroup readGroup awaits)
  · rw [editsOf_cons, List.append_assoc]
    exact awaits_of_readImport found awaits

/-- A declaration is read again in the edited source with its paths moved, unless one is stuck. -/
theorem readDeclaration_of_isAt
    (alike : SpelledAlike old new)
    (read : cursor.readDeclaration = .ok (specs, behind))
    (awaits : behind.Awaits following)
    (isAt : cursor.IsAt (editsOf old new specs ++ following) other) :
    (∃ moved left,
      other.readDeclaration = .ok (moved, left) ∧
        Follows old new following cursor other specs moved behind left) ∨
      ((∃ spec ∈ specs, spec.IsStuck old new) ∧
        ∃ error, other.readDeclaration = .error error) := by
  rcases readDeclaration_eq_ok read with
    ⟨lexeme, inside, step, isOpening, readGroup⟩ | ⟨spec, rfl, found⟩
  · obtain ⟨shown, left, shows, kind, opened⟩ :=
      next_follows old new step (awaits_of_readGroup readGroup awaits) isAt
    rw [readDeclaration_of_opening shows (kind.trans isOpening)]
    rcases readGroup_of_isAt alike readGroup awaits opened.isAt with
      ⟨moved, leftLast, isRead, follows⟩ | refused
    · exact .inl ⟨moved, leftLast, isRead, opened.trans follows⟩
    · exact .inr refused
  · rw [editsOf_cons, List.append_assoc] at isAt
    rcases readImport_of_isAt alike found awaits isAt with
      ⟨moved, left, isRead, follows⟩ | ⟨stuck, opens, error, refused⟩
    · rw [readDeclaration_of_opensImport (opensImport_of_readImport isRead), isRead]
      exact .inl ⟨[moved], left, rfl, follows⟩
    · rw [readDeclaration_of_opensImport opens, refused]
      exact .inr ⟨⟨spec, List.mem_cons_self, stuck⟩, error, rfl⟩

end Declaration

end Cursor

end ModuleUpdate.Source
