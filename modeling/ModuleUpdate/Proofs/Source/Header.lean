import ModuleUpdate.Proofs.Source.Rescanning

namespace ModuleUpdate.Source

/-!
# Reading a header after a move

The declarations of a source are followed one after the other up to its first other declaration,
behind which no edit stands.  So the whole header is read again with its imports moved, unless
one of them is stuck.
-/

namespace Cursor

variable
  {old new : Text}
  {cursor behind other : Cursor}
  {specs : List Import}

/-- Where a text ends does not depend on its place. -/
theorem finished_of_text
    {line : Nat}
    (finished : cursor.next = .finished line)
    (text : other.text = cursor.text) :
    ∃ lineThere, other.next = .finished lineThere := by
  simp only [next] at finished ⊢
  rw [text]
  split at finished
  · cases finished
  · exact ⟨_, rfl⟩
  · split at finished <;> cases finished

/-- Behind semicolons none stands. -/
private theorem avoidsSemicolon_pastSemicolons (cursor : Cursor) :
    cursor.pastSemicolons.AvoidsSemicolon := by
  fun_induction pastSemicolons cursor with
  | case1 _ _ _ _ _ inductionHypothesis => exact inductionHypothesis
  | case2 cursor lexeme behind step notSemicolon =>
      intro shown left same
      cases step.symm.trans same
      exact notSemicolon
  | case3 cursor line step =>
      intro shown left same
      cases step.symm.trans same
  | case4 cursor error step =>
      intro shown left same
      cases step.symm.trans same

/-- A lexeme of the same kind is no semicolon either. -/
private theorem avoidsSemicolon_of_lexeme
    {lexeme shown : Lexeme}
    {left : Cursor}
    (avoids : cursor.AvoidsSemicolon)
    (step : cursor.next = .lexeme lexeme behind)
    (shows : other.next = .lexeme shown left)
    (sameKind : shown.kind = lexeme.kind) :
    other.AvoidsSemicolon := by
  refine avoidsSemicolon_of_next shows ?_
  rw [sameKind]
  exact avoids lexeme behind step

/-- At the end of the text no import is left. -/
theorem readImports_of_finished
    {line : Nat}
    (finished : cursor.pastSemicolons.next = .finished line) :
    cursor.readImports = .ok [] := by
  rw [readImports]
  split
  · next same => cases finished.symm.trans same
  · rfl
  · next same => cases finished.symm.trans same

/-- Declarations are read on from the lexeme behind the semicolons. -/
theorem readImports_of_lexeme
    {lexeme : Lexeme}
    (step : cursor.pastSemicolons.next = .lexeme lexeme behind) :
    cursor.readImports =
      if lexeme.kind = importWord then
        behind.readDeclaration.bind fun (specs, left) =>
          left.readImports.map fun others => specs ++ others
      else
        .ok [] := by
  rw [readImports]
  split
  · next same => cases step.symm.trans same
  · next same => cases step.symm.trans same
  · next same =>
      cases step.symm.trans same
      split
      · split
        · next refused =>
            rw [refused]
            rfl
        · next specs left found =>
            rw [found]
            simp only [Except.bind]
            cases left.readImports <;> rfl
      · rfl

/-- In front of imports that are read, their edits are still to come. -/
theorem awaits_of_readImports
    (read : cursor.readImports = .ok specs) :
    cursor.Awaits (editsOf old new specs) := by
  fun_induction readImports cursor generalizing specs with
  | case1 => cases read
  | case2 cursor _ _ =>
      cases read
      exact cursor.awaits_nil
  | case3 => cases read
  | case4 => cases read
  | case5 cursor lexeme behind step isImport specs left declared others rest inductionHypothesis =>
      cases read
      rw [editsOf_append]
      exact awaits_of_pastSemicolons
        (awaits_of_next step (awaits_of_readDeclaration declared (inductionHypothesis rest)))
  | case6 cursor _ _ _ _ =>
      cases read
      exact cursor.awaits_nil

/-- The imports of a source are read again, moved, unless one of them is stuck. -/
theorem readImports_of_isAt
    (alike : SpelledAlike old new)
    (read : cursor.readImports = .ok specs)
    (isAt : cursor.IsAt (editsOf old new specs) other) :
    (∃ moved,
      other.readImports = .ok moved ∧
        List.Forall₂ (Import.IsMoved old new) specs moved ∧
        SameAround (ModulePath.move? · old new) cursor specs other moved) ∨
      ((∃ spec ∈ specs, spec.IsStuck old new) ∧
        ∃ error, other.readImports = .error error) := by
  fun_induction readImports cursor generalizing specs other with
  | case1 => cases read
  | case2 cursor line finished =>
      cases read
      obtain ⟨start, passed, passes⟩ := pastSemicolons_of_isAt old new (awaits_nil _) isAt
      obtain ⟨lineThere, finishedThere⟩ := finished_of_text finished passed.isAt.text
      have avoids : start.AvoidsSemicolon := by
        intro shown left same
        cases finishedThere.symm.trans same
      rw [← passes avoids] at finishedThere
      exact .inl ⟨[], readImports_of_finished finishedThere, .nil, .refl isAt.text⟩
  | case3 => cases read
  | case4 => cases read
  | case5 cursor lexeme behind step isImport specs left declared others rest inductionHypothesis =>
      cases read
      rw [editsOf_append] at isAt
      have awaitsRest : left.Awaits (editsOf old new others) := awaits_of_readImports rest
      have awaits : behind.Awaits (editsOf old new specs ++ editsOf old new others) :=
        awaits_of_readDeclaration declared awaitsRest
      obtain ⟨start, passed, passes⟩ :=
        pastSemicolons_of_isAt old new (awaits_of_next step awaits) isAt
      obtain ⟨shown, inside, shows, kind, opened⟩ := next_follows old new step awaits passed.isAt
      have avoids :=
        avoidsSemicolon_of_lexeme (avoidsSemicolon_pastSemicolons cursor) step shows kind
      rw [← passes avoids] at shows
      rw [readImports_of_lexeme shows, if_pos (kind.trans isImport)]
      rcases readDeclaration_of_isAt alike declared awaitsRest opened.isAt with
        ⟨moved, leftThere, isRead, follows⟩ | ⟨⟨spec, member, stuck⟩, error, refused⟩
      · rw [isRead]
        have followsAll := (passed.trans opened).trans follows
        rcases inductionHypothesis rest followsAll.isAt with
          ⟨movedOthers, restRead, othersMoved, sameAround⟩ |
          ⟨⟨spec, member, stuck⟩, error, refused⟩
        · refine .inl
            ⟨moved ++ movedOthers, ?_, List.rel_append followsAll.areMoved othersMoved,
              followsAll.sameAround _ _ sameAround⟩
          simp only [Except.bind, restRead]
          rfl
        · refine .inr ⟨⟨spec, List.mem_append_right _ member, stuck⟩, error, ?_⟩
          simp only [Except.bind, refused]
          rfl
      · rw [refused]
        exact .inr ⟨⟨spec, List.mem_append_left _ member, stuck⟩, error, rfl⟩
  | case6 cursor lexeme behind step isOther =>
      cases read
      obtain ⟨start, passed, passes⟩ := pastSemicolons_of_isAt old new (awaits_nil _) isAt
      obtain ⟨shown, left, shows, kind, _⟩ := next_follows old new step (awaits_nil _) passed.isAt
      have avoids :=
        avoidsSemicolon_of_lexeme (avoidsSemicolon_pastSemicolons cursor) step shows kind
      rw [← passes avoids] at shows
      have isOtherThere : shown.kind ≠ importWord := by rwa [kind]
      have isRead : other.readImports = .ok [] := by
        rw [readImports_of_lexeme shows, if_neg isOtherThere]
      exact .inl ⟨[], isRead, .nil, .refl isAt.text⟩

/-- A package is read from its keyword and the name behind it. -/
theorem readPackage_eq_ok
    {name : Text}
    (read : cursor.readPackage = .ok (name, behind)) :
    ∃ first left second,
      cursor.next = .lexeme first left ∧
        first.kind = packageWord ∧
          left.next = .lexeme second behind ∧ second.kind = .word name := by
  simp only [readPackage] at read
  split at read
  · cases read
  · cases read
  · next first left step =>
      split at read
      · next isPackage =>
          split at read
          · cases read
          · cases read
          · next named =>
              cases read
              exact ⟨first, left, _, step, isPackage, named, rfl⟩
          · cases read
      · cases read

/-- The keyword and a name behind it are read as a package. -/
theorem readPackage_of_next
    {first second : Lexeme}
    {left : Cursor}
    {name : Text}
    (step : cursor.next = .lexeme first left)
    (isPackage : first.kind = packageWord)
    (named : left.next = .lexeme second behind)
    (isName : second.kind = .word name) :
    cursor.readPackage = .ok (name, behind) := by
  obtain ⟨kind, start, stop, line⟩ := second
  cases isName
  simp only [readPackage]
  rw [step]
  simp only [isPackage, if_true, named]

/-- A source and the edited source start at counterparts, behind a byte order mark if any. -/
theorem ofText_isAt
    {edits : List Edit}
    {text : Text}
    (awaits : (Cursor.ofText text).Awaits edits) :
    (Cursor.ofText text).IsAt edits (Cursor.ofText (applyEdits 0 edits text)) ∧
      ∃ front,
        (Cursor.ofText text).IsBehind front text ∧
          (Cursor.ofText (applyEdits 0 edits text)).IsBehind front (applyEdits 0 edits text) := by
  cases text with
  | nil =>
      have noText : applyEdits 0 edits [] = [] := List.head?_eq_none_iff.mp awaits.sameHead
      rw [noText]
      exact ⟨⟨noText.symm, rfl⟩, [], ⟨rfl, rfl⟩, rfl, rfl⟩
  | cons character rest =>
      by_cases isMark : character = Char.ofNat 0xFEFF
      · have start :
            Cursor.ofText (character :: rest) =
              { position := Position.past {} [character], text := rest } := by
          rw [ofText, if_pos isMark]
        rw [start] at awaits ⊢
        have place : (Position.past {} [character]).offset = 0 + Text.byteLength [character] := rfl
        have ahead := awaits.ahead
        rw [place] at ahead
        have whole : applyEdits 0 edits ([character] ++ rest) = _ := applyEdits_append ahead rest
        rw [List.singleton_append, List.singleton_append] at whole
        rw [whole, ofText, if_pos isMark]
        exact ⟨⟨rfl, rfl⟩, [character], ⟨rfl, rfl⟩, rfl, rfl⟩
      · have start :
            Cursor.ofText (character :: rest) =
              { position := {}, text := character :: rest } := by
          rw [ofText, if_neg isMark]
        rw [start] at awaits ⊢
        obtain ⟨others, edited⟩ := List.head?_eq_some_iff.mp awaits.sameHead
        have whole : applyEdits 0 edits (character :: rest) = character :: others := edited
        rw [whole, ofText, if_neg isMark]
        exact ⟨⟨edited.symm, rfl⟩, [], ⟨rfl, rfl⟩, rfl, rfl⟩

end Cursor

namespace Header

variable {old new text : Text} {header : Header}

/-- A header is read as a package and the imports behind it. -/
theorem ofText_eq_ok
    (read : Header.ofText text = .ok header) :
    ∃ cursor,
      (Cursor.ofText text).readPackage = .ok (header.package, cursor) ∧
        cursor.readImports = .ok header.imports := by
  simp only [ofText] at read
  split at read
  · cases read
  · next package cursor clause =>
      split at read
      · cases read
      · next imports declared =>
          cases read
          exact ⟨cursor, clause, declared⟩

/--
A source is read again after a move with the same package and the same imports at their new
paths, and it is the same around them; or one of its imports is stuck and it is not read.
-/
theorem passages_applyEdits
    (alike : SpelledAlike old new)
    (read : Header.ofText text = .ok header) :
    (∃ moved,
      Header.ofText (applyEdits 0 (header.edits old new) text) = .ok moved ∧
        moved.package = header.package ∧
        List.Forall₂ (Import.IsMoved old new) header.imports moved.imports ∧
        AreMoved (ModulePath.move? · old new) (passages 0 header.imports text)
          (passages 0 moved.imports (applyEdits 0 (header.edits old new) text))) ∨
      ((∃ spec ∈ header.imports, spec.IsStuck old new) ∧
        ∃ error, Header.ofText (applyEdits 0 (header.edits old new) text) = .error error) := by
  obtain ⟨cursor, clause, declared⟩ := ofText_eq_ok read
  obtain ⟨first, left, second, step, isPackage, named, isName⟩ := Cursor.readPackage_eq_ok clause
  have awaits : cursor.Awaits (header.edits old new) := Cursor.awaits_of_readImports declared
  have awaitsName := Cursor.awaits_of_next named awaits
  obtain ⟨starts, front, isBehind, isBehindThere⟩ :=
    Cursor.ofText_isAt (Cursor.awaits_of_next step awaitsName)
  obtain ⟨shown, leftThere, shows, kind, opened⟩ :=
    Cursor.next_follows old new step awaitsName starts
  obtain ⟨name, behind, namedThere, nameKind, followsName⟩ :=
    Cursor.next_follows old new named awaits opened.isAt
  have follows := opened.trans followsName
  have clauseThere :=
    Cursor.readPackage_of_next shows (kind.trans isPackage) namedThere (nameKind.trans isName)
  simp only [ofText]
  rw [clauseThere]
  rcases Cursor.readImports_of_isAt alike declared follows.isAt with
    ⟨moved, isRead, areMoved, sameAround⟩ | ⟨stuck, error, refused⟩
  · simp only [isRead]
    have sameSource := follows.sameAround _ _ sameAround
    exact .inl ⟨_, rfl, rfl, areMoved, sameSource.areMoved_of_isBehind isBehind isBehindThere⟩
  · simp only [refused]
    exact .inr ⟨stuck, error, rfl⟩

/--
A source is read again after a move with the same package and the same imports at their new
paths, or one of its imports is stuck and it is not read.
-/
theorem ofText_applyEdits
    (alike : SpelledAlike old new)
    (read : Header.ofText text = .ok header) :
    (∃ moved,
      Header.ofText (applyEdits 0 (header.edits old new) text) = .ok moved ∧
        moved.package = header.package ∧
          List.Forall₂ (Import.IsMoved old new) header.imports moved.imports) ∨
      ((∃ spec ∈ header.imports, spec.IsStuck old new) ∧
        ∃ error, Header.ofText (applyEdits 0 (header.edits old new) text) = .error error) := by
  rcases passages_applyEdits alike read with ⟨moved, isRead, package, areMoved, _⟩ | refused
  · exact .inl ⟨moved, isRead, package, areMoved⟩
  · exact .inr refused

end Header

theorem moveImports?_getD
    (text : Text)
    (header : Header)
    (old new : Text) :
    (moveImports? text header old new).getD text = applyEdits 0 (header.edits old new) text := by
  simp only [moveImports?]
  split
  · next noEdits =>
      rw [noEdits]
      rfl
  · rfl

end ModuleUpdate.Source
