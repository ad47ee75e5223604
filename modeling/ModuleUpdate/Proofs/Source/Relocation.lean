import ModuleUpdate.Proofs.Source.Header

namespace ModuleUpdate.Source

/-!
# Relocating modules in a source

A source whose imports move is read again at their new paths, and nothing else in it changes.  The
same move finds nothing left to do.  What one move gives can be moved on, so a source stays
readable through any number of relocations, each of which reads the header that it finds.
-/

/-- A text that stands in literals of both styles as it is. -/
structure IsPlain (text : Text) : Prop where
  noLineFeed : '\n' ∉ text
  noRawMark : Quote.mark .raw ∉ text

instance (text : Text) : Decidable (IsPlain text) :=
  decidable_of_iff ('\n' ∉ text ∧ Quote.mark .raw ∉ text)
    ⟨fun ⟨noLineFeed, noRawMark⟩ => ⟨noLineFeed, noRawMark⟩,
      fun plain => ⟨plain.noLineFeed, plain.noRawMark⟩⟩

namespace IsPlain

variable {path old new moved : Text}

/-- A plain path moves to a plain path. -/
theorem of_move?
    (plainPath : IsPlain path)
    (plainNew : IsPlain new)
    (isMoved : ModulePath.move? path old new = some moved) :
    IsPlain moved := by
  obtain ⟨rest, rfl, rfl⟩ := ModulePath.exists_of_move? isMoved
  have stays :
      ∀ {character}, character ∉ old ++ rest → character ∉ new → character ∉ new ++ rest := by
    intro character notBefore notNew member
    rcases List.mem_append.mp member with inNew | inRest
    · exact notNew inNew
    · exact notBefore (List.mem_append_right old inRest)
  exact
    ⟨stays plainPath.noLineFeed plainNew.noLineFeed, stays plainPath.noRawMark plainNew.noRawMark⟩

/-- A module that a plain path belongs to is spelled like every other plain one. -/
theorem spelledAlike
    (plainPath : IsPlain path)
    (plainNew : IsPlain new)
    (isMoved : ModulePath.move? path old new = some moved) :
    SpelledAlike old new := by
  obtain ⟨rest, rfl, _⟩ := ModulePath.exists_of_move? isMoved
  have absent :
      ∀ {character},
        character ∉ old ++ rest →
          character ∉ new → old.count character = new.count character := by
    intro character notBefore notNew
    have notOld : character ∉ old := fun member => notBefore (List.mem_append_left rest member)
    rw [List.count_eq_zero.mpr notOld, List.count_eq_zero.mpr notNew]
  exact
    ⟨absent plainPath.noLineFeed plainNew.noLineFeed, absent plainPath.noRawMark plainNew.noRawMark⟩

end IsPlain

/-- Where a path stands after two moves, if either of them moves it. -/
def inTurn (first second : Text → Option Text) (path : Text) : Option Text :=
  match first path with
  | some moved => some ((second moved).getD moved)
  | none => second path

section InTurn

variable {first second : Text → Option Text}

/-- A path that is moved in turn stands where the second move leads it from the first. -/
theorem inTurn_getD
    (first second : Text → Option Text)
    (path : Text) :
    (inTurn first second path).getD path =
      (second ((first path).getD path)).getD ((first path).getD path) := by
  simp only [inTurn]
  cases first path <;> rfl

namespace Passage.IsMoved

variable {before between after : Passage}

theorem refl
    (stays : first before.spec.path = none) :
    IsMoved first before before where
  gap := rfl
  localName := rfl
  quote := rfl
  line := rfl
  path := by rw [stays]; rfl
  literal := by rw [stays]; rfl

theorem trans
    (earlier : IsMoved first before between)
    (later : IsMoved second between after) :
    IsMoved (inTurn first second) before after where
  gap := later.gap.trans earlier.gap
  localName := later.localName.trans earlier.localName
  quote := later.quote.trans earlier.quote
  line := later.line.trans earlier.line
  path := by rw [inTurn_getD, ← earlier.path, later.path]
  literal := by
    rw [later.literal, earlier.quote, earlier.path, earlier.literal]
    simp only [inTurn]
    cases first before.spec.path with
    | none => rfl
    | some moved => cases same : second moved <;> simp [same]

end Passage.IsMoved

namespace AreMoved

variable {before between after : List Passage × Text}

theorem refl
    (stay : ∀ passage ∈ before.1, first passage.spec.path = none) :
    AreMoved first before before where
  passages := List.forall₂_same.mpr fun passage member => .refl (stay passage member)
  last := rfl

theorem trans
    (earlier : AreMoved first before between)
    (later : AreMoved second between after) :
    AreMoved (inTurn first second) before after := by
  have together :
      ∀ {cut cutBetween cutAfter},
        List.Forall₂ (Passage.IsMoved first) cut cutBetween →
          List.Forall₂ (Passage.IsMoved second) cutBetween cutAfter →
            List.Forall₂ (Passage.IsMoved (inTurn first second)) cut cutAfter := by
    intro cut cutBetween cutAfter isMoved isMovedOn
    induction isMoved generalizing cutAfter with
    | nil =>
        cases isMovedOn
        exact .nil
    | cons head _ inductionHypothesis =>
        cases isMovedOn with
        | cons headOn others => exact .cons (head.trans headOn) (inductionHypothesis others)
  exact ⟨together earlier.passages later.passages, later.last.trans earlier.last⟩

end AreMoved

end InTurn

/-- A source becomes one that is read with some import paths moved, and is the same around them. -/
structure Becomes
    (move : Text → Option Text)
    (text : Text)
    (header : Header)
    (result : Text)
    (moved : Header) :
    Prop where
  scanned : Header.ofText result = .ok moved
  package : moved.package = header.package
  areMoved :
    AreMoved move (passages 0 header.imports text) (passages 0 moved.imports result)

namespace Becomes

variable
  {first second : Text → Option Text}
  {text result last : Text}
  {header moved lastHeader : Header}

theorem refl
    (scanned : Header.ofText text = .ok header)
    (stay : ∀ spec ∈ header.imports, first spec.path = none) :
    Becomes first text header text header where
  scanned
  package := rfl
  areMoved := by
    refine .refl fun passage member => stay passage.spec ?_
    rw [← map_spec_passages 0 header.imports text]
    exact List.mem_map_of_mem member

theorem trans
    (earlier : Becomes first text header result moved)
    (later : Becomes second result moved last lastHeader) :
    Becomes (inTurn first second) text header last lastHeader where
  scanned := later.scanned
  package := later.package.trans earlier.package
  areMoved := earlier.areMoved.trans later.areMoved

/-- Every import stands at the path to which it moved, or where it stood. -/
theorem paths
    (becomes : Becomes first text header result moved) :
    moved.imports.map Import.path =
      header.imports.map fun spec => (first spec.path).getD spec.path := by
  have samePaths :
      List.Forall₂ (fun before after => (first before.path).getD before.path = after.path)
        header.imports moved.imports := by
    rw [← map_spec_passages 0 header.imports text, ← map_spec_passages 0 moved.imports result,
      List.forall₂_map_left_iff, List.forall₂_map_right_iff]
    exact becomes.areMoved.passages.imp fun _ _ isMoved => isMoved.path.symm
  rw [← List.forall₂_eq_eq_eq, List.forall₂_map_left_iff, List.forall₂_map_right_iff]
  exact samePaths.flip.imp fun _ _ => Eq.symm

/-- Every import of the result is one from before with its path moved. -/
theorem exists_import
    (becomes : Becomes first text header result moved)
    {spec : Import}
    (member : spec ∈ moved.imports) :
    ∃ before ∈ header.imports, (first before.path).getD before.path = spec.path := by
  have isPath := List.mem_map_of_mem (f := Import.path) member
  rw [becomes.paths] at isPath
  exact List.mem_map.mp isPath

end Becomes

section Move

variable {old new text result : Text} {header moved : Header}

/-- A source changes where one of its imports moves. -/
theorem moveImports?_eq_none_iff
    (text : Text)
    (header : Header)
    (old new : Text) :
    moveImports? text header old new = none ↔
      ∀ spec ∈ header.imports, ModulePath.move? spec.path old new = none := by
  have noEdits :
      header.edits old new = [] ↔
        ∀ spec ∈ header.imports, ModulePath.move? spec.path old new = none := by
    simp only [Header.edits, List.filterMap_eq_nil_iff, Import.edit?, Option.map_eq_none_iff]
  rw [← noEdits, moveImports?]
  cases header.edits old new with
  | nil => exact iff_of_true rfl rfl
  | cons first others => exact iff_of_false (Option.some_ne_none _) (List.cons_ne_nil first others)

/-- Where an import moves, the source is read again with the imports that move at new paths. -/
theorem becomes_moveImports?
    (scanned : Header.ofText text = .ok header)
    (plainPaths : ∀ spec ∈ header.imports, IsPlain spec.path)
    (plainNew : IsPlain new)
    (changed : moveImports? text header old new = some result) :
    ∃ moved, Becomes (ModulePath.move? · old new) text header result moved := by
  have isMoved :
      ∃ spec ∈ header.imports, ∃ path, ModulePath.move? spec.path old new = some path := by
    by_contra stay
    have unchanged := (moveImports?_eq_none_iff text header old new).mpr fun spec member =>
      Option.eq_none_iff_forall_ne_some.mpr fun path moves => stay ⟨spec, member, path, moves⟩
    rw [changed] at unchanged
    cases unchanged
  obtain ⟨spec, member, path, moves⟩ := isMoved
  have whole := moveImports?_getD text header old new
  rw [changed, Option.getD_some] at whole
  rw [whole]
  have alike : SpelledAlike old new := (plainPaths spec member).spelledAlike plainNew moves
  rcases Header.passages_applyEdits alike scanned with
    ⟨moved, isRead, package, _, areMoved⟩ | ⟨⟨stuckSpec, isImport, stuck⟩, _⟩
  · exact ⟨moved, isRead, package, areMoved⟩
  · exact absurd stuck.hasLineFeed (plainPaths stuckSpec isImport).noLineFeed

/-- What moved is within the new module, so the same move finds nothing to do. -/
theorem Becomes.moveImports?_again
    (becomes : Becomes (ModulePath.move? · old new) text header result moved) :
    moveImports? result moved old new = none := by
  rw [moveImports?_eq_none_iff]
  intro spec member
  obtain ⟨before, _, path⟩ := becomes.exists_import member
  rw [← path]
  cases moves : ModulePath.move? before.path old new with
  | none => exact moves
  | some path => exact ModulePath.move?_eq_none_of_move? moves

/-- A source with its imports moved, or as it is where none moves. -/
theorem becomes_moveImports?_getD
    (scanned : Header.ofText text = .ok header)
    (plainPaths : ∀ spec ∈ header.imports, IsPlain spec.path)
    (plainNew : IsPlain new) :
    ∃ moved,
      Becomes (ModulePath.move? · old new) text header
        ((moveImports? text header old new).getD text) moved := by
  cases changed : moveImports? text header old new with
  | none =>
      have stay := (moveImports?_eq_none_iff text header old new).mp changed
      exact ⟨header, .refl scanned stay⟩
  | some result => exact becomes_moveImports? scanned plainPaths plainNew changed

/-- Plain paths are plain once they are moved to a plain one. -/
theorem Becomes.plainPaths
    (becomes : Becomes (ModulePath.move? · old new) text header result moved)
    (plainPaths : ∀ spec ∈ header.imports, IsPlain spec.path)
    (plainNew : IsPlain new) :
    ∀ spec ∈ moved.imports, IsPlain spec.path := by
  intro spec member
  obtain ⟨before, isBefore, path⟩ := becomes.exists_import member
  rw [← path]
  cases moves : ModulePath.move? before.path old new with
  | none => exact plainPaths before isBefore
  | some path => exact (plainPaths before isBefore).of_move? plainNew moves

end Move

/-- A module whose imports move to another one. -/
structure Relocation where
  old : Text
  new : Text
  deriving Repr, DecidableEq

namespace Relocation

/-- Where a path stands after relocations one after the other, if any of them moves it. -/
def move? : List Relocation → Text → Option Text
  | [] => fun _ => none
  | first :: later => inTurn (ModulePath.move? · first.old first.new) (move? later)

/-- A source after relocations one after the other, each with the header that is read then. -/
def run : List Relocation → Text → Except ScanError Text
  | [], text => .ok text
  | first :: later, text =>
      (Header.ofText text).bind fun header =>
        run later ((moveImports? text header first.old first.new).getD text)

/-- Relocations to plain modules leave a source readable and move its imports only. -/
theorem becomes_run
    {text : Text}
    {header : Header}
    (scanned : Header.ofText text = .ok header)
    (plainPaths : ∀ spec ∈ header.imports, IsPlain spec.path)
    {relocations : List Relocation}
    (plain : ∀ relocation ∈ relocations, IsPlain relocation.new) :
    ∃ result last,
      run relocations text = .ok result ∧
        Becomes (move? relocations) text header result last ∧
          ∀ spec ∈ last.imports, IsPlain spec.path := by
  induction relocations generalizing text header with
  | nil => exact ⟨text, header, rfl, .refl scanned fun _ _ => rfl, plainPaths⟩
  | cons first later inductionHypothesis =>
      have plainNew := plain first List.mem_cons_self
      obtain ⟨moved, becomes⟩ :
          ∃ moved,
            Becomes (ModulePath.move? · first.old first.new) text header
              ((moveImports? text header first.old first.new).getD text) moved :=
        becomes_moveImports?_getD scanned plainPaths plainNew
      obtain ⟨result, last, ran, becomesLast, plainLast⟩ :=
        inductionHypothesis becomes.scanned (becomes.plainPaths plainPaths plainNew)
          fun relocation member => plain relocation (List.mem_cons_of_mem first member)
      refine ⟨result, last, ?_, becomes.trans becomesLast, plainLast⟩
      rw [run, scanned]
      exact ran

/--
Relocations leave a source that is read with the same imports at the paths that the relocations
give them, and is otherwise the same text.  A further move changes it exactly if one of its
imports moves, changes the paths that move and nothing else, and is then done.
-/
theorem moves_paths_only
    {text : Text}
    {header : Header}
    (scanned : Header.ofText text = .ok header)
    (plainPaths : ∀ spec ∈ header.imports, IsPlain spec.path)
    {relocations : List Relocation}
    (plain : ∀ relocation ∈ relocations, IsPlain relocation.new) :
    ∃ result last,
      run relocations text = .ok result ∧
        Becomes (move? relocations) text header result last ∧
          ∀ old new,
            IsPlain new →
              (moveImports? result last old new = none ↔
                ∀ spec ∈ last.imports, ModulePath.move? spec.path old new = none) ∧
              ∀ changed,
                moveImports? result last old new = some changed →
                  ∃ moved,
                    Becomes (ModulePath.move? · old new) result last changed moved ∧
                      moveImports? changed moved old new = none := by
  obtain ⟨result, last, ran, becomes, plainLast⟩ := becomes_run scanned plainPaths plain
  refine ⟨result, last, ran, becomes, fun old new plainNew => ⟨?_, fun changed isChanged => ?_⟩⟩
  · exact moveImports?_eq_none_iff result last old new
  · obtain ⟨moved, becomesMoved⟩ :=
      becomes_moveImports? becomes.scanned plainLast plainNew isChanged
    exact ⟨moved, becomesMoved, becomesMoved.moveImports?_again⟩

/-- A source with imports in both styles, and a path of theirs where none stands. -/
private def groupedSource : Text :=
  "package p\nimport (\n\tq `m.io/a/q`\n\t\"m.io/a\" // m.io/a\n)\n".toList

/-- The same source at the second major version of the module. -/
private def upgradedSource : Text :=
  "package p\nimport (\n\tq `m.io/a/v2/q`\n\t\"m.io/a/v2\" // m.io/a\n)\n".toList

/-- A module goes to its second major version. -/
private def upgradeOfSource : Relocation where
  old := "m.io/a".toList
  new := "m.io/a/v2".toList

/-- The grouped source after the upgrade, which finds nothing left to do. -/
theorem moves_paths_only_grouped :
    ∃ last,
      run [upgradeOfSource] groupedSource = .ok upgradedSource ∧
        Header.ofText upgradedSource = .ok last ∧
          last.imports.map Import.path = ["m.io/a/v2/q".toList, "m.io/a/v2".toList] ∧
            moveImports? upgradedSource last upgradeOfSource.old upgradeOfSource.new = none := by
  have scanned :
      Header.ofText groupedSource =
        .ok
          { package := ['p']
            imports :=
              [{ localName := some ['q'], path := "m.io/a/q".toList, start := 22, stop := 32,
                 quote := .raw, line := 3 },
               { localName := none, path := "m.io/a".toList, start := 34, stop := 42,
                 quote := .interpreted, line := 4 }] } := by
    decide +kernel
  have plain : ∀ relocation ∈ [upgradeOfSource], IsPlain relocation.new := by decide +kernel
  have isResult : run [upgradeOfSource] groupedSource = .ok upgradedSource := by decide +kernel
  obtain ⟨result, last, ran, becomes, further⟩ :=
    moves_paths_only scanned (by decide +kernel) plain
  rw [isResult, Except.ok.injEq] at ran
  subst ran
  have paths : last.imports.map Import.path = ["m.io/a/v2/q".toList, "m.io/a/v2".toList] := by
    rw [becomes.paths]
    decide +kernel
  refine ⟨last, isResult, becomes.scanned, paths, ?_⟩
  rw [(further upgradeOfSource.old upgradeOfSource.new (by decide +kernel)).1]
  intro spec member
  have isPath := List.mem_map_of_mem (f := Import.path) member
  rw [paths] at isPath
  have done :
      ∀ path ∈ ["m.io/a/v2/q".toList, "m.io/a/v2".toList],
        ModulePath.move? path upgradeOfSource.old upgradeOfSource.new = none := by
    decide +kernel
  exact done spec.path isPath

end Relocation

end ModuleUpdate.Source
