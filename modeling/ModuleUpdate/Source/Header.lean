import ModuleUpdate.Source.Cursor

namespace ModuleUpdate

/-!
# Headers of sources

The head of a source file names its package and its imports.  Reading it stops at the first
declaration that is no import, so what follows may be anything that starts with a lexeme.
-/

namespace Source

/-- One import: the name it is given, its path, and the literal that spells the path. -/
structure Import where
  localName : Option Text
  path : Text
  start : Nat
  stop : Nat
  quote : Quote
  line : Nat
  deriving Repr, DecidableEq

/-- The package name and the imports of a source. -/
structure Header where
  package : Text
  imports : List Import
  deriving Repr, DecidableEq

/-- The mark that may stand behind declarations and imports. -/
def semicolon : Kind :=
  .mark ';'

/-- The word that starts the package clause. -/
def packageWord : Kind :=
  .word "package".toList

/-- The word that starts an import declaration. -/
def importWord : Kind :=
  .word "import".toList

namespace Cursor

/-- The cursor behind the semicolons that stand here. -/
def pastSemicolons (cursor : Cursor) : Cursor :=
  match _step : cursor.next with
  | .lexeme lexeme behind => if lexeme.kind = semicolon then behind.pastSemicolons else cursor
  | .finished _ => cursor
  | .broken _ => cursor
  termination_by cursor.text.length
  decreasing_by exact length_of_next _step

/-- Passing over semicolons leaves a text that is no longer. -/
theorem length_pastSemicolons (cursor : Cursor) :
    cursor.pastSemicolons.text.length ≤ cursor.text.length := by
  fun_induction pastSemicolons cursor with
  | case1 cursor lexeme behind step _ inductionHypothesis =>
      exact Nat.le_of_lt (Nat.lt_of_le_of_lt inductionHypothesis (length_of_next step))
  | case2 => exact Nat.le_refl _
  | case3 => exact Nat.le_refl _
  | case4 => exact Nat.le_refl _

/-- Read the path of an import whose name, if any, was read before. -/
def readPath (cursor : Cursor) (localName : Option Text) : Except ScanError (Import × Cursor) :=
  match cursor.next with
  | .broken error => .error error
  | .finished line => .error { line, fault := .importPathExpected }
  | .lexeme lexeme behind =>
      match lexeme.kind with
      | .literal quote path =>
          .ok
            ({ localName, path, start := lexeme.start, stop := lexeme.stop, quote,
               line := lexeme.line },
              behind)
      | _ => .error { line := lexeme.line, fault := .importPathExpected }

/-- Read an import, which may be named by a word or by a dot. -/
def readImport (cursor : Cursor) : Except ScanError (Import × Cursor) :=
  match cursor.next with
  | .lexeme { kind := .word name, .. } behind => behind.readPath (some name)
  | .lexeme { kind := .mark '.', .. } behind => behind.readPath (some ['.'])
  | _ => cursor.readPath none

/-- Reading a path leaves a shorter text. -/
theorem length_of_readPath
    {cursor behind : Cursor}
    {localName : Option Text}
    {spec : Import}
    (read : cursor.readPath localName = .ok (spec, behind)) :
    behind.text.length < cursor.text.length := by
  unfold readPath at read
  split at read
  · cases read
  · cases read
  · next lexeme left step =>
      split at read
      · cases read
        exact length_of_next step
      · cases read

/-- Reading an import leaves a shorter text. -/
theorem length_of_readImport
    {cursor behind : Cursor}
    {spec : Import}
    (read : cursor.readImport = .ok (spec, behind)) :
    behind.text.length < cursor.text.length := by
  unfold readImport at read
  split at read
  · next step => exact Nat.lt_trans (length_of_readPath read) (length_of_next step)
  · next step => exact Nat.lt_trans (length_of_readPath read) (length_of_next step)
  · exact length_of_readPath read

/-- Read imports up to the parenthesis that closes their group. -/
def readGroup (cursor : Cursor) : Except ScanError (List Import × Cursor) :=
  match cursor.pastSemicolons.next with
  | .broken error => .error error
  | .finished line => .error { line, fault := .importBlockNotClosed }
  | .lexeme lexeme behind =>
      if lexeme.kind = .mark ')' then
        .ok ([], behind)
      else
        match _read : cursor.pastSemicolons.readImport with
        | .error error => .error error
        | .ok (spec, following) =>
            match following.readGroup with
            | .error error => .error error
            | .ok (specs, last) => .ok (spec :: specs, last)
  termination_by cursor.text.length
  decreasing_by
    exact Nat.lt_of_lt_of_le (length_of_readImport _read) (length_pastSemicolons cursor)

/-- Reading a group leaves a shorter text. -/
theorem length_of_readGroup
    {cursor last : Cursor}
    {specs : List Import}
    (read : cursor.readGroup = .ok (specs, last)) :
    last.text.length < cursor.text.length := by
  fun_induction readGroup cursor generalizing specs with
  | case1 => cases read
  | case2 => cases read
  | case3 cursor lexeme behind step _ =>
      cases read
      exact Nat.lt_of_lt_of_le (length_of_next step) (length_pastSemicolons cursor)
  | case4 => cases read
  | case5 => cases read
  | case6 cursor _ _ _ _ spec following found specs left rest inductionHypothesis =>
      cases read
      have shorter := inductionHypothesis rest
      have step :=
        Nat.lt_of_lt_of_le (length_of_readImport found) (length_pastSemicolons cursor)
      exact Nat.lt_trans shorter step

/-- Read what an import declaration imports: one import or a group in parentheses. -/
def readDeclaration (cursor : Cursor) : Except ScanError (List Import × Cursor) :=
  match cursor.next with
  | .lexeme { kind := .mark '(', .. } inside => inside.readGroup
  | _ =>
      match cursor.readImport with
      | .error error => .error error
      | .ok (spec, behind) => .ok ([spec], behind)

/-- Reading a declaration leaves a shorter text. -/
theorem length_of_readDeclaration
    {cursor behind : Cursor}
    {specs : List Import}
    (read : cursor.readDeclaration = .ok (specs, behind)) :
    behind.text.length < cursor.text.length := by
  unfold readDeclaration at read
  split at read
  · next step => exact Nat.lt_trans (length_of_readGroup read) (length_of_next step)
  · split at read
    · cases read
    · next found =>
        cases read
        exact length_of_readImport found

/-- Read import declarations up to the first other declaration. -/
def readImports (cursor : Cursor) : Except ScanError (List Import) :=
  match _step : cursor.pastSemicolons.next with
  | .broken error => .error error
  | .finished _ => .ok []
  | .lexeme lexeme behind =>
      if lexeme.kind = importWord then
        match _read : behind.readDeclaration with
        | .error error => .error error
        | .ok (specs, following) =>
            match following.readImports with
            | .error error => .error error
            | .ok others => .ok (specs ++ others)
      else
        .ok []
  termination_by cursor.text.length
  decreasing_by
    have declared := length_of_readDeclaration _read
    have stepped := length_of_next _step
    have passed := length_pastSemicolons cursor
    omega

/-- Read the name behind the word that starts the package clause. -/
def readPackage (cursor : Cursor) : Except ScanError (Text × Cursor) :=
  match cursor.next with
  | .broken error => .error error
  | .finished line => .error { line, fault := .packageExpected }
  | .lexeme lexeme behind =>
      if lexeme.kind = packageWord then
        match behind.next with
        | .broken error => .error error
        | .finished line => .error { line, fault := .packageNameExpected }
        | .lexeme { kind := .word name, .. } following => .ok (name, following)
        | .lexeme other _ => .error { line := other.line, fault := .packageNameExpected }
      else
        .error { line := lexeme.line, fault := .packageExpected }

end Cursor

namespace Header

/-- Read the header of a source. -/
def ofText (text : Text) : Except ScanError Header :=
  match (Cursor.ofText text).readPackage with
  | .error error => .error error
  | .ok (package, cursor) =>
      match cursor.readImports with
      | .error error => .error error
      | .ok imports => .ok { package, imports }

end Header

end Source

end ModuleUpdate
