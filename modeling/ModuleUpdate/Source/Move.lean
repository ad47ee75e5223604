import ModuleUpdate.ModulePath
import ModuleUpdate.Source.Header

namespace ModuleUpdate.Source

/-!
# Moving imports

Imports of one module are redirected to another by replacing the literals that spell their paths.
Each new literal keeps the style of the old one, and nothing else in the source changes.
-/

/-- A replacement for the bytes from one offset up to another. -/
structure Edit where
  start : Nat
  stop : Nat
  replacement : Text
  deriving Repr, DecidableEq

/-- Carry out edits in ascending order on the text that starts at an offset. -/
def applyEdits (offset : Nat) : List Edit → Text → Text
  | [], text => text
  | edit :: following, text =>
      let (before, found) := Text.splitAtByte (edit.start - offset) text
      let (_, behind) := Text.splitAtByte (edit.stop - edit.start) found
      before ++ edit.replacement ++ applyEdits edit.stop following behind

/-- The edit that moves an import, where it belongs to the old module. -/
def Import.edit? (spec : Import) (old new : Text) : Option Edit :=
  (ModulePath.move? spec.path old new).map fun path =>
    { start := spec.start, stop := spec.stop, replacement := spec.quote.literal path }

/-- The edits that move the imports of a header. -/
def Header.edits (header : Header) (old new : Text) : List Edit :=
  header.imports.filterMap fun spec => spec.edit? old new

/-- A source with its imports moved from one module to another, where any belongs to it. -/
def moveImports? (text : Text) (header : Header) (old new : Text) : Option Text :=
  match header.edits old new with
  | [] => none
  | edits => some (applyEdits 0 edits text)

end ModuleUpdate.Source
