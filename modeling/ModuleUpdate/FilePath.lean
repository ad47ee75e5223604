import ModuleUpdate.Text

namespace ModuleUpdate.FilePath

/-!
# Spelled file paths

A file path as a user spells it: names separated by slashes, possibly with dots and superfluous
slashes.  Messages show paths as they are spelled, so joining keeps the spelling, while
components pass over what does not change the place.
-/

/-- The name that stands for the directory it is in. -/
def here : Text :=
  ['.']

/-- The name that stands for the directory above. -/
def above : Text :=
  ['.', '.']

/-- The greatest number of bytes that a name has. -/
def greatestName : Nat :=
  255

/-- The greatest number of bytes that a path is spelled with. -/
def greatestPath : Nat :=
  4095

/-- Whether a name is too long for a file or a directory. -/
def isLongName (name : Text) : Bool :=
  greatestName < name.byteLength

/-- Whether a path is too long to be followed, wherever it leads. -/
def isLong (path : Text) : Bool :=
  greatestPath < path.byteLength

/-- The path of a name in a directory. -/
def child (directory name : Text) : Text :=
  if directory = [] ∨ directory.getLast? = some '/' then
    directory ++ name
  else
    directory ++ '/' :: name

/-- The path of a place some names below a directory. -/
def descendant (directory : Text) (names : List Text) : Text :=
  names.foldl child directory

/-- A reversed path without the slashes, and the slashes in front of dots, that it ends with. -/
def dropTail : Text → Text
  | '/' :: character :: rest => dropTail (character :: rest)
  | '.' :: '/' :: character :: rest => dropTail (character :: rest)
  | path => path

/-- The path of a directory without the slashes and dots at its end. -/
def trimmed (path : Text) : Text :=
  (dropTail path.reverse).reverse

/-- The path of the directory some names below a directory. -/
def directoryBelow (directory : Text) (names : List Text) : Text :=
  match names with
  | [] => trimmed directory
  | _ :: _ => descendant directory names

/--
The components of a path.  Empty names count only at the front, where they stand for the root,
and a dot counts only as the first component.
-/
def components (path : Text) : List Text :=
  match path.splitOn '/' with
  | [] => []
  | first :: following =>
      let others := following.filter fun name => name ≠ [] ∧ name ≠ here
      if first ≠ [] then
        first :: others
      else if following = [] then
        []
      else
        ['/'] :: others

/-- A path relative to a directory above it; any other path keeps all its components. -/
def relativeTo (directory path : Text) : Text :=
  let own := components path
  Text.join ['/'] (((components directory).isPrefixOf? own).getD own)

end ModuleUpdate.FilePath
