import ModuleUpdate.FilePath

namespace ModuleUpdate

/-!
# File trees

A file tree holds the files of a system by their locations, and the directories that have to
exist whether they hold a file or not.  Every directory above one of these exists as well.
Spelled paths are resolved from the current directory, unless they are too long or hold the
character that ends a path for the system.
-/

/-- A place in a file tree: the names on the way from its root. -/
abbrev Location := List Text

/-- The files of a system, one at a location at most. -/
structure FileTree where
  current : Location := []
  directories : List Location := []
  files : List (Location × ByteArray) := []
  distinct : (files.map Prod.fst).Nodup := by simp

/-- What a spelled path leads to. -/
inductive Entry where
  | directory (location : Location)
  | file (location : Location) (bytes : ByteArray)
  | missing
  | belowFile
  | tooLong
  | holdsNull

/-- Why a file is not read. -/
inductive ReadFault where
  | missing
  | belowFile
  | tooLong
  | holdsNull
  | isDirectory
  | notText
  deriving Repr, DecidableEq

namespace ReadFault

/-- The wording of a fault. -/
def message : ReadFault → Text
  | missing => "No such file or directory (os error 2)".toList
  | belowFile => "Not a directory (os error 20)".toList
  | tooLong => "File name too long (os error 36)".toList
  | holdsNull => "file name contained an unexpected NUL byte".toList
  | isDirectory => "Is a directory (os error 21)".toList
  | notText => "stream did not contain valid UTF-8".toList

end ReadFault

namespace FileTree

/-- The bytes of the file at a location. -/
def file? (tree : FileTree) (location : Location) : Option ByteArray :=
  tree.files.lookup location

/-- Whether a location is a directory. -/
def isDirectory (tree : FileTree) (location : Location) : Bool :=
  location = [] ||
    (tree.current :: tree.directories).any location.isPrefixOf ||
    tree.files.any fun (other, _) => location.isPrefixOf other && location ≠ other

/--
The ways from a location down to directories that have to exist.  Those that are passed on a way
need not have one of their own.
-/
def waysDown (tree : FileTree) (location : Location) : List Location :=
  (tree.current :: tree.directories).filterMap location.isPrefixOf? ++
    tree.files.filterMap fun (other, _) => (location.isPrefixOf? other).map List.dropLast

/-- The location that a name leads to from a directory. -/
def step (directory : Location) (name : Text) : Location :=
  if name = [] ∨ name = FilePath.here then
    directory
  else if name = FilePath.above then
    directory.dropLast
  else
    directory ++ [name]

/-- Whether a name leads to something in the directory that it is followed from. -/
def leadsDown (name : Text) : Bool :=
  name ≠ [] && name ≠ FilePath.here && name ≠ FilePath.above

/-- Follow names from a directory. -/
def follow (tree : FileTree) (directory : Location) : List Text → Entry
  | [] => .directory directory
  | name :: following =>
      let next := step directory name
      if FilePath.isLongName name then
        .tooLong
      else if leadsDown name then
        match tree.file? next with
        | some bytes => if following = [] then .file next bytes else .belowFile
        | none => if tree.isDirectory next then tree.follow next following else .missing
      else
        tree.follow next following

/-- What a spelled path leads to.  One that cannot be given to the system is not followed at all. -/
def resolve (tree : FileTree) (path : Text) : Entry :=
  if path.contains '\x00' then
    .holdsNull
  else if FilePath.isLong path then
    .tooLong
  else
    match path with
    | [] => .missing
    | '/' :: rest => tree.follow [] (rest.splitOn '/')
    | relative => tree.follow tree.current (relative.splitOn '/')

/-- The locations that names lead through from a directory, which is the first of them. -/
def wayFrom (directory : Location) : List Text → List Location
  | [] => [directory]
  | name :: following => directory :: wayFrom (step directory name) following

/-- The locations that a spelled path leads through. -/
def way (current : Location) : Text → List Location
  | [] => []
  | '/' :: rest => wayFrom [] (rest.splitOn '/')
  | relative => wayFrom current (relative.splitOn '/')

/-- Whether a location is too deep to be spelled in full. -/
def isTooDeep (location : Location) : Bool :=
  FilePath.isLong (FilePath.descendant ['/'] location)

/-- Whether each place that names lead down to from a directory can be spelled in full. -/
def resolvesFrom (directory : Location) : List Text → Bool
  | [] => true
  | name :: following =>
      let next := step directory name
      !(leadsDown name && isTooDeep next) && resolvesFrom next following

/--
Whether the full path of the place that a spelled path leads to can be found out.  The system does
so name by name, and stops where the full path of a place on the way is too long.
-/
def isResolvable (tree : FileTree) : Text → Bool
  | '/' :: rest => resolvesFrom [] (rest.splitOn '/')
  | relative => resolvesFrom tree.current (relative.splitOn '/')

/-- The directory that a spelled path leads to. -/
def directory? (tree : FileTree) (path : Text) : Option Location :=
  match tree.resolve path with
  | .directory location => some location
  | _ => none

/-- Read the text of the file that a spelled path leads to. -/
def read (tree : FileTree) (path : Text) : Except ReadFault Text :=
  match tree.resolve path with
  | .file _ bytes =>
      match Text.ofBytes? bytes with
      | some text => .ok text
      | none => .error .notText
  | .directory _ => .error .isDirectory
  | .missing => .error .missing
  | .belowFile => .error .belowFile
  | .tooLong => .error .tooLong
  | .holdsNull => .error .holdsNull

/-- The files with other bytes at a location. -/
def replaceFile
    (location : Location)
    (bytes : ByteArray)
    (files : List (Location × ByteArray)) :
    List (Location × ByteArray) :=
  files.map fun (other, old) => if other = location then (other, bytes) else (other, old)

/-- Other bytes do not move a file. -/
theorem locations_replaceFile
    (location : Location)
    (bytes : ByteArray)
    (files : List (Location × ByteArray)) :
    (replaceFile location bytes files).map Prod.fst = files.map Prod.fst := by
  unfold replaceFile
  rw [List.map_map]
  apply List.map_congr_left
  rintro ⟨other, old⟩ _
  simp only [Function.comp_apply]
  split <;> rfl

/-- Put a file at a location in place of the one that is there. -/
def write (tree : FileTree) (location : Location) (bytes : ByteArray) : FileTree :=
  if listed : location ∈ tree.files.map Prod.fst then
    { tree with
      files := replaceFile location bytes tree.files
      distinct := locations_replaceFile location bytes tree.files ▸ tree.distinct }
  else
    { tree with
      files := tree.files ++ [(location, bytes)]
      distinct := by
        rw [List.map_append, List.nodup_append]
        refine ⟨tree.distinct, by simp, ?_⟩
        intro other member place isNew same
        rw [same, List.mem_singleton.mp isNew] at member
        exact listed member }

/-- Make a directory at a location. -/
def makeDirectory (tree : FileTree) (location : Location) : FileTree :=
  { tree with directories := location :: tree.directories }

/--
Take away what is at and below a location; the directory that held it stays.  Where nothing is,
there is nothing to take away.
-/
def remove (tree : FileTree) (location : Location) : FileTree :=
  if (tree.file? location).isNone && !tree.isDirectory location then
    tree
  else
    { tree with
      directories :=
        (tree.directories.filter fun other => !location.isPrefixOf other) ++
          [location.dropLast]
      files := tree.files.filter fun (other, _) => !location.isPrefixOf other
      distinct := tree.distinct.sublist (List.filter_sublist.map Prod.fst) }

/--
The files that a tree has otherwise than an earlier one, and those that it no longer has, which
come without bytes.
-/
def changesSince (tree earlier : FileTree) : List (Location × Option ByteArray) :=
  let written :=
    tree.files.filter fun (location, bytes) =>
      (earlier.file? location).map ByteArray.data ≠ some bytes.data
  let removed := earlier.files.filter fun (location, _) => (tree.file? location).isNone
  written.map (fun (location, bytes) => (location, some bytes)) ++
    removed.map fun (location, _) => (location, none)

end FileTree

end ModuleUpdate
