import ModuleUpdate.FileTree
import ModuleUpdate.Sorting
import ModuleUpdate.Source.Header

namespace ModuleUpdate

/-!
# Packages

The packages of a module are the directories below its root that hold sources.  The directory of
a nested module, and directories with certain names, are left out with all that is below them.
A directory contributes its libraries, their tests together with the library files they are
built with, and the external tests.  Directories and files are reached by their paths from the
path of the root, which can grow too long on the way.
-/

/-- The file whose presence makes a directory the root of a module. -/
def manifestName : Text :=
  "go.mod".toList

/-- A source with its names on the way from the root of its module. -/
structure SourceFile where
  names : Location
  text : Text
  header : Source.Header
  deriving Repr, DecidableEq

/-- Why the packages of a directory cannot be loaded. -/
inductive ImportError where
  | notDirectory (path : Text)
  | unlistable (root path : Text) (fault : ReadFault)
  | unreadable (path : Text) (fault : ReadFault)
  | malformed (path : Text) (error : ScanError)
  deriving Repr, DecidableEq

namespace ImportError

/-- The wording of an error. -/
def message : ImportError → Text
  | notDirectory path =>
      "failed to load packages under ".toList ++ path ++ ": not a directory".toList
  | unlistable root path fault =>
      "failed to load packages under ".toList ++ root ++
        ": IO error for operation on ".toList ++ path ++ ": ".toList ++ fault.message
  | unreadable path fault =>
      "failed to load packages under ".toList ++ path ++ ": ".toList ++ fault.message
  | malformed path error =>
      path ++ ':' :: Text.ofNatural error.line ++ ": ".toList ++ error.fault.message

end ImportError

namespace SourceFile

/-- Names that hide a file or a directory from the tools. -/
def isHiddenName (name : Text) : Bool :=
  name.head? == some '.' || name.head? == some '_'

/-- The names of source files. -/
def isSourceName (name : Text) : Bool :=
  ".go".toList.isSuffixOf name && !isHiddenName name

/-- Directories with these names are no part of a module's packages. -/
def isIgnoredName (name : Text) : Bool :=
  name == "vendor".toList || name == "testdata".toList || isHiddenName name

/--
Whether a directory is seen to be the root of a module.  A manifest whose path is too long is not
seen.
-/
def holdsManifest (tree : FileTree) (path : Text) (directory : Location) : Bool :=
  !FilePath.isLong (FilePath.child path manifestName) &&
    (tree.file? (directory ++ [manifestName])).isSome

/-- Whether names lead from the root of a module through directories of its own. -/
def isOwnDirectory (tree : FileTree) (path : Text) (root : Location) : Location → Bool
  | [] => true
  | name :: following =>
      let directory := root ++ [name]
      let spelled := FilePath.child path name
      !isIgnoredName name && !holdsManifest tree spelled directory &&
        isOwnDirectory tree spelled directory following

/-- A file below a root whose name and directories make it a source of the root's module. -/
def isEligible (tree : FileTree) (path : Text) (root names : Location) : Bool :=
  names.getLast?.any isSourceName && isOwnDirectory tree path root names.dropLast

/-- The first directory of a module, in order of names, whose path is too long to list it. -/
def unlistable? (tree : FileTree) (path : Text) (root : Location) : Option Location :=
  let isLong := fun (names : Location) => FilePath.isLong (FilePath.descendant path names)
  let directories :=
    ((tree.waysDown root).filter isLong).flatMap fun names =>
      (List.range' 1 names.length).map names.take
  let unlistable :=
    directories.filter fun names => isLong names && isOwnDirectory tree path root names
  (stableSort (fun left right => (compare left right).isLT) unlistable).head?

/-- The directory of a file, as names on the way from the root. -/
def directory (file : SourceFile) : Location :=
  file.names.dropLast

/-- Whether a file holds tests. -/
def isTest (file : SourceFile) : Bool :=
  file.names.getLast?.any ("_test.go".toList).isSuffixOf

/-- Whether a package has the name of an external test. -/
def isExternalName (package : Text) : Bool :=
  "_test".toList.isSuffixOf package

/-- The order of files: first by directory, then by name. -/
def precedes (left right : Location × ByteArray) : Bool :=
  ((compare left.1.dropLast right.1.dropLast).then (compare left.1 right.1)).isLT

/-- The eligible files below a root with their names from there, in order. -/
def eligible (tree : FileTree) (path : Text) (root : Location) : List (Location × ByteArray) :=
  stableSort precedes
    (tree.files.filterMap fun (location, bytes) =>
      (root.isPrefixOf? location).bind fun names =>
        if isEligible tree path root names then some (names, bytes) else none)

/-- Read one file; its path serves the messages. -/
def ofBytes (path : Text) (names : Location) (bytes : ByteArray) :
    Except ImportError SourceFile :=
  if FilePath.isLong path then
    .error (.unreadable path .tooLong)
  else
    match Text.ofBytes? bytes with
    | none => .error (.unreadable path .notText)
    | some text =>
        match Source.Header.ofText text with
        | .error error => .error (.malformed path error)
        | .ok header => .ok { names, text, header }

/-- Read files in order up to the first that cannot be read. -/
def readAll (path : Text) : List (Location × ByteArray) → Except ImportError (List SourceFile)
  | [] => .ok []
  | (names, bytes) :: following =>
      match ofBytes (FilePath.descendant path names) names bytes with
      | .error error => .error error
      | .ok file =>
          match readAll path following with
          | .error error => .error error
          | .ok files => .ok (file :: files)

end SourceFile

/-- The builds of a package. -/
inductive Variant where
  | library
  | test
  | externalTest
  deriving Repr, DecidableEq

/-- A build of a package: its directory from the root, its name and its files in order. -/
structure Package where
  directory : Location
  name : Text
  variant : Variant
  files : List SourceFile
  deriving Repr, DecidableEq

namespace Package

/-- The distinct package names of files, sorted. -/
def names (files : List SourceFile) : List Text :=
  sortedSet (files.map fun file => file.header.package)

/-- The files that name their package so. -/
def named (files : List SourceFile) (name : Text) : List SourceFile :=
  files.filter fun file => file.header.package == name

/-- The builds that the files of one directory make up. -/
def ofDirectory (directory : Location) (files : List SourceFile) : List Package :=
  let libraries := files.filter fun file => !file.isTest
  let external := fun (file : SourceFile) => SourceFile.isExternalName file.header.package
  let tests := files.filter fun file => file.isTest && !external file
  let externalTests := files.filter fun file => file.isTest && external file
  (names libraries).map (fun name =>
      { directory, name, variant := .library, files := named libraries name }) ++
    (names tests).map (fun name =>
      { directory, name, variant := .test, files := named libraries name ++ named tests name }) ++
    (names externalTests).map fun name =>
      { directory, name, variant := .externalTest, files := named externalTests name }

/-- The builds that files in order make up, directory by directory. -/
def ofFiles (files : List SourceFile) : List Package :=
  (files.map SourceFile.directory).eraseReps.flatMap fun directory =>
    ofDirectory directory (files.filter fun file => file.directory == directory)

end Package

/-- The sources of a module, whose root is a directory, and the packages they make up. -/
structure PackageGraph where
  root : Location
  files : List SourceFile
  packages : List Package
  deriving Repr, DecidableEq

namespace PackageGraph

/--
Load the packages below a directory.  One directory that cannot be listed or one source that
cannot be read fails the whole load.
-/
def load (tree : FileTree) (path : Text) : Except ImportError PackageGraph :=
  match tree.directory? path with
  | none => .error (.notDirectory path)
  | some root =>
      match SourceFile.unlistable? tree path root with
      | some names =>
          .error (.unlistable path (FilePath.descendant path names) .tooLong)
      | none =>
          match SourceFile.readAll path (SourceFile.eligible tree path root) with
          | .error error => .error error
          | .ok files => .ok { root, files, packages := Package.ofFiles files }

/-- The files of all packages, each where it is met first. -/
def visited (graph : PackageGraph) : List SourceFile :=
  (graph.packages.flatMap Package.files).eraseDupsBy fun left right => left.names == right.names

end PackageGraph

end ModuleUpdate
