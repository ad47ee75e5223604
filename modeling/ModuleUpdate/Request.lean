import ModuleUpdate.Dependency
import ModuleUpdate.Json.Reading

namespace ModuleUpdate

/-!
# Requests

What a caller asks for, decoded from JSON.  A record is written as an object or as the array of
its fields in order, where fields at the end may be missing if they have a default.  Members that
are not known are passed over.
-/

/-- What can be asked for. -/
inductive Task where
  | updateDependencies
  | selectVersion
  | summarize
  deriving Repr, DecidableEq

/-- Why a payload is refused. -/
inductive PayloadFault where
  | malformed
  | unexpected
  | unknownTask (name : Text)
  deriving Repr, DecidableEq

namespace PayloadFault

/-- The wording of a fault. -/
def message : PayloadFault → Text
  | malformed => "malformed JSON".toList
  | unexpected => "unexpected value".toList
  | unknownTask name => "unknown function: ".toList ++ name

end PayloadFault

namespace Task

/-- The name under which a task is asked for. -/
def name : Task → Text
  | updateDependencies => "updateDependencyFile".toList
  | selectVersion => "getUpdatedVersion".toList
  | summarize => "editJson".toList

/-- The other spelling under which the summary is asked for. -/
def otherSummaryName : Text :=
  "editJSON".toList

/-- The task that a name asks for. -/
def ofName (requested : Text) : Except PayloadFault Task :=
  if requested = otherSummaryName then
    .ok summarize
  else
    match [updateDependencies, selectVersion, summarize].find? (·.name == requested) with
    | some task => .ok task
    | none => .error (.unknownTask requested)

end Task

namespace Json

/-- The members of a record, whose fields have the given keys in order. -/
def fields? (keys : List Text) : Json → Option (List (Text × Json))
  | object members => some members
  | array items => if items.length ≤ keys.length then some (keys.zip items) else none
  | _ => none

/-- A string. -/
def text? : Json → Option Text
  | string text => some text
  | _ => none

/-- A string or null. -/
def optionalText? : Json → Option (Option Text)
  | null => some none
  | string text => some (some text)
  | _ => none

/-- An array whose items are all decoded. -/
def items? (decode? : Json → Option α) : Json → Option (List α)
  | array items => items.mapM decode?
  | _ => none

end Json

namespace Dependency

/-- The keys of a dependency's fields. -/
def keys : List Text :=
  ["name".toList, "version".toList, "previousVersion".toList, "indirect".toList]

/-- The other spelling of the key of the earlier version. -/
def otherPreviousKey : Text :=
  "previous_version".toList

/-- The earlier version of a dependency, under one of its two keys; a blank one is none. -/
def previous? (members : List (Text × Json)) : Option (Option Text) :=
  match members.lookup "previousVersion".toList, members.lookup otherPreviousKey with
  | some _, some _ => none
  | some value, none | none, some value =>
      value.optionalText?.map fun previous => previous.filter fun text => Text.trim text ≠ []
  | none, none => some none

/-- Decode a dependency and bring its versions to their canonical spelling. -/
def ofJson? (value : Json) : Option Dependency := do
  let members ← value.fields? keys
  let name ← (← members.lookup "name".toList).text?
  let version ← (← members.lookup "version".toList).text?
  let previous ← previous? members
  match members.lookup "indirect".toList with
  | none => some (ofVersions name version previous)
  | some (.bool indirect) => some (ofVersions name version previous indirect)
  | some _ => none

/-- A dependency as an object. -/
def toJson (dependency : Dependency) : Json :=
  Json.ofMembers
    ([("name".toList, Json.string dependency.name),
        ("version".toList, Json.string dependency.version),
        ("indirect".toList, Json.bool dependency.indirect)] ++
      dependency.previous.toList.map fun previous =>
        ("previousVersion".toList, Json.string previous))

end Dependency

namespace Request

/-- The dependencies to update. -/
structure Update where
  dependencies : List Dependency
  deriving Repr, DecidableEq

/-- The dependency to find a version for, and the versions that must not be selected. -/
structure Selection where
  dependency : Option Dependency
  exclusions : List Text
  deriving Repr, DecidableEq

/-- The name of a task and its arguments. -/
structure Call where
  name : Text
  arguments : Json
  deriving Repr

/-- The value of a payload; a blank one is an empty object. -/
def payload (text : Text) : Except PayloadFault Json :=
  if Text.trim text = [] then
    .ok (.object [])
  else
    match Json.ofText? text with
    | some value => .ok value
    | none => .error .malformed

/-- Decode arguments, in place of which null is an empty object. -/
def decode (decode? : Json → Option α) (arguments : Json) : Except PayloadFault α :=
  let value :=
    match arguments with
    | .null => .object []
    | other => other
  match decode? value with
  | some decoded => .ok decoded
  | none => .error .unexpected

namespace Update

/-- Decode the dependencies to update, of which there are none by default. -/
def ofJson? (value : Json) : Option Update := do
  let key := "dependencies".toList
  let members ← value.fields? [key]
  match members.lookup key with
  | none => some { dependencies := [] }
  | some items => (items.items? Dependency.ofJson?).map fun dependencies => { dependencies }

end Update

namespace Selection

/-- The dependency among members, which may be missing or null. -/
def dependency? (members : List (Text × Json)) : Option (Option Dependency) :=
  match members.lookup "dependency".toList with
  | none | some .null => some none
  | some value => (Dependency.ofJson? value).map some

/-- Decode the dependency to find a version for, and the exclusions. -/
def ofJson? (value : Json) : Option Selection := do
  let members ← value.fields? ["dependency".toList, "exclusions".toList]
  let dependency ← dependency? members
  match members.lookup "exclusions".toList with
  | none => some { dependency, exclusions := [] }
  | some items => (items.items? Json.text?).map fun exclusions => { dependency, exclusions }

end Selection

namespace Call

/-- Decode the name of a task and its arguments, which are null by default. -/
def ofJson? (value : Json) : Option Call := do
  let members ← value.fields? ["function".toList, "args".toList]
  let name ← (← members.lookup "function".toList).text?
  some { name, arguments := (members.lookup "args".toList).getD .null }

end Call

end Request

end ModuleUpdate
