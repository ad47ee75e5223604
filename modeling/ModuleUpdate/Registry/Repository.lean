import ModuleUpdate.Text

namespace ModuleUpdate

/-!
# Repositories

A repository lists the versions of modules, or tells why it cannot.
-/

/-- Why the versions of a module are not known. -/
inductive LookupError where
  | moduleNotFound (path repository : Text)
  | networkError (path repository reason : Text)
  | invalidResponse (path repository reason : Text)
  | timeout (path repository : Text)
  deriving Repr, DecidableEq

namespace LookupError

/-- The wording of an error. -/
def message : LookupError → Text
  | moduleNotFound path repository =>
      "module '".toList ++ path ++ "' not found in ".toList ++ repository
  | networkError path repository reason =>
      "failed to fetch versions of '".toList ++ path ++ "' from ".toList ++ repository ++
        ": ".toList ++ reason
  | invalidResponse path repository reason =>
      "invalid response from ".toList ++ repository ++ " for '".toList ++ path ++
        "': ".toList ++ reason
  | timeout path repository =>
      "timeout while fetching '".toList ++ path ++ "' from ".toList ++ repository

/-- Whether the error says that the module has no versions. -/
def isNotFound : LookupError → Bool
  | moduleNotFound .. => true
  | _ => false

end LookupError

/-- A source of versions, with the name that messages give it. -/
structure Repository where
  name : Text
  versions : Text → Except LookupError (List Text)

namespace Repository

/-- A repository of known modules, each listed in the given order. -/
def ofModules (name : Text) (modules : List (Text × List Text)) : Repository :=
  { name
    versions := fun path =>
      match modules.lookup path with
      | some versions => .ok versions
      | none => .error (.moduleNotFound path name) }

end Repository

end ModuleUpdate
