import ModuleUpdate.Json
import ModuleUpdate.Manifest

namespace ModuleUpdate.Manifest

/-!
# Summaries of manifests

What a manifest says as one JSON object, in the shape in which the tools of the language print
it.  What is absent is left out.
-/

/-- A path and possibly a version, which is left out when it is empty. -/
def moduleVersion (path version : Text) : Json :=
  Json.ofMembers
    (("Path".toList, Json.string path) ::
      if version = [] then [] else [("Version".toList, Json.string version)])

/-- A requirement, with its marker where it is set. -/
def requirementSummary (requirement : Requirement) : Json :=
  Json.ofMembers
    ([("Path".toList, Json.string requirement.path),
        ("Version".toList, Json.string requirement.version)] ++
      if requirement.indirect then [("Indirect".toList, Json.bool true)] else [])

/-- A replacement with its two sides. -/
def replacementSummary (replacement : Replacement) : Json :=
  Json.ofMembers
    [("Old".toList, moduleVersion replacement.oldPath (replacement.oldVersion.getD [])),
      ("New".toList, moduleVersion replacement.newPath (replacement.newVersion.getD []))]

/-- The value of a single directive as a member, where it is there. -/
def valueMember (manifest : Manifest) (key : Text) (verb : Verb) : List (Text × Json) :=
  (manifest.value? verb).toList.map fun value => (key, Json.string value)

/-- The summary of a manifest. -/
def summary (manifest : Manifest) : Json :=
  let main := Json.ofMembers
    [("Path".toList, Json.string ((manifest.value? .mainModule).getD []))]
  let exclusionSummary := fun (exclusion : Exclusion) =>
    moduleVersion exclusion.path exclusion.version
  Json.ofMembers
    ([("Module".toList, main)] ++
      manifest.valueMember "Go".toList .language ++
      manifest.valueMember "Toolchain".toList .toolchain ++
      [("Require".toList, Json.array (manifest.requirements.map requirementSummary)),
        ("Exclude".toList, Json.array (manifest.exclusions.map exclusionSummary)),
        ("Replace".toList, Json.array (manifest.replacements.map replacementSummary))])

end ModuleUpdate.Manifest
