import ModuleUpdate.Text

namespace ModuleUpdate

/-!
# Notes

What a run tells beside its answer, on request only.
-/

/-- One thing worth telling about a run. -/
inductive Note where
  | step (message : Text)
  | detail (label message : Text)
  | changed (path : Text)
  | warning (message : Text)
  deriving Repr, DecidableEq

namespace Note

/-- The line that a note takes. -/
def toText : Note → Text
  | step message => "==> ".toList ++ message
  | detail label message => "    ".toList ++ label ++ ": ".toList ++ message
  | changed path => "    rewrote ".toList ++ path
  | warning message => "warning: ".toList ++ message

end Note

end ModuleUpdate
