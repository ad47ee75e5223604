import ModuleUpdate.Manifest.Error
import ModuleUpdate.Package
import ModuleUpdate.Registry.Repository
import ModuleUpdate.Request

namespace ModuleUpdate

/-!
# Failures

Why a request has no result.  One of the causes is that sorting breaks off, which ends the whole
program: such a request is not answered.
-/

/-- The causes for which a request has no result. -/
inductive Failure where
  | dependencyMissing
  | manifestNotFound (path : Text)
  | manifestUnreadable (path : Text) (fault : ReadFault)
  | manifest (error : ManifestError)
  | lookup (error : LookupError)
  | imports (error : ImportError)
  | noUsableProxy (setting : Text)
  | notDirectory (path : Text)
  | payload (fault : PayloadFault)
  | unreadable (path : Text) (fault : ReadFault)
  | unsortable
  deriving Repr, DecidableEq

namespace Failure

/-- The wording of a failure. -/
def message : Failure → Text
  | dependencyMissing => "invalid argument: dependency is required".toList
  | manifestNotFound path => "manifest file not found: ".toList ++ path
  | manifestUnreadable path fault =>
      "failed to read manifest file ".toList ++ path ++ ": ".toList ++ fault.message
  | manifest error => error.message
  | lookup error => error.message
  | imports error => error.message
  | noUsableProxy setting =>
      "no usable module proxy in GOPROXY '".toList ++ setting ++ "'".toList
  | notDirectory path => "invalid path '".toList ++ path ++ "': not a directory".toList
  | payload fault => "invalid request payload: ".toList ++ fault.message
  | unreadable path fault =>
      "failed to read ".toList ++ path ++ ": ".toList ++ fault.message
  | unsortable =>
      "user-provided comparison function does not correctly implement a total order".toList

end Failure

end ModuleUpdate
