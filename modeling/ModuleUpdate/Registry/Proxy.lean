import ModuleUpdate.Sorting
import ModuleUpdate.Url
import ModuleUpdate.Version
import ModuleUpdate.Registry.Repository
import ModuleUpdate.Registry.Status

namespace ModuleUpdate.Proxy

/-!
# Module proxies

A module proxy answers with the list of a module's versions under an address that is made of its
own and the module path.  In that path an exclamation mark and the lowercase form stand for an
uppercase letter.  The list comes in no particular order and is sorted ascending.
-/

/-- Whether a text is the address of a proxy. -/
def isAddress (text : Text) : Bool :=
  "https://".toList.isPrefixOf text || "http://".toList.isPrefixOf text

/-- A text without the slashes it ends with. -/
def dropSlashes (text : Text) : Text :=
  (text.reverse.dropWhile (· = '/')).reverse

/-- The entries of a proxy setting, which commas and bars separate, up to the one that says off. -/
def entries (setting : Text) : List Text :=
  let separates := fun character => character == ',' || character == '|'
  ((setting.splitOnP separates).map Text.trim).takeWhile (· ≠ "off".toList)

/-- The first entry of a proxy setting that is an address, without slashes at its end. -/
def ofSetting? (setting : Text) : Option Text :=
  ((entries setting).find? isAddress).map dropSlashes

/-- A module path with its uppercase letters escaped. -/
def escape (path : Text) : Text :=
  path.flatMap fun character =>
    if Text.isUppercase character then '!' :: Text.lowercase character else [character]

/-- The address of a module's version list. -/
def listAddress (base path : Text) : Text :=
  base ++ '/' :: escape path ++ "/@v/list".toList

/-- The versions in the text of a list, ascending and each once. -/
def versions (body : Text) : List Text :=
  let listed := ((Text.lines body).map Text.trim).filter (· ≠ [])
  (stableSort (fun left right => (Version.order left right).isLT) listed).eraseReps

/-- What comes of a request. -/
inductive Exchange where
  | unreachable
  | dropped
  | truncated
  | answered (status : Nat) (body : Text)
  deriving Repr, DecidableEq

/-- What comes of a request to each address. -/
abbrev Network := Text → Exchange

namespace Network

/-- The network on which no server is reached. -/
def unreachable : Network :=
  fun _ => .unreachable

/-- Whether a request to an address reaches a server. -/
def reaches (network : Network) (address : Text) : Bool :=
  network address ≠ .unreachable

end Network

/-- The address that is asked for a module's versions, or the reason why none can be asked. -/
def requestedAddress (base path : Text) : Except Text Text :=
  match Url.ofText? (listAddress base path) with
  | none => .error "builder error".toList
  | some url =>
      let shown := url.requested.toText
      if url.requested.isSendable then
        .ok shown
      else
        .error ("builder error for url (".toList ++ shown ++ [')'])

/-- The versions that come of a request to an address. -/
def versionsOf (base path address : Text) : Exchange → Except LookupError (List Text)
  | .unreachable | .dropped =>
      .error
        (.networkError path base
          ("error sending request for url (".toList ++ address ++ [')']))
  | .truncated =>
      .error
        (.invalidResponse path base
          ("error decoding response body for url (".toList ++ address ++ [')']))
  | .answered status body =>
      if Status.isSuccess status then
        .ok (versions (if status = Status.noContent then [] else body))
      else if Status.isAbsence status then
        .error (.moduleNotFound path base)
      else
        .error (.networkError path base ("HTTP ".toList ++ Status.describe status))

/-- The versions of a module, as a proxy lists them. -/
def lookUp (network : Network) (base path : Text) : Except LookupError (List Text) :=
  match requestedAddress base path with
  | .error reason => .error (.networkError path base reason)
  | .ok address => versionsOf base path address (network address)

/-- The repository that a proxy is, whose name is its address. -/
def repository (network : Network) (base : Text) : Repository :=
  { name := base
    versions := lookUp network base }

/-- The addresses at which a server is reached in looking up modules, in turn. -/
def reached (network : Network) (base : Text) (paths : List Text) : List Text :=
  paths.filterMap fun path =>
    match requestedAddress base path with
    | .error _ => none
    | .ok address => if network.reaches address then some address else none

end ModuleUpdate.Proxy
