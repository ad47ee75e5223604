import ModuleUpdate.Url.Host
import ModuleUpdate.Url.Path

namespace ModuleUpdate

/-!
# Addresses

An address is read into its parts, and each part is kept in its normal form: the host as it is sent,
without the number of the service that its scheme implies, dots resolved in the path, and every
character that a part cannot hold percent encoded.  The scheme is one of `http` and `https`.
-/

/-- An address. -/
structure Url where
  scheme : Text
  user : Text
  password : Text
  host : Url.Host
  service : Option Nat
  path : Text
  query : Text
  fragment : Text
  deriving Repr, DecidableEq

namespace Url

/-- The characters that are encoded in the name of a user and in a password. -/
def refusedInCredentials : Text :=
  refusedInPath ++ ['/', ':', ';', '=', '@', '[', '\\', ']', '^', '|']

/-- The characters that are encoded in a query. -/
def refusedInQuery : Text :=
  [' ', '"', '#', '<', '>', '\u0027']

/-- The characters that are encoded in a fragment. -/
def refusedInFragment : Text :=
  [' ', '"', '<', '>', '\u0060']

/-- A part that starts with a mark, in its normal form; without the mark there is none. -/
def normalPart (refused : Text) : Text → Text
  | [] => []
  | mark :: part => mark :: encode refused part

/-- The number of the service that a scheme implies. -/
def impliedService (scheme : Text) : Nat :=
  if scheme = "https".toList then 443 else 80

/-- The greatest number of a service. -/
def greatestService : Nat :=
  65535

/-- The number of a service behind its colon; without digits there is none. -/
def service? : Text → Option (Option Nat)
  | [] => some none
  | _ :: digits =>
      if digits = [] then
        some none
      else
        ((Text.natural? digits).filter (· ≤ greatestService)).map some

/-- The text of a host up to the colon behind it; in brackets a colon belongs to the host. -/
def hostText (isInside : Bool) : Text → Text
  | [] => []
  | character :: rest =>
      if character = ':' ∧ isInside = false then
        []
      else
        character :: hostText (character = '[' || (isInside && character ≠ ']')) rest

/-- The characters that an address is read without. -/
def isSkipped (character : Char) : Bool :=
  character == '\t' || character == '\n' || character == '\r'

/-- The address that a text spells. -/
def ofText? (text : Text) : Option Url := do
  let text := text.filter fun character => !isSkipped character
  let scheme := text.takeWhile (· ≠ ':')
  let behindScheme := (text.drop (scheme.length + 1)).dropWhile isSlash
  let isInAuthority := fun character =>
    !isSlash character && character != '?' && character != '#'
  let authority := behindScheme.takeWhile isInAuthority
  let behindAuthority := behindScheme.drop authority.length
  let path := behindAuthority.takeWhile fun character => character != '?' && character != '#'
  let behindPath := behindAuthority.drop path.length
  let query := behindPath.takeWhile (· ≠ '#')
  let (credentials, place) := (Text.splitAtLast? ['@'] authority).getD ([], authority)
  let user := credentials.takeWhile (· ≠ ':')
  let spelledHost := hostText false place
  let service ← service? (place.drop spelledHost.length)
  some
    { scheme
      user := encode refusedInCredentials user
      password := encode refusedInCredentials (credentials.drop (user.length + 1))
      host := ← Host.ofText? spelledHost
      service := service.filter (· ≠ impliedService scheme)
      path := normalPath path
      query := normalPart refusedInQuery query
      fragment := normalPart refusedInFragment (behindPath.drop query.length) }

/-- The name of the user and the password in front of the host. -/
def credentialsText (url : Url) : Text :=
  if url.user = [] ∧ url.password = [] then
    []
  else
    url.user ++ (if url.password = [] then [] else ':' :: url.password) ++ ['@']

/-- The text of an address. -/
def toText (url : Url) : Text :=
  let service :=
    match url.service with
    | some number => ':' :: Text.ofNatural number
    | none => []
  url.scheme ++ "://".toList ++ url.credentialsText ++ url.host.toText ++ service ++ url.path ++
    url.query ++ url.fragment

/-- Whether the credentials of an address can be sent beside it. -/
def hasReadableCredentials (url : Url) : Bool :=
  (decodeText? url.user).isSome &&
    (url.user ≠ [] || (url.password ≠ [] && (decodeText? url.password).isSome))

/-- The address a request names: readable credentials are sent beside it and are no part of it. -/
def requested (url : Url) : Url :=
  if url.hasReadableCredentials then { url with user := [], password := [] } else url

/-- The number of bytes from which on an address is too long for a request. -/
def lengthLimit : Nat :=
  65535

/-- Whether a request can name an address. -/
def isSendable (url : Url) : Bool :=
  url.host.isSendable && Text.byteLength url.toText < lengthLimit

end Url

end ModuleUpdate
