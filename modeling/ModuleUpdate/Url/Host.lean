import ModuleUpdate.Url.DomainName
import ModuleUpdate.Url.Ipv4
import ModuleUpdate.Url.Ipv6
import ModuleUpdate.Url.Percent

namespace ModuleUpdate.Url

/-!
# Hosts

A host is given by an address in brackets, or by a name, possibly percent encoded.  A name may be an
address of four bytes.
-/

/-- What an address leads to. -/
inductive Host where
  | name (sent : Text)
  | ipv4 (address : Ipv4)
  | ipv6 (address : Ipv6)
  deriving Repr, DecidableEq

namespace Host

/-- The host that a text spells. -/
def ofText? : Text → Option Host
  | '[' :: rest => do
      let inside ← Text.before? [']'] rest
      (Ipv6.ofText? inside).map ipv6
  | text => do
      let sent ← domainName? (← decodeText? text)
      if sent = [] then
        none
      else if Ipv4.isNumeric sent then
        (Ipv4.ofText? sent).map ipv4
      else
        some (name sent)

/-- The text of a host. -/
def toText : Host → Text
  | name sent => sent
  | ipv4 address => address.toText
  | ipv6 address => '[' :: address.toText ++ [']']

/-- The characters of a name with which no request can be sent. -/
def unsendable : Text :=
  ['"', '\u0060', '\x7b', '\x7d']

/-- Whether a request can be sent to a host. -/
def isSendable : Host → Bool
  | name sent => !sent.any unsendable.contains
  | _ => true

end Host

end ModuleUpdate.Url
