import ModuleUpdate.Text.Direction
import ModuleUpdate.Text.Joining
import ModuleUpdate.Url.Mapping
import ModuleUpdate.Url.Punycode

namespace ModuleUpdate.Url

/-!
# Labels

A name consists of labels between dots.  A label that is not made of basic characters is sent in
Punycode behind a mark, and may be given so.
-/

/-- The mark in front of a label in Punycode. -/
def encodedMark : Text :=
  "xn--".toList

/-- The greatest number of characters that are written in Punycode. -/
def greatestDecoded : Nat :=
  1000

/-- The greatest number of characters of Punycode that are read. -/
def greatestEncoded : Nat :=
  2000

/-- Whether a text has basic characters only. -/
def isBasic (text : Text) : Bool :=
  text.all Punycode.isBasic

/-- A label: the characters that a reader sees, and those that are sent. -/
structure Label where
  shown : Text
  sent : Text
  deriving Repr, DecidableEq

namespace Label

/-- Whether a text with characters that are not basic may be a label. -/
def isValid (text : Text) : Bool :=
  text.length ≤ greatestDecoded && text.all isPermitted &&
    !(text.head?.map Text.isMark).getD false && Text.joinersHaveMeaning [] text

/-- The label that is given in Punycode. -/
def ofEncoded? (encoded : Text) : Option Label := do
  if greatestEncoded < encoded.length then
    none
  else
    let shown ← Punycode.decode? encoded
    if !isBasic shown && Text.composed shown == shown && isValid shown then
      some { shown, sent := encodedMark ++ encoded }
    else
      none

/-- The label that a part of a canonical name is. -/
def ofText? (text : Text) : Option Label :=
  match Text.after? encodedMark text with
  | some encoded => if isBasic encoded then ofEncoded? encoded else none
  | none =>
      if isBasic text then
        some { shown := text, sent := text }
      else if isValid text then
        some { shown := text, sent := encodedMark ++ Punycode.encode text }
      else
        none

end Label

end ModuleUpdate.Url
