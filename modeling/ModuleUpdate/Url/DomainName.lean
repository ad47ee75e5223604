import ModuleUpdate.Url.Label

namespace ModuleUpdate.Url

/-!
# Domain names

The name of a host as it is sent: labels of basic characters between dots.  If a name has a label
from right to left, every label keeps to one direction.
-/

/-- The characters that no name is sent with, besides controls. -/
def refusedInName : Text :=
  [' ', '#', '%', '/', ':', '<', '>', '?', '@', '[', '\\', ']', '^', '|']

/-- Whether a name may be sent with a character. -/
def isSentInName (character : Char) : Bool :=
  0x20 < character.toNat && character.toNat < 0x7F && !refusedInName.contains character

/-- Whether the labels of a name can be read in one order only. -/
def keepDirections (labels : List Label) : Bool :=
  !(labels.any fun label => label.shown.any Text.isRightToLeft) ||
    labels.all fun label => Text.keepsDirection label.shown

/-- A name as it is sent. -/
def domainName? (name : Text) : Option Text := do
  let canonical ← canonicalName? name
  let labels ← (canonical.splitOn '.').mapM Label.ofText?
  let sent := Text.join ['.'] (labels.map Label.sent)
  if keepDirections labels && sent.all isSentInName then some sent else none

end ModuleUpdate.Url
