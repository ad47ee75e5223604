import ModuleUpdate.Text

namespace ModuleUpdate.Pseudo

/-!
# Pseudo-versions

A pseudo-version pins a commit.  Behind a base it carries a time stamp of fourteen digits, a
hyphen and twelve hexadecimal digits of the commit, and possibly the marker of an incompatible
major version.  Only the shape counts here: digits of every script are admitted, and the stamp
need not be a date.
-/

/-- The marker of a major version that has no module path of its own. -/
def incompatibleMarker : Text :=
  "+incompatible".toList

/-- The text behind one or more digits and a mark that directly follows them. -/
def afterNumber? (mark : Char) (text : Text) : Option Text :=
  if text.takeWhile Text.isDecimalDigit = [] then
    none
  else
    Text.after? [mark] (text.dropWhile Text.isDecimalDigit)

/--
What may stand between the patch number and the stamp: a zero and a dot, possibly behind a
prerelease and a dot.
-/
def isPrereleaseBase (text : Text) : Bool :=
  text == "0.".toList ||
    (Text.before? ".0.".toList text).any fun prerelease => !prerelease.contains '+'

/--
The base of a pseudo-version: a major number without earlier versions, or the number that
follows the latest earlier version.
-/
def isBase (base : Text) : Bool :=
  let behindMajor := (Text.after? ['v'] base).bind (afterNumber? '.')
  behindMajor == some "0.0-".toList ||
    ((behindMajor.bind (afterNumber? '.')).bind (afterNumber? '-')).any isPrereleaseBase

/-- A digit of a commit in lowercase hexadecimal. -/
def isCommitDigit (character : Char) : Bool :=
  character.isDigit || ('a' ≤ character && character ≤ 'f')

/-- The time stamp of a text that has the shape of a pseudo-version. -/
def stamp? (version : Text) : Option Text :=
  let body := Text.dropEnding incompatibleMarker (Text.trim version)
  let base := body.take (body.length - 27)
  let stamp := (body.drop (body.length - 27)).take 14
  let commit := body.drop (body.length - 12)
  if
      27 ≤ body.length ∧
        isBase base ∧
        stamp.all Text.isDecimalDigit ∧
        body[body.length - 13]? = some '-' ∧
        commit.all isCommitDigit then
    some stamp
  else
    none

/-- A text that has the shape of a pseudo-version. -/
def isPseudo (version : Text) : Bool :=
  (stamp? version).isSome

end ModuleUpdate.Pseudo
