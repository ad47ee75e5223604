import ModuleUpdate.Url.Percent

namespace ModuleUpdate.Url

/-!
# Paths

A path is a list of segments, each behind a slash of either kind.  A dot stays in its directory and
two dots go up, and a dot may be percent encoded.  A segment that names a drive is a root of its
own, which no dots leave.
-/

/-- The characters that are encoded in a path. -/
def refusedInPath : Text :=
  [' ', '"', '#', '<', '>', '?', '\u0060', '\x7b', '\x7d']

/-- The two slashes that separate names. -/
def isSlash (character : Char) : Bool :=
  character == '/' || character == '\\'

/-- The spellings of the segment that stays. -/
def staysHere (segment : Text) : Bool :=
  let spelling := segment.map Char.toLower
  spelling == ".".toList || spelling == "%2e".toList

/-- The spellings of the segment that goes up. -/
def goesUp (segment : Text) : Bool :=
  let spelling := segment.map Char.toLower
  ["..".toList, ".%2e".toList, "%2e.".toList, "%2e%2e".toList].contains spelling

/-- Whether a segment names a drive: a letter and a colon, or a bar in place of the colon. -/
def namesDrive : Text → Bool
  | [letter, mark] => letter.isAlpha && (mark == ':' || mark == '|')
  | _ => false

/-- The segments of the directory above the one with these segments. -/
def above (kept : List Text) : List Text :=
  if kept.getLast?.any namesDrive then kept else kept.dropLast

/-- The segments of a path behind those that were kept so far, dots resolved. -/
def resolveDots (kept : List Text) : List Text → List Text
  | [] => kept
  | segment :: following =>
      let ending := if following = [] then [[]] else []
      if goesUp segment then
        resolveDots (above kept ++ ending) following
      else if staysHere segment then
        resolveDots (kept ++ ending) following
      else
        resolveDots (kept ++ [encode refusedInPath segment]) following

/-- A path in its normal form, which starts with a slash. -/
def normalPath (path : Text) : Text :=
  '/' :: Text.join ['/'] (resolveDots [] ((path.drop 1).splitOnP isSlash))

end ModuleUpdate.Url
