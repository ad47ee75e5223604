import ModuleUpdate.Manifest.Statement

namespace ModuleUpdate

/-!
# Printing statements

Every directive takes one line, with its comments above it and behind it.  The lines of a block
are indented by a tab, and a blank line separates statements where the manifest has one.
-/

/-- The indentation of the lines in a block. -/
def blockIndent : Text :=
  ['\t']

/-- Comments on lines of their own; an empty text is a blank line. -/
def printRemarks (indent : Text) (comments : List Text) : Text :=
  comments.flatMap fun comment =>
    (if comment = [] then [] else indent ++ comment) ++ ['\n']

/-- The comment at the end of a line and the line end. -/
def printLineEnd : Option Text → Text
  | some comment => ' ' :: comment ++ ['\n']
  | none => ['\n']

/-- A line of tokens with its comments. -/
def printTokens (indent : Text) (tokens : List Token) (comments : Comments) : Text :=
  printRemarks indent comments.before ++ indent ++ Text.join [' '] tokens ++
    printLineEnd comments.trailing

namespace Block

/-- A block with its comments. -/
def toText (block : Block) : Text :=
  printTokens [] [block.verb.word, Token.blockStart] block.comments ++
    block.lines.flatMap (fun line => printTokens blockIndent line.arguments line.comments) ++
    printRemarks blockIndent block.closing ++ Token.blockEnd ++ ['\n']

end Block

namespace Content

/-- The text of a statement without the blank line in front of it. -/
def toText : Content → Text
  | .directive verb line => printTokens [] (verb.word :: line.arguments) line.comments
  | .block group => group.toText
  | .remark comments => printRemarks [] comments

end Content

namespace Statement

/-- The text of a statement behind another. -/
def toText (statement : Statement) : Text :=
  (if statement.blankBefore then ['\n'] else []) ++ statement.content.toText

/-- The text of a manifest, which starts without a blank line. -/
def print : List Statement → Text
  | [] => []
  | first :: following => first.content.toText ++ following.flatMap toText

end Statement

end ModuleUpdate
