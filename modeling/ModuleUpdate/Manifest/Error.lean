import ModuleUpdate.Manifest.Verb

namespace ModuleUpdate

/-!
# Why a manifest is refused

The causes for which a manifest's text is refused, each with its wording.
-/

/-- What is wrong on one line of a manifest. -/
inductive LineFault where
  | unterminatedQuote
  | parenthesisInBlock
  | unexpectedParenthesis
  | unknownDirective (word : Text)
  | blockRefused (verb : Verb)
  | unterminatedBlock (verb : Verb)
  | valueExpected (verb : Verb)
  | pathAndVersionExpected (verb : Verb)
  | invalidVersion (version path : Text)
  | replacementExpected
  deriving Repr, DecidableEq

namespace LineFault

/-- The wording of a fault. -/
def message : LineFault → Text
  | unterminatedQuote => "unterminated quoted string".toList
  | parenthesisInBlock => "unexpected parenthesis in block".toList
  | unexpectedParenthesis => "unexpected parenthesis".toList
  | unknownDirective word => "unknown directive: ".toList ++ word
  | blockRefused verb => verb.word ++ " directive cannot be a block".toList
  | unterminatedBlock verb => "unterminated ".toList ++ verb.word ++ " block".toList
  | valueExpected verb => "usage: ".toList ++ verb.word ++ " <value>".toList
  | pathAndVersionExpected verb =>
      "usage: ".toList ++ verb.word ++ " module/path v1.2.3".toList
  | invalidVersion version path =>
      "invalid version ".toList ++ version ++ " for ".toList ++ path
  | replacementExpected =>
      "usage: replace module/path [v1.2.3] => other/module [v1.4.5] | local/dir".toList

end LineFault

/-- Why a manifest or a change of it is refused. -/
inductive ManifestError where
  | lineFault (line : Nat) (fault : LineFault)
  | duplicateRequirement (path : Text) (line : Nat)
  | invalidVersion (path version : Text)
  deriving Repr, DecidableEq

namespace ManifestError

/-- The wording of an error. -/
def message : ManifestError → Text
  | lineFault line fault =>
      "failed to parse go.mod at line ".toList ++ Text.ofNatural line ++ ": ".toList ++
        fault.message
  | duplicateRequirement path line =>
      "go.mod line ".toList ++ Text.ofNatural line ++ ": duplicate requirement for ".toList ++
        path
  | invalidVersion path version =>
      "invalid version '".toList ++ version ++ "' for ".toList ++ path

end ManifestError

end ModuleUpdate
