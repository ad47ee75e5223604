import ModuleUpdate.Text

namespace ModuleUpdate.Text

/-!
# Quoted text

Inside double quotes a backslash stands in front of a character that is meant literally, and in
front of the letters that stand for a line feed and a tab.  Writing puts a backslash in front of
quotes and backslashes only; what is written is read back.
-/

/-- The text inside double quotes with its escapes resolved. -/
def unescape : Text → Text
  | [] => []
  | '\\' :: 'n' :: rest => '\n' :: unescape rest
  | '\\' :: 't' :: rest => '\t' :: unescape rest
  | '\\' :: character :: rest => character :: unescape rest
  | ['\\'] => []
  | character :: rest => character :: unescape rest

/-- Quotes and backslashes with a backslash in front. -/
def escape (text : Text) : Text :=
  text.flatMap fun character =>
    if character = '\\' ∨ character = '"' then ['\\', character] else [character]

/-- A text in double quotes. -/
def quoted (text : Text) : Text :=
  '"' :: escape text ++ ['"']

/-- What is written inside quotes is read back. -/
theorem unescape_escape (text : Text) : unescape (escape text) = text := by
  induction text with
  | nil => rfl
  | cons character rest inductionHypothesis =>
      have split :
          escape (character :: rest) =
            (if character = '\\' ∨ character = '"' then ['\\', character] else [character]) ++
              escape rest := rfl
      rw [split]
      split
      · next special =>
          rcases special with rfl | rfl <;> simp [unescape, inductionHypothesis]
      · next plain =>
          have isPlain : character ≠ '\\' := fun same => plain (Or.inl same)
          simp [unescape, isPlain, inductionHypothesis]

end ModuleUpdate.Text
