import ModuleUpdate.Text

namespace ModuleUpdate

/-!
# Verbs

The words that start a directive of a manifest.
-/

/-- The kinds of directives. -/
inductive Verb where
  | mainModule
  | language
  | toolchain
  | setting
  | require
  | exclude
  | replace
  | retract
  | tool
  | ignore
  deriving Repr, DecidableEq

namespace Verb

/-- All verbs. -/
def all : List Verb :=
  [mainModule, language, toolchain, setting, require, exclude, replace, retract, tool, ignore]

/-- The word of a verb. -/
def word : Verb → Text
  | mainModule => "module".toList
  | language => "go".toList
  | toolchain => "toolchain".toList
  | setting => "godebug".toList
  | require => "require".toList
  | exclude => "exclude".toList
  | replace => "replace".toList
  | retract => "retract".toList
  | tool => "tool".toList
  | ignore => "ignore".toList

/-- The verb that a word spells. -/
def ofWord? (word : Text) : Option Verb :=
  all.find? fun verb => verb.word == word

/-- The verbs whose directives stand alone. -/
def standsAlone : Verb → Bool
  | mainModule | language | toolchain => true
  | _ => false

/-- The verbs whose blocks are kept sorted. -/
def isSorted : Verb → Bool
  | require | exclude | replace => true
  | _ => false

/-- Every verb is read back from its word. -/
theorem ofWord?_word (verb : Verb) : ofWord? verb.word = some verb := by
  cases verb <;> decide

end Verb

end ModuleUpdate
