import ModuleUpdate.Binary

namespace ModuleUpdate

/-!
# JSON values

Values of the format in which requests come and answers go.  Whole numbers are those that fit a
word of 64 bits, with or without sign; every other number is binary with a sign of its own.  The
members of an object are sorted by their keys, each of which occurs once.
-/

/-- A number: a whole one, or a binary one that may be negative, zero included. -/
inductive JsonNumber where
  | whole (value : Int)
  | binary (negative : Bool) (magnitude : Binary)
  deriving Repr, DecidableEq

/-- A value. -/
inductive Json where
  | null
  | bool (value : Bool)
  | number (value : JsonNumber)
  | string (text : Text)
  | array (items : List Json)
  | object (members : List (Text × Json))
  deriving Repr

namespace Json

/-- Sorted members with one more, which takes the place of one with its key. -/
def insertMember (key : Text) (value : Json) : List (Text × Json) → List (Text × Json)
  | [] => [(key, value)]
  | (other, present) :: following =>
      match compare key other with
      | .lt => (key, value) :: (other, present) :: following
      | .eq => (key, value) :: following
      | .gt => (other, present) :: insertMember key value following

/-- The object of the given members, the later of two with one key. -/
def ofMembers (members : List (Text × Json)) : Json :=
  object (members.foldl (fun sorted (key, value) => insertMember key value sorted) [])

/-- The value of a member of an object. -/
def member? (key : Text) : Json → Option Json
  | object members => members.lookup key
  | _ => none

end Json

end ModuleUpdate
