import ModuleUpdate.Version.Pseudo

namespace ModuleUpdate

/-!
# Commit times

The moment that a pseudo-version's stamp names, where its digits form a date and a time of day.
The sixtieth second is admitted, since a day may end with a leap second.
-/

/-- A date and a time of day. -/
structure CommitTime where
  year : Nat
  month : Nat
  day : Nat
  hour : Nat
  minute : Nat
  second : Nat
  deriving Repr, DecidableEq

namespace CommitTime

/-- The leap years of the Gregorian calendar. -/
def isLeapYear (year : Nat) : Bool :=
  year % 4 == 0 && (year % 100 != 0 || year % 400 == 0)

/-- The number of days in a month, zero where there is no such month. -/
def daysInMonth (year month : Nat) : Nat :=
  if month = 2 then
    if isLeapYear year then 29 else 28
  else if month ∈ [4, 6, 9, 11] then
    30
  else if 1 ≤ month ∧ month ≤ 12 then
    31
  else
    0

/-- The fields form a date and a time of day. -/
def isMoment (time : CommitTime) : Bool :=
  1 ≤ time.day && time.day ≤ daysInMonth time.year time.month &&
    time.hour < 24 && time.minute < 60 && time.second ≤ 60

/-- The moment that a stamp of fourteen digits names: year, month, day, hour, minute, second. -/
def ofStamp? (stamp : Text) : Option CommitTime := do
  let field := fun (start width : Nat) => Text.natural? ((stamp.drop start).take width)
  let time : CommitTime :=
    { year := ← field 0 4
      month := ← field 4 2
      day := ← field 6 2
      hour := ← field 8 2
      minute := ← field 10 2
      second := ← field 12 2 }
  if time.isMoment then some time else none

/-- The moment a pseudo-version names, where its stamp is one. -/
def ofVersion? (version : Text) : Option CommitTime :=
  (Pseudo.stamp? version).bind ofStamp?

/-- A number with leading zeros up to a width. -/
def padded (width number : Nat) : Text :=
  let digits := Text.ofNatural number
  List.replicate (width - digits.length) '0' ++ digits

/-- The moment as a date and a time of day, separated by a blank. -/
def toText (time : CommitTime) : Text :=
  Text.join ['-'] [padded 4 time.year, padded 2 time.month, padded 2 time.day] ++
    ' ' :: Text.join [':'] [padded 2 time.hour, padded 2 time.minute, padded 2 time.second]

end CommitTime

end ModuleUpdate
