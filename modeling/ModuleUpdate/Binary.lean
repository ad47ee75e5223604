import ModuleUpdate.Text

namespace ModuleUpdate

/-!
# Binary numbers

A number with a fraction is kept in 64 bits: it has at most 53 binary digits, none of them behind
the place of `2 ^ -1074`, and is less than `2 ^ 1024`.  Such a number is a count of units of that
last place, so that a product and a quotient are ratios of naturals, which are rounded once.

In decimals a number is written with the fewest digits from which it is read back.
-/

/-- A number of 64 bits without its sign, as a count of units of the last place. -/
structure Binary where
  units : Nat
  deriving Repr, DecidableEq

namespace Binary

/-- The units in one. -/
def one : Nat :=
  Nat.pow 2 1074

/-- The least count of units that is too large. -/
def limit : Nat :=
  Nat.pow 2 2098

/-- The whole number that is nearest to a ratio, of two that are equally near the even one. -/
def roundRatio (numerator denominator : Nat) : Nat :=
  let whole := numerator / denominator
  let twice := 2 * (numerator % denominator)
  if twice < denominator ∨ (twice = denominator ∧ whole % 2 = 0) then whole else whole + 1

/-- The distance of the numbers about a count of units. -/
def spacing (units : Nat) : Nat :=
  Nat.pow 2 (units.log2 - 52)

/-- The number that is nearest to a ratio of units, unless that is too large. -/
def nearest? (numerator denominator : Nat) : Option Binary :=
  let distance := spacing (numerator / denominator)
  let units := distance * roundRatio numerator (denominator * distance)
  if units < limit then some { units } else none

/-- The number nearest to a natural. -/
def ofNatural? (value : Nat) : Option Binary :=
  nearest? (value * one) 1

/-- The number nearest to a product. -/
def multiply? (left right : Binary) : Option Binary :=
  nearest? (left.units * right.units) one

/-- The number nearest to a quotient. -/
def divide? (left right : Binary) : Option Binary :=
  nearest? (left.units * one) right.units

/-- The greatest power of ten that is a number. -/
def greatestPower : Nat :=
  308

/-- The number nearest to a power of ten. -/
def powerOfTen? (power : Nat) : Option Binary :=
  ofNatural? (Nat.pow 10 power)

/-- A number divided by a power of ten, in two steps where the power is no number itself. -/
def scaleDown? (value : Binary) (power : Nat) : Option Binary := do
  if power ≤ greatestPower then
    value.divide? (← powerOfTen? power)
  else
    let scaled ← value.divide? (← powerOfTen? greatestPower)
    if power - greatestPower ≤ greatestPower then
      scaled.divide? (← powerOfTen? (power - greatestPower))
    else
      some { units := 0 }

/-- A natural times a power of ten: both are rounded first, and so is what comes of them. -/
def ofScaled? (value : Nat) (power : Int) : Option Binary := do
  let rounded ← ofNatural? value
  if rounded.units = 0 then
    some rounded
  else if power < 0 then
    rounded.scaleDown? power.natAbs
  else if power ≤ greatestPower then
    rounded.multiply? (← powerOfTen? power.natAbs)
  else
    none

/-- The number nearest to a decimal, which is rounded once. -/
def ofDecimal? (digits : Nat) (power : Int) : Option Binary :=
  nearest? (digits * Nat.pow 10 power.toNat * one) (Nat.pow 10 (-power).toNat)

/-- More decimal places than stand between the point and the digits that tell numbers apart. -/
def finePlaces : Nat :=
  350

/-- The decimal places in front of the point, less the zeros behind it that come first. -/
def places (value : Binary) : Int :=
  (Text.ofNatural (value.units * Nat.pow 10 finePlaces / one)).length - (finePlaces : Int)

/-- The two multiples of a power of ten on both sides of a number, the nearer one first. -/
def multiplesAround (value : Binary) (power : Int) : Nat × Nat :=
  let numerator := value.units * Nat.pow 10 (-power).toNat
  let denominator := one * Nat.pow 10 power.toNat
  let below := numerator / denominator
  let nearer := roundRatio numerator denominator
  (nearer, if nearer = below then below + 1 else below)

/-- Whether a decimal is read as the number. -/
def isReadFrom (value : Binary) (digits : Nat) (power : Int) : Bool :=
  ofDecimal? digits power = some value

/-- The first power of ten with a multiple that is read as the number, among some in turn. -/
def shortestFrom (value : Binary) : Nat → Int → Nat × Int
  | 0, power => ((value.multiplesAround power).1, power)
  | finer + 1, power =>
      let (nearer, farther) := value.multiplesAround power
      if value.isReadFrom nearer power then
        (nearer, power)
      else if value.isReadFrom farther power then
        (farther, power)
      else
        shortestFrom value finer (power - 1)

/--
The fewest digits from which a number is read back, and their power of ten.  Seventeen digits tell
every number from every other.
-/
def shortest (value : Binary) : Nat × Int :=
  shortestFrom value 16 (value.places - 1)

end Binary

end ModuleUpdate
