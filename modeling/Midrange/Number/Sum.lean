import Midrange.Number.Binary
import Midrange.Number.Decimal

/-!
# Sums of numbers

A sum of double-precision numbers is the exact sum rounded to the nearest such
number.  A sum of decimal numbers keeps the finer of the two exponents as far as
`precision` digits allow; a number too great for the range, and a sum without a
meaning, raise a signal instead.
-/

namespace Midrange.Number

private def signed (negative : Bool) (magnitude : Nat) : Int :=
  if negative then -(magnitude : Int) else magnitude

namespace Binary

/-- The number nearest to a whole number, unless that is out of range. -/
def ofInt? (number : Int) : Option Binary :=
  match ofRatio (number < 0) number.natAbs 1 with
  | .infinite _ => none
  | rounded => some rounded

/-- The sum of two finite numbers.  Numbers that cancel leave the positive zero,
and only two negative zeros make a negative one. -/
def addFinite (negative otherNegative : Bool) (mantissa otherMantissa : Nat)
    (exponent otherExponent : Int) : Binary :=
  let least := min exponent otherExponent
  let total := signed negative (mantissa * Nat.pow 2 (exponent - least).toNat) +
    signed otherNegative (otherMantissa * Nat.pow 2 (otherExponent - least).toNat)
  if total = 0 then
    .finite (negative && otherNegative) 0 leastExponent
  else
    let (top, bottom) := scaleBinary total.natAbs 1 least
    ofRatio (total < 0) top bottom

/-- The sum of two numbers; opposite infinities have none. -/
def add : Binary → Binary → Binary
  | .nan, _ => .nan
  | _, .nan => .nan
  | .infinite negative, .infinite other =>
      if negative = other then .infinite negative else .nan
  | .infinite negative, _ => .infinite negative
  | _, .infinite negative => .infinite negative
  | .finite negative mantissa exponent, .finite other otherMantissa otherExponent =>
      addFinite negative other mantissa otherMantissa exponent otherExponent

end Binary

namespace Decimal

/-- What a sum raises when it has no result. -/
inductive Signal where
  | invalid
  | overflow
  deriving DecidableEq, Repr

def Signal.name : Signal → String
  | .invalid => "InvalidOperation"
  | .overflow => "Overflow"

/-- The greatest number of digits of a sum. -/
def precision : Nat := 28

/-- The greatest place of the leading digit of a sum. -/
def greatestPlace : Int := 999999

/-- The finest exponent of a sum. -/
def finestExponent : Int := -1000026

private def digitCount (coefficient : Nat) : Nat :=
  (Nat.toDigits 10 coefficient).length

def ofInt (number : Int) : Decimal :=
  .finite (number < 0) number.natAbs 0

/-- A coefficient with the digits below an exponent rounded off, a tie to the
even neighbour. -/
def roundTo (target : Int) (coefficient : Nat) (exponent : Int) : Nat × Int :=
  if exponent < target then
    let places := (target - exponent).toNat
    if digitCount coefficient + 1 < places then (0, target)
    else
      let rounded := Binary.roundDivide coefficient (Nat.pow 10 places)
      if rounded = Nat.pow 10 precision then (Nat.pow 10 (precision - 1), target + 1)
      else (rounded, target)
  else
    (coefficient, exponent)

/-- A number rounded to the precision and the range of sums. -/
def fit (negative : Bool) (coefficient : Nat) (exponent : Int) :
    Except Signal Decimal :=
  if coefficient = 0 then
    .ok (.finite negative 0 (min (max exponent finestExponent) greatestPlace))
  else
    let target :=
      max (exponent + (digitCount coefficient : Int) - precision) finestExponent
    let (rounded, exponent) := roundTo target coefficient exponent
    if greatestPlace < exponent + (digitCount rounded : Int) - 1 then
      .error .overflow
    else
      .ok (.finite negative rounded exponent)

/-- A number that stands for a much smaller one beside a greater one: both
change the rounded sum alike. -/
def substitute (greater : Nat) (greaterExponent : Int) (coefficient : Nat)
    (exponent : Int) : Nat × Int :=
  let reach :=
    greaterExponent + min (-1) ((digitCount greater : Int) - precision - 2)
  if (digitCount coefficient : Int) + exponent - 1 < reach then (1, reach)
  else (coefficient, exponent)

/-- The sum of two numbers that are not zero, the first one with the greater
exponent. -/
def addAligned (negative other : Bool) (coefficient otherCoefficient : Nat)
    (exponent otherExponent : Int) : Except Signal Decimal :=
  let (least, finer) :=
    substitute coefficient exponent otherCoefficient otherExponent
  let total := signed negative (coefficient * Nat.pow 10 (exponent - finer).toNat) +
    signed other least
  fit (total < 0) total.natAbs finer

def addFinite (negative other : Bool) (coefficient otherCoefficient : Nat)
    (exponent otherExponent : Int) : Except Signal Decimal :=
  let finer := min exponent otherExponent
  let beside (kept : Int) : Int := max finer (kept - precision - 1)
  if coefficient = 0 then
    if otherCoefficient = 0 then fit (negative && other) 0 finer
    else
      let target := beside otherExponent
      fit other (otherCoefficient * Nat.pow 10 (otherExponent - target).toNat) target
  else if otherCoefficient = 0 then
    let target := beside exponent
    fit negative (coefficient * Nat.pow 10 (exponent - target).toNat) target
  else if exponent < otherExponent then
    addAligned other negative otherCoefficient coefficient otherExponent exponent
  else
    addAligned negative other coefficient otherCoefficient exponent otherExponent

/-- An undefined number as a sum: its payload keeps the last digits. -/
def undefinedSum (negative : Bool) (payload : Option Nat) : Decimal :=
  .undefined negative false
    ((payload.map (· % Nat.pow 10 precision)).filter (· ≠ 0))

/-- The sum of two numbers.  An undefined number passes through, unless it
signals; opposite infinities have no sum. -/
def add : Decimal → Decimal → Except Signal Decimal
  | .undefined _ true _, _ => .error .invalid
  | _, .undefined _ true _ => .error .invalid
  | .undefined negative _ payload, _ => .ok (undefinedSum negative payload)
  | _, .undefined negative _ payload => .ok (undefinedSum negative payload)
  | .infinite negative, .infinite other =>
      if negative = other then .ok (.infinite negative) else .error .invalid
  | .infinite negative, _ => .ok (.infinite negative)
  | _, .infinite negative => .ok (.infinite negative)
  | .finite negative coefficient exponent,
      .finite other otherCoefficient otherExponent =>
      addFinite negative other coefficient otherCoefficient exponent otherExponent

/-- The nearest double-precision number; an undefined number that signals has
none. -/
def toBinary? : Decimal → Option Binary
  | .finite negative coefficient exponent =>
      some (Binary.ofDecimal negative coefficient exponent)
  | .infinite negative => some (.infinite negative)
  | .undefined _ false _ => some .nan
  | .undefined _ true _ => none

end Decimal

end Midrange.Number
