/-!
# Binary floating point

Double-precision numbers as exact data: a finite number is a signed mantissa
times a power of two.  `Binary.ofRatio` rounds a ratio to the nearest such
number, a tie to the even mantissa.
-/

namespace Midrange.Number

/-- The characters that the texts of numbers are made of. -/
def isMark (character : Char) : Bool :=
  character.isAlphanum || character = '+' || character = '-' || character = '.'

/-- The marks of finite numbers. -/
def isFigure (character : Char) : Bool :=
  character.isDigit || character = 'e' || character = 'E' || character = '+' ||
    character = '-' || character = '.'

theorem isMark_of_isFigure {character : Char} (figure : isFigure character = true) :
    isMark character = true := by
  simp only [isFigure, Bool.or_eq_true, decide_eq_true_eq] at figure
  rcases figure with ((((digit | rfl) | rfl) | rfl) | rfl) | rfl
  · simp [isMark, Char.isAlphanum, digit]
  all_goals rfl

theorem isFigure_of_mem_toDigits {number : Nat} {character : Char}
    (member : character ∈ Nat.toDigits 10 number) : isFigure character = true := by
  have isDigit := Nat.isDigit_of_mem_toDigits (by decide) (by decide) member
  simp [isFigure, isDigit]

theorem isFigure_toString (number : Int) :
    ∀ character ∈ (toString number).toList, isFigure character = true := by
  intro character member
  rw [Int.toString_eq_repr] at member
  cases number with
  | ofNat magnitude =>
      rw [Int.repr, Nat.toList_repr] at member
      exact isFigure_of_mem_toDigits member
  | negSucc magnitude =>
      rw [Int.repr, String.toList_append, List.mem_append, Nat.toList_repr] at member
      rcases member with sign | digit
      · exact List.all_eq_true.mp (by decide) character sign
      · exact isFigure_of_mem_toDigits digit

theorem isMark_toString (number : Int) :
    ∀ character ∈ (toString number).toList, isMark character = true :=
  fun character member => isMark_of_isFigure (isFigure_toString number character member)

/-- A double-precision number.  The finite number with mantissa `m` and
exponent `e` is `m * 2 ^ e` with its sign; `m` has 53 bits unless `e` is the
least exponent. -/
inductive Binary where
  | nan
  | infinite (negative : Bool)
  | finite (negative : Bool) (mantissa : Nat) (exponent : Int)
  deriving DecidableEq, Repr

namespace Binary

/-- The exponent of the smallest numbers. -/
def leastExponent : Int := -1074

def greatestExponent : Int := 971

/-- The quotient rounded to the nearest whole number, a tie to the even one. -/
def roundDivide (numerator denominator : Nat) : Nat :=
  let quotient := numerator / denominator
  let twice := 2 * (numerator % denominator)
  if twice < denominator then quotient
  else if denominator < twice then quotient + 1
  else if quotient % 2 = 0 then quotient
  else quotient + 1

/-- Numerator and denominator of a ratio times a power of two. -/
def scaleBinary (numerator denominator : Nat) (power : Int) : Nat × Nat :=
  match power with
  | .ofNat exponent => (numerator * Nat.pow 2 exponent, denominator)
  | .negSucc exponent => (numerator, denominator * Nat.pow 2 (exponent + 1))

/-- The nearest double-precision number to a ratio of natural numbers. -/
def ofRatio (negative : Bool) (numerator denominator : Nat) : Binary :=
  if numerator = 0 ∨ denominator = 0 then
    .finite negative 0 leastExponent
  else
    let estimate : Int :=
      (Nat.log2 numerator : Int) - (Nat.log2 denominator : Int) - 52
    let (top, bottom) := scaleBinary numerator denominator (-estimate)
    let fitted := if top / bottom < Nat.pow 2 52 then estimate - 1 else estimate
    let exponent := max fitted leastExponent
    let (top, bottom) := scaleBinary numerator denominator (-exponent)
    let mantissa := roundDivide top bottom
    let (mantissa, exponent) :=
      if mantissa = Nat.pow 2 53 then (Nat.pow 2 52, exponent + 1) else (mantissa, exponent)
    if greatestExponent < exponent then
      .infinite negative
    else
      .finite negative mantissa exponent

/-- The nearest double-precision number to `coefficient * 10 ^ exponent`. -/
def ofDecimal (negative : Bool) (coefficient : Nat) (exponent : Int) : Binary :=
  let magnitude : Int := (Nat.toDigits 10 coefficient).length + exponent
  if coefficient = 0 ∨ magnitude < -400 then
    .finite negative 0 leastExponent
  else if 400 < magnitude then
    .infinite negative
  else
    match exponent with
    | .ofNat power => ofRatio negative (coefficient * Nat.pow 10 power) 1
    | .negSucc power => ofRatio negative coefficient (Nat.pow 10 (power + 1))

/-- Holds for the two zeros. -/
def isZero : Binary → Bool
  | .finite _ mantissa _ => mantissa = 0
  | _ => false

/-- The whole number that a number is, if it has no fraction. -/
def whole? : Binary → Option Int
  | .finite negative mantissa exponent =>
      let (top, bottom) := scaleBinary mantissa 1 exponent
      if top % bottom = 0 then
        some (if negative then -((top / bottom : Nat) : Int) else (top / bottom : Nat))
      else
        none
  | _ => none

/-- Holds for the numbers that are neither infinite nor undefined. -/
def isFinite : Binary → Bool
  | .finite .. => true
  | _ => false

end Binary

end Midrange.Number
