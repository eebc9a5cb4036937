import Midrange.Number.Binary

/-!
# Shortest decimal text

The text of a floating-point number has the fewest digits that read back as the
same number, and of those the nearest to it.  Each number owns an interval of
reals that round to it; a grid of `count` significant digits meets the interval
exactly if one of the two grid neighbours of the number lies in it.
-/

namespace Midrange.Number

/-- The reals that round to one number, with the number itself.  All four are
numerators over one denominator; the ends belong to the interval if `closed`. -/
structure RoundingInterval where
  least : Nat
  centre : Nat
  greatest : Nat
  denominator : Nat
  closed : Bool

namespace RoundingInterval

/-- The interval of the positive number `mantissa * 2 ^ exponent`. -/
def ofBinary (mantissa : Nat) (exponent : Int) : RoundingInterval :=
  let below :=
    if mantissa = Nat.pow 2 52 ∧ Binary.leastExponent < exponent then 1 else 2
  let (unit, denominator) := Binary.scaleBinary 1 1 (exponent - 2)
  { least := (4 * mantissa - below) * unit
    centre := 4 * mantissa * unit
    greatest := (4 * mantissa + 2) * unit
    denominator
    closed := mantissa % 2 = 0 }

/-- The ratio `top / bottom` lies in the interval. -/
def contains (interval : RoundingInterval) (top bottom : Nat) : Bool :=
  let point := top * interval.denominator
  let low := interval.least * bottom
  let high := interval.greatest * bottom
  if interval.closed then low ≤ point && point ≤ high
  else low < point && point < high

end RoundingInterval

/-- Significant digits and the position of the decimal point: the number is
`0.digits * 10 ^ point`. -/
structure ShortDigits where
  digits : List Char
  point : Int
  deriving DecidableEq, Repr

/-- The power of ten as numerator and denominator. -/
def powerOfTen : Int → Nat × Nat
  | .ofNat exponent => (Nat.pow 10 exponent, 1)
  | .negSucc exponent => (1, Nat.pow 10 (exponent + 1))

/-- The position of the decimal point of a positive ratio: the `point` with
`10 ^ (point - 1) ≤ ratio < 10 ^ point`. -/
def decimalPoint (numerator denominator : Nat) : Int :=
  let binary : Int := (Nat.log2 numerator : Int) - (Nat.log2 denominator : Int)
  let guess : Int := Int.fdiv (binary * 30103) 100000
  let reaches (power : Int) : Bool :=
    let (top, bottom) := powerOfTen power
    top * denominator ≤ numerator * bottom
  let candidates : List Int := [guess + 2, guess + 1, guess, guess - 1, guess - 2]
  match candidates.find? reaches with
  | some power => power + 1
  | none => guess - 2

private def withoutTrailingZeros (digits : List Char) : List Char :=
  (digits.reverse.dropWhile (· == '0')).reverse

/-- The neighbour of the number on the grid of `count` digits that lies in the
interval, the nearer one if both do. -/
def gridPoint? (interval : RoundingInterval) (point : Int) (count : Nat) :
    Option ShortDigits :=
  let (unitTop, unitBottom) := powerOfTen (point - count)
  let scaled := interval.centre * unitBottom
  let unit := interval.denominator * unitTop
  let lower := scaled / unit
  let upper := lower + 1
  let fits (candidate : Nat) : Bool :=
    interval.contains (candidate * unitTop) unitBottom
  let nearer :=
    let twice := 2 * (scaled % unit)
    if twice < unit then lower
    else if unit < twice then upper
    else if lower % 2 = 0 then lower else upper
  let chosen? :=
    if fits lower && fits upper then some nearer
    else if fits lower then some lower
    else if fits upper then some upper
    else none
  chosen?.map fun chosen =>
    let digits := Nat.toDigits 10 chosen
    { digits := withoutTrailingZeros digits
      point := point + ((digits.length : Int) - (count : Int)) }

theorem isFigure_gridPoint? {interval : RoundingInterval} {point : Int} {count : Nat}
    {short : ShortDigits} (found : gridPoint? interval point count = some short) :
    ∀ character ∈ short.digits, isFigure character = true := by
  intro character member
  obtain ⟨chosen, _, rfl⟩ := Option.map_eq_some_iff.mp found
  have kept := (List.dropWhile_sublist _).subset (List.mem_reverse.mp member)
  exact isFigure_of_mem_toDigits (List.mem_reverse.mp kept)

/-- The shortest digits of a positive number; seventeen always suffice. -/
def shortestDigits (mantissa : Nat) (exponent : Int) : ShortDigits :=
  let interval := RoundingInterval.ofBinary mantissa exponent
  let point := decimalPoint interval.centre interval.denominator
  match (List.range 17).findSome? fun index =>
      gridPoint? interval point (index + 1) with
  | some digits => digits
  | none => { digits := ['0'], point := 1 }

theorem isFigure_shortestDigits (mantissa : Nat) (exponent : Int) :
    ∀ character ∈ (shortestDigits mantissa exponent).digits, isFigure character = true := by
  simp only [shortestDigits]
  split
  · rename_i found
    obtain ⟨index, _, found⟩ := List.exists_of_findSome?_eq_some found
    exact isFigure_gridPoint? found
  · exact List.all_eq_true.mp (by decide)

/-- Digits are written out in positions while the decimal point stands at most
sixteen digits after and at most three zeros before the first digit; beyond
that an exponent of at least two digits follows. -/
def ShortDigits.layout (short : ShortDigits) : List Char :=
  let count := short.digits.length
  if -4 < short.point ∧ short.point ≤ 16 then
    if short.point ≤ 0 then
      ['0', '.'] ++ List.replicate (-short.point).toNat '0' ++ short.digits
    else if (count : Int) ≤ short.point then
      short.digits ++ List.replicate (short.point.toNat - count) '0' ++ ['.', '0']
    else
      short.digits.take short.point.toNat ++ ['.'] ++
        short.digits.drop short.point.toNat
  else
    let exponent := short.point - 1
    let mark := if exponent < 0 then '-' else '+'
    let digits := Nat.toDigits 10 exponent.natAbs
    let padded := if digits.length < 2 then '0' :: digits else digits
    let fraction := short.digits.drop 1
    short.digits.take 1 ++ (if fraction.isEmpty then [] else '.' :: fraction) ++
      ['e', mark] ++ padded

theorem ShortDigits.isFigure_layout {short : ShortDigits}
    (digits : ∀ character ∈ short.digits, isFigure character = true) :
    ∀ character ∈ short.layout, isFigure character = true := by
  have zeros (count : Nat) : ∀ character ∈ List.replicate count '0', isFigure character = true :=
    fun _ member => List.eq_of_mem_replicate member ▸ rfl
  have first (count : Nat) : ∀ character ∈ short.digits.take count, isFigure character = true :=
    fun _ member => digits _ (List.mem_of_mem_take member)
  have later (count : Nat) : ∀ character ∈ short.digits.drop count, isFigure character = true :=
    fun _ member => digits _ (List.mem_of_mem_drop member)
  simp only [ShortDigits.layout]
  split
  · split
    · simp only [List.forall_mem_append]
      exact ⟨⟨List.all_eq_true.mp (by decide), zeros _⟩, digits⟩
    · split
      · simp only [List.forall_mem_append]
        exact ⟨⟨digits, zeros _⟩, List.all_eq_true.mp (by decide)⟩
      · simp only [List.forall_mem_append]
        exact ⟨⟨first _, List.all_eq_true.mp (by decide)⟩, later _⟩
  · have fraction : ∀ character ∈
        (if (short.digits.drop 1).isEmpty then [] else '.' :: short.digits.drop 1),
          isFigure character = true := by
      split
      · exact List.forall_mem_nil _
      · exact List.forall_mem_cons.mpr ⟨rfl, later 1⟩
    have marks : ∀ character ∈ ['e', if short.point - 1 < 0 then '-' else '+'],
        isFigure character = true := by
      split <;> exact List.all_eq_true.mp (by decide)
    have exponent : ∀ character ∈ Nat.toDigits 10 (short.point - 1).natAbs,
        isFigure character = true := fun _ member => isFigure_of_mem_toDigits member
    simp only [List.forall_mem_append]
    refine ⟨⟨⟨first 1, fraction⟩, marks⟩, ?_⟩
    split
    · exact List.forall_mem_cons.mpr ⟨rfl, exponent⟩
    · exact exponent

theorem ShortDigits.layout_ne_nil (short : ShortDigits) : short.layout ≠ [] := by
  simp only [ShortDigits.layout]
  split
  · split
    · simp
    · split <;> simp
  · simp

def Binary.text : Binary → String
  | .nan => "nan"
  | .infinite negative => if negative then "-inf" else "inf"
  | .finite negative mantissa exponent =>
      let magnitude :=
        if mantissa = 0 then ['0', '.', '0']
        else (shortestDigits mantissa exponent).layout
      String.ofList (if negative then '-' :: magnitude else magnitude)

theorem Binary.isFigure_text {number : Binary} (isFinite : number.isFinite = true) :
    ∀ character ∈ number.text.toList, isFigure character = true := by
  cases number with
  | nan => cases isFinite
  | infinite negative => cases isFinite
  | finite negative mantissa exponent =>
      have magnitude : ∀ character ∈
          (if mantissa = 0 then ['0', '.', '0']
            else (shortestDigits mantissa exponent).layout), isFigure character = true := by
        split
        · exact List.all_eq_true.mp (by decide)
        · exact ShortDigits.isFigure_layout (isFigure_shortestDigits mantissa exponent)
      rw [Binary.text, String.toList_ofList]
      cases negative with
      | false => exact magnitude
      | true => exact List.forall_mem_cons.mpr ⟨rfl, magnitude⟩

theorem Binary.isMark_text (number : Binary) :
    ∀ character ∈ number.text.toList, isMark character = true := by
  cases number with
  | nan => exact List.all_eq_true.mp (by decide)
  | infinite negative =>
      cases negative <;> exact List.all_eq_true.mp (by decide)
  | finite =>
      exact fun character member => isMark_of_isFigure (isFigure_text rfl character member)

theorem Binary.text_ne_empty (number : Binary) : number.text ≠ "" := by
  cases number with
  | nan => decide
  | infinite negative => cases negative <;> decide
  | finite negative mantissa exponent =>
      intro empty
      have none := congrArg String.toList empty
      rw [Binary.text, String.toList_ofList] at none
      have filled : (if mantissa = 0 then ['0', '.', '0']
          else (shortestDigits mantissa exponent).layout) ≠ [] := by
        split
        · simp
        · exact ShortDigits.layout_ne_nil _
      cases negative with
      | false => exact filled none
      | true => cases none

end Midrange.Number
