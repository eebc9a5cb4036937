import Midrange.Number.Binary

/-!
# Decimal numbers

Exact decimal numbers keep the exponent they were written with, so `3.10` and
`3.1` are different numbers of equal size.  The text shows that exponent:
positions while the leading digit stands at most six places after the point,
an exponent otherwise.
-/

namespace Midrange.Number

/-- A decimal number: a signed coefficient times a power of ten, an infinity,
or an undefined value with an optional payload. -/
inductive Decimal where
  | finite (negative : Bool) (coefficient : Nat) (exponent : Int)
  | infinite (negative : Bool)
  | undefined (negative signalling : Bool) (payload : Option Nat)
  deriving DecidableEq, Repr

namespace Decimal

/-- Holds for zeros of any sign and exponent. -/
def isZero : Decimal → Bool
  | .finite _ coefficient _ => coefficient = 0
  | _ => false

/-- The whole number that a decimal is, if it has no fraction. -/
def whole? : Decimal → Option Int
  | .finite negative coefficient exponent =>
      let magnitude? :=
        match exponent with
        | .ofNat power => some (coefficient * Nat.pow 10 power)
        | .negSucc power =>
            let unit := Nat.pow 10 (power + 1)
            if coefficient % unit = 0 then some (coefficient / unit) else none
      magnitude?.map fun magnitude =>
        if negative then -(magnitude : Int) else magnitude
  | _ => none

/-- Holds for the numbers that are neither infinite nor undefined. -/
def isFinite : Decimal → Bool
  | .finite .. => true
  | _ => false

private def signMark (negative : Bool) : List Char :=
  if negative then ['-'] else []

private def magnitudeText (coefficient : Nat) (exponent : Int) : List Char :=
  let digits := Nat.toDigits 10 coefficient
  let count : Int := digits.length
  let leading := exponent + count
  let point := if exponent ≤ 0 ∧ -6 < leading then leading else 1
  let positions :=
    if point ≤ 0 then
      ['0', '.'] ++ List.replicate (-point).toNat '0' ++ digits
    else if count ≤ point then
      digits ++ List.replicate (point - count).toNat '0'
    else
      digits.take point.toNat ++ ['.'] ++ digits.drop point.toNat
  let shift := leading - point
  if shift = 0 then positions
  else
    positions ++ ['E', if shift < 0 then '-' else '+'] ++
      Nat.toDigits 10 shift.natAbs

private theorem isFigure_magnitudeText (coefficient : Nat) (exponent : Int) :
    ∀ character ∈ magnitudeText coefficient exponent, isFigure character = true := by
  have zeros (count : Nat) : ∀ character ∈ List.replicate count '0', isFigure character = true :=
    fun _ member => List.eq_of_mem_replicate member ▸ rfl
  have digits (number : Nat) : ∀ character ∈ Nat.toDigits 10 number,
      isFigure character = true := fun _ member => isFigure_of_mem_toDigits member
  simp only [magnitudeText]
  generalize (if exponent ≤ 0 ∧ -6 < exponent + ((Nat.toDigits 10 coefficient).length : Int)
    then exponent + ((Nat.toDigits 10 coefficient).length : Int) else 1) = point
  have positions : ∀ character ∈
      (if point ≤ 0 then
        ['0', '.'] ++ List.replicate (-point).toNat '0' ++ Nat.toDigits 10 coefficient
      else if ((Nat.toDigits 10 coefficient).length : Int) ≤ point then
        Nat.toDigits 10 coefficient ++
          List.replicate (point - (Nat.toDigits 10 coefficient).length).toNat '0'
      else
        (Nat.toDigits 10 coefficient).take point.toNat ++ ['.'] ++
          (Nat.toDigits 10 coefficient).drop point.toNat), isFigure character = true := by
    split
    · simp only [List.forall_mem_append]
      exact ⟨⟨List.all_eq_true.mp (by decide), zeros _⟩, digits _⟩
    · split
      · simp only [List.forall_mem_append]
        exact ⟨digits _, zeros _⟩
      · simp only [List.forall_mem_append]
        exact ⟨⟨fun _ member => digits _ _ (List.mem_of_mem_take member),
            List.all_eq_true.mp (by decide)⟩,
          fun _ member => digits _ _ (List.mem_of_mem_drop member)⟩
  split
  · exact positions
  · rw [List.forall_mem_append, List.forall_mem_append]
    refine ⟨⟨positions, ?_⟩, digits _⟩
    split <;> exact List.all_eq_true.mp (by decide)

def text : Decimal → String
  | .finite negative coefficient exponent =>
      String.ofList (signMark negative ++ magnitudeText coefficient exponent)
  | .infinite negative =>
      String.ofList (signMark negative) ++ "Infinity"
  | .undefined negative signalling payload =>
      String.ofList (signMark negative) ++ (if signalling then "sNaN" else "NaN") ++
        match payload with
        | some digits => String.ofList (Nat.toDigits 10 digits)
        | none => ""

private theorem isFigure_signMark (negative : Bool) :
    ∀ character ∈ signMark negative, isFigure character = true := by
  cases negative <;> exact List.all_eq_true.mp (by decide)

theorem isFigure_text {number : Decimal} (isFinite : number.isFinite = true) :
    ∀ character ∈ number.text.toList, isFigure character = true := by
  cases number with
  | finite negative coefficient exponent =>
      rw [text, String.toList_ofList, List.forall_mem_append]
      exact ⟨isFigure_signMark negative, isFigure_magnitudeText coefficient exponent⟩
  | infinite negative => cases isFinite
  | undefined negative signalling payload => cases isFinite

theorem isMark_text (number : Decimal) :
    ∀ character ∈ number.text.toList, isMark character = true := by
  cases number with
  | finite =>
      exact fun character member => isMark_of_isFigure (isFigure_text rfl character member)
  | infinite negative =>
      cases negative <;> exact List.all_eq_true.mp (by decide)
  | undefined negative signalling payload =>
      have name : ∀ character ∈ (if signalling then "sNaN" else "NaN").toList,
          isMark character = true := by
        cases signalling <;> exact List.all_eq_true.mp (by decide)
      simp only [text, String.toList_append, String.toList_ofList, List.forall_mem_append]
      refine ⟨⟨fun character member =>
        isMark_of_isFigure (isFigure_signMark negative character member), name⟩, ?_⟩
      cases payload with
      | none => exact List.forall_mem_nil _
      | some digits =>
          rw [String.toList_ofList]
          exact fun _ member => isMark_of_isFigure (isFigure_of_mem_toDigits member)

private theorem magnitudeText_ne_nil (coefficient : Nat) (exponent : Int) :
    magnitudeText coefficient exponent ≠ [] := by
  have digits : Nat.toDigits 10 coefficient ≠ [] := Nat.toDigits_ne_nil
  simp only [magnitudeText]
  generalize (if exponent ≤ 0 ∧ -6 < exponent + ((Nat.toDigits 10 coefficient).length : Int)
    then exponent + ((Nat.toDigits 10 coefficient).length : Int) else 1) = point
  have positions : (if point ≤ 0 then
        ['0', '.'] ++ List.replicate (-point).toNat '0' ++ Nat.toDigits 10 coefficient
      else if ((Nat.toDigits 10 coefficient).length : Int) ≤ point then
        Nat.toDigits 10 coefficient ++
          List.replicate (point - (Nat.toDigits 10 coefficient).length).toNat '0'
      else
        (Nat.toDigits 10 coefficient).take point.toNat ++ ['.'] ++
          (Nat.toDigits 10 coefficient).drop point.toNat) ≠ [] := by
    split
    · simp
    · split <;> simp [digits]
  split
  · exact positions
  · simp

theorem text_ne_empty (number : Decimal) : number.text ≠ "" := by
  intro empty
  have none := congrArg String.toList empty
  cases number with
  | finite negative coefficient exponent =>
      rw [text, String.toList_ofList] at none
      exact magnitudeText_ne_nil coefficient exponent (List.append_eq_nil_iff.mp none).2
  | infinite negative => cases negative <;> simp [text] at none
  | undefined negative signalling payload => cases signalling <;> simp [text] at none

end Decimal

end Midrange.Number
