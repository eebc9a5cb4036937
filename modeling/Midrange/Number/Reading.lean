import Midrange.Number.Binary
import Midrange.Number.Decimal
import Midrange.Text.Blank
import Midrange.Text.Digit
import Midrange.Text.LetterCase

/-!
# Reading numbers

Number texts may be surrounded by blanks and use the digits of any script.
`Binary.read?` and `Decimal.read?` accept positional and exponent notation and
the names of the infinities and of the undefined values.
-/

namespace Midrange.Number

/-- A whole number with the number of digits that wrote it. -/
structure DigitRun where
  value : Nat
  count : Nat

/-- The leading digits and what follows them.  If `underscores` is set, a single
underscore may stand between two digits. -/
def takeDigits (underscores : Bool) (run : DigitRun) :
    List Char → DigitRun × List Char
  | [] => (run, [])
  | '_' :: character :: rest =>
      if underscores && 0 < run.count then
        match Text.decimalValue? character with
        | some digit =>
            takeDigits underscores ⟨10 * run.value + digit, run.count + 1⟩ rest
        | none => (run, '_' :: character :: rest)
      else
        (run, '_' :: character :: rest)
  | character :: rest =>
      match Text.decimalValue? character with
      | some digit =>
          takeDigits underscores ⟨10 * run.value + digit, run.count + 1⟩ rest
      | none => (run, character :: rest)

/-- An optional sign; the flag is set for a minus. -/
def takeSign : List Char → Bool × List Char
  | '-' :: rest => (true, rest)
  | '+' :: rest => (false, rest)
  | characters => (false, characters)

/-- An exponent part that reaches to the end of the text. -/
def readExponent? (underscores : Bool) : List Char → Option Int
  | [] => some 0
  | mark :: rest =>
      if mark = 'e' || mark = 'E' then
        let (negative, rest) := takeSign rest
        match takeDigits underscores ⟨0, 0⟩ rest with
        | (run, []) =>
            if run.count = 0 then none
            else some (if negative then -(run.value : Int) else run.value)
        | _ => none
      else
        none

/-- Coefficient and exponent of an unsigned number text. -/
def readMagnitude? (underscores : Bool) (characters : List Char) :
    Option (Nat × Int) :=
  let (whole, rest) := takeDigits underscores ⟨0, 0⟩ characters
  let (all, rest) :=
    match rest with
    | '.' :: fraction =>
        let (run, rest) := takeDigits underscores ⟨0, 0⟩ fraction
        (DigitRun.mk (whole.value * Nat.pow 10 run.count + run.value)
          (whole.count + run.count), rest)
    | _ => (whole, rest)
  if all.count = 0 then none
  else
    (readExponent? underscores rest).map fun exponent =>
      (all.value, exponent - ((all.count : Int) - (whole.count : Int)))

private def smallAscii (characters : List Char) : List Char :=
  characters.map Char.toLower

def Binary.read? (text : String) : Option Binary :=
  let (negative, magnitude) := takeSign (Text.trim text.toList)
  let name := String.ofList (smallAscii magnitude)
  if name = "nan" then some .nan
  else if name = "inf" ∨ name = "infinity" then some (.infinite negative)
  else
    (readMagnitude? true magnitude).map fun (coefficient, exponent) =>
      Binary.ofDecimal negative coefficient exponent

/-- The payload digits of an undefined decimal. -/
private def readPayload? (characters : List Char) : Option (Option Nat) :=
  match takeDigits false ⟨0, 0⟩ characters with
  | (run, []) => some (if run.value = 0 then none else some run.value)
  | _ => none

def Decimal.read? (text : String) : Option Decimal :=
  let plain := (Text.trim text.toList).filter (· != '_')
  let (negative, magnitude) := takeSign plain
  match smallAscii magnitude with
  | ['i', 'n', 'f'] => some (.infinite negative)
  | ['i', 'n', 'f', 'i', 'n', 'i', 't', 'y'] => some (.infinite negative)
  | 'n' :: 'a' :: 'n' :: payload =>
      (readPayload? payload).map (.undefined negative false)
  | 's' :: 'n' :: 'a' :: 'n' :: payload =>
      (readPayload? payload).map (.undefined negative true)
  | _ =>
      (readMagnitude? false magnitude).map fun (coefficient, exponent) =>
        .finite negative coefficient exponent

end Midrange.Number
