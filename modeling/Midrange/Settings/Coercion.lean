import Midrange.Fault
import Midrange.Text.Blank

/-!
# Coercion of setting values

A setting accepts values of its own kind and, where that is harmless, texts and
numbers that denote one.  Otherwise the coercion says what is wrong.
-/

namespace Midrange.Settings

open Midrange.Number

/-- What is wrong with a value. -/
inductive Flaw where
  | notText
  | notWhole
  | unreadableWhole
  | longWhole
  | fraction
  | notFinite
  | notTruth
  | unreadableTruth
  | notDictionary
  deriving DecidableEq, Repr

/-- The name under which a flaw is reported. -/
def Flaw.name : Flaw → String
  | .notText => "string_type"
  | .notWhole => "int_type"
  | .unreadableWhole => "int_parsing"
  | .longWhole => "int_parsing_size"
  | .fraction => "int_from_float"
  | .notFinite => "finite_number"
  | .notTruth => "bool_type"
  | .unreadableTruth => "bool_parsing"
  | .notDictionary => "dict_type"

/-- A text setting takes texts only. -/
def coerceText : Value → Except Flaw Value
  | .text content => .ok (.text content)
  | _ => .error .notText

def coerceOptional (coerce : Value → Except Flaw Value) : Value → Except Flaw Value
  | .null => .ok .null
  | value => coerce value

/-- The text after the zeros at its start, which underscores may separate.  A
minus may follow them; the last zero before a point stays, and of nothing but
zeros the last character.  A text that starts like no number has none. -/
def withoutZeros : List Char → Option (List Char)
  | '0' :: rest => afterZero '0' rest
  | first :: rest =>
      if first.isDigit || first = '-' then some (first :: rest) else none
  | [] => none
where
  afterZero (last : Char) : List Char → Option (List Char)
    | [] => some [last]
    | character :: rest =>
        if character = '0' || character = '_' then afterZero character rest
        else if character = '.' then some (last :: '.' :: rest)
        else if character.isDigit || character = '-' then some (character :: rest)
        else none

/-- The text before a point that only zeros follow, and at least one. -/
def withoutFraction (characters : List Char) : List Char :=
  match characters.dropWhile (· ≠ '.') with
  | _ :: zeros =>
      if !zeros.isEmpty && zeros.all (· == '0') then
        characters.takeWhile (· ≠ '.')
      else characters
  | [] => characters

/-- Holds if every underscore stands alone between two characters. -/
def hasSingleUnderscores : List Char → Bool
  | [] => true
  | ['_'] => false
  | '_' :: '_' :: _ => false
  | _ :: rest => hasSingleUnderscores rest

/-- The text without its underscores, if none stands at an end or beside
another. -/
def withoutUnderscores (characters : List Char) : List Char :=
  if characters.head? ≠ some '_' && hasSingleUnderscores characters then
    characters.filter (· ≠ '_')
  else characters

/-- The magnitude that digits write.  A number of several digits starts with no
zero, and it has at most as many digits as a numeral may have. -/
def readMagnitude (characters : List Char) : Except Flaw Nat :=
  let digits := characters.takeWhile Char.isDigit
  let rest := characters.dropWhile Char.isDigit
  if digits.head? = some '0' then
    if characters = ['0'] then .ok 0 else .error .unreadableWhole
  else if Fault.numeralLimit < digits.length then .error .longWhole
  else if digits.isEmpty || !rest.isEmpty then .error .unreadableWhole
  else
    .ok (digits.foldl (fun value digit => 10 * value + (digit.toNat - 48)) 0)

def readSigned : List Char → Except Flaw Int
  | '-' :: digits => (readMagnitude digits).map fun magnitude => -(magnitude : Int)
  | digits => (readMagnitude digits).map Int.ofNat

/-- A number with its zeros, fraction and underscores dropped. -/
def tidy (characters : List Char) : Option (List Char) :=
  (withoutZeros characters).map fun rest =>
    withoutUnderscores (withoutFraction rest)

/-- The whole number that a text denotes.  A sign may stand at the start, and a
minus also after zeros. -/
def readWhole (text : String) : Except Flaw Int :=
  let tidied :=
    match Text.trimBy Text.isNumeralBlank text.toList with
    | '-' :: rest => (tidy rest).map ('-' :: ·)
    | '+' :: '-' :: _ => none
    | '+' :: rest => tidy rest
    | characters => tidy characters
  match tidied with
  | some characters => readSigned characters
  | none => .error .unreadableWhole

/-- Holds for the whole numbers that a machine word of 64 bits can hold. -/
def isWord (number : Int) : Bool :=
  -Int.pow 2 63 ≤ number && number < Int.pow 2 63

/-- The whole number that a double-precision number is.  It must lie within a
machine word, whose least number does not count. -/
def wholeOf (number : Binary) : Except Flaw Int :=
  if number.isFinite then
    match number.whole? with
    | some whole =>
        if isWord whole && whole ≠ -Int.pow 2 63 then .ok whole else .error .longWhole
    | none => .error .fraction
  else .error .notFinite

/-- A whole-number setting takes truths, numbers without a fraction and texts
that denote one. -/
def coerceWhole : Value → Except Flaw Value
  | .int number => .ok (.int number)
  | .bool truth => .ok (.int (if truth then 1 else 0))
  | .text content => (readWhole content).map .int
  | .float number => (wholeOf number).map .int
  | .decimal number =>
      if number.isFinite then
        match number.whole? with
        | some whole => .ok (.int whole)
        | none => .error .fraction
      else .error .notFinite
  | _ => .error .notWhole

/-- Texts that mean true. -/
def trueTexts : List String := ["1", "true", "t", "yes", "y", "on"]

/-- Texts that mean false. -/
def falseTexts : List String := ["0", "false", "f", "no", "n", "off"]

def truthOfWhole (number : Int) : Except Flaw Value :=
  if number = 0 then .ok (.bool false)
  else if number = 1 then .ok (.bool true)
  else .error .unreadableTruth

def truthOfBinary (number : Binary) : Except Flaw Value :=
  match wholeOf number with
  | .ok whole => truthOfWhole whole
  | .error _ => .error .notTruth

/-- A truth setting takes truths, numbers equal to zero or one, and the texts
that mean true or false. -/
def coerceTruth : Value → Except Flaw Value
  | .bool truth => .ok (.bool truth)
  | .int number => if isWord number then truthOfWhole number else .error .notTruth
  | .float number => truthOfBinary number
  | .decimal number =>
      match number.toBinary? with
      | some number => truthOfBinary number
      | none => .error .notTruth
  | .text content =>
      let plain := String.ofList (content.toList.map Char.toLower)
      if trueTexts.contains plain then .ok (.bool true)
      else if falseTexts.contains plain then .ok (.bool false)
      else .error .unreadableTruth
  | _ => .error .notTruth

/-- A step on the way to a flaw inside a setting. -/
inductive Step where
  | name (name : String)
  | position (number : Int)
  deriving DecidableEq, Repr

/-- The step to a key of a dictionary.  Whole numbers of a machine word stand for
themselves, and any other key for its displayed form. -/
def Step.ofKey (key : Value) : Step :=
  match key with
  | .bool truth => .position (if truth then 1 else 0)
  | .int number => if isWord number then .position number else .name key.display
  | .text content => .name content
  | _ => .name key.display

/-- A flaw and the way to it. -/
structure Complaint where
  path : List Step
  flaw : Flaw
  deriving DecidableEq, Repr

/-- The complaints about the keys of a dictionary that are not texts. -/
def keyComplaints (entries : List (Value × Value)) : List Complaint :=
  entries.filterMap fun entry =>
    match entry.1 with
    | .text _ => none
    | key => some ⟨[Step.ofKey key, .name "[key]"], .notText⟩

/-- A setting of further options takes dictionaries whose keys are texts. -/
def coerceEntries : Value → Except (List Complaint) (Fields Value)
  | .dict entries =>
      match keyComplaints entries with
      | [] =>
          .ok (Fields.ofPairs (entries.map fun entry => (entry.1.toText, entry.2)))
      | complaints => .error complaints
  | _ => .error [⟨[], .notDictionary⟩]

end Midrange.Settings
