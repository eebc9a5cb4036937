import Midrange.Fault
import Midrange.Number.Binary

/-!
# Reading JSON

`Json.read?` reads a whole text as one JSON value.  Integers stay exact, a
number with a fraction or an exponent becomes a floating-point number, the last
of several values under one name counts, and the names of the infinities and of
the undefined number are accepted.
-/

namespace Midrange.Settings.Json

open Midrange.Number

/-- Drops the blanks that may stand between tokens. -/
def skipBlanks (characters : List Char) : List Char :=
  characters.dropWhile fun character =>
    character = ' ' || character = '\t' || character = '\n' || character = '\r'

def hexValue? (character : Char) : Option Nat :=
  if '0' ≤ character ∧ character ≤ '9' then some (character.toNat - 48)
  else if 'a' ≤ character ∧ character ≤ 'f' then some (character.toNat - 87)
  else if 'A' ≤ character ∧ character ≤ 'F' then some (character.toNat - 55)
  else none

def hexNumber? (first second third fourth : Char) : Option Nat := do
  let a ← hexValue? first
  let b ← hexValue? second
  let c ← hexValue? third
  let d ← hexValue? fourth
  return ((a * 16 + b) * 16 + c) * 16 + d

/-- The character that a short escape stands for. -/
def shortEscape? : Char → Option Nat
  | '"' => some 34
  | '\\' => some 92
  | '/' => some 47
  | 'b' => some 8
  | 'f' => some 12
  | 'n' => some 10
  | 'r' => some 13
  | 't' => some 9
  | _ => none

/-- The code units up to the closing quote, and what follows it. -/
def readUnits : List Char → Option (List Nat × List Char)
  | [] => none
  | '"' :: rest => some ([], rest)
  | '\\' :: 'u' :: first :: second :: third :: fourth :: rest => do
      let unit ← hexNumber? first second third fourth
      let (units, rest) ← readUnits rest
      return (unit :: units, rest)
  | '\\' :: escape :: rest => do
      let unit ← shortEscape? escape
      let (units, rest) ← readUnits rest
      return (unit :: units, rest)
  | character :: rest =>
      if character = '\\' ∨ character.toNat < 0x20 then none
      else do
        let (units, rest) ← readUnits rest
        return (character.toNat :: units, rest)

private def isHighSurrogate (unit : Nat) : Bool :=
  0xD800 ≤ unit && unit ≤ 0xDBFF

private def isLowSurrogate (unit : Nat) : Bool :=
  0xDC00 ≤ unit && unit ≤ 0xDFFF

/-- The characters of code units.  A pair of surrogates is one character, and
one that stands alone becomes the replacement character. -/
def joinUnits : List Nat → List Char
  | [] => []
  | [unit] =>
      [if isHighSurrogate unit || isLowSurrogate unit then '\uFFFD'
        else Char.ofNat unit]
  | unit :: next :: rest =>
      if isHighSurrogate unit && isLowSurrogate next then
        Char.ofNat (0x10000 + (unit - 0xD800) * 0x400 + (next - 0xDC00)) ::
          joinUnits rest
      else
        (if isHighSurrogate unit || isLowSurrogate unit then '\uFFFD'
          else Char.ofNat unit) :: joinUnits (next :: rest)

/-- The text after an opening quote. -/
def readText (characters : List Char) : Option (String × List Char) := do
  let (units, rest) ← readUnits characters
  return (String.ofList (joinUnits units), rest)

private def digitsValue (digits : List Char) : Nat :=
  digits.foldl (fun value digit => 10 * value + (digit.toNat - 48)) 0

private def takeDecimal (characters : List Char) : List Char × List Char :=
  (characters.takeWhile Char.isDigit, characters.dropWhile Char.isDigit)

/-- The fraction digits after a point; a point without digits is left alone. -/
def takeFraction (characters : List Char) : List Char × List Char :=
  match characters with
  | '.' :: rest =>
      match takeDecimal rest with
      | ([], _) => ([], characters)
      | found => found
  | _ => ([], characters)

/-- The exponent; a mark without digits is left alone. -/
def takeExponent (characters : List Char) : Option Int × List Char :=
  match characters with
  | mark :: rest =>
      if mark = 'e' ∨ mark = 'E' then
        let (negative, unsigned) :=
          match rest with
          | '-' :: rest => (true, rest)
          | '+' :: rest => (false, rest)
          | _ => (false, rest)
        match takeDecimal unsigned with
        | ([], _) => (none, characters)
        | (digits, rest) =>
            let value : Int := digitsValue digits
            (some (if negative then -value else value), rest)
      else
        (none, characters)
  | [] => (none, characters)

/-- A number without its sign. -/
def readNumber (negative : Bool) (characters : List Char) :
    Option (Value × List Char) :=
  let (whole, rest) :=
    match characters with
    | '0' :: rest => (['0'], rest)
    | _ => takeDecimal characters
  if whole = [] then none
  else
    let (fraction, rest) := takeFraction rest
    let (exponent, rest) := takeExponent rest
    if fraction = [] ∧ exponent = none then
      if Fault.numeralLimit < whole.length then none
      else
        let value : Int := digitsValue whole
        some (.int (if negative then -value else value), rest)
    else
      some (.float (Binary.ofDecimal negative (digitsValue (whole ++ fraction))
        (exponent.getD 0 - fraction.length)), rest)

private def dictionary (entries : List (String × Value)) : Value :=
  .dict ((Fields.ofPairs entries).entries.map fun entry =>
    (.text entry.1, entry.2))

mutual

/-- One value and what follows it; the first argument bounds the depth and the
number of its parts. -/
def readValue : Nat → List Char → Option (Value × List Char)
  | 0, _ => none
  | fuel + 1, characters =>
      match characters with
      | '"' :: rest => do
          let (text, rest) ← readText rest
          return (.text text, rest)
      | '{' :: rest =>
          match skipBlanks rest with
          | '}' :: rest => some (.dict [], rest)
          | rest => do
              let (entries, rest) ← readEntries fuel rest
              return (dictionary entries, rest)
      | '[' :: rest =>
          match skipBlanks rest with
          | ']' :: rest => some (.list [], rest)
          | rest => do
              let (items, rest) ← readItems fuel rest
              return (.list items, rest)
      | 'n' :: 'u' :: 'l' :: 'l' :: rest => some (.null, rest)
      | 't' :: 'r' :: 'u' :: 'e' :: rest => some (.bool true, rest)
      | 'f' :: 'a' :: 'l' :: 's' :: 'e' :: rest => some (.bool false, rest)
      | 'N' :: 'a' :: 'N' :: rest => some (.float .nan, rest)
      | 'I' :: 'n' :: 'f' :: 'i' :: 'n' :: 'i' :: 't' :: 'y' :: rest =>
          some (.float (.infinite false), rest)
      | '-' :: 'I' :: 'n' :: 'f' :: 'i' :: 'n' :: 'i' :: 't' :: 'y' :: rest =>
          some (.float (.infinite true), rest)
      | '-' :: rest => readNumber true rest
      | _ => readNumber false characters

/-- The items up to the closing bracket. -/
def readItems : Nat → List Char → Option (List Value × List Char)
  | 0, _ => none
  | fuel + 1, characters => do
      let (item, rest) ← readValue fuel characters
      match skipBlanks rest with
      | ']' :: rest => return ([item], rest)
      | ',' :: rest =>
          let (items, rest) ← readItems fuel (skipBlanks rest)
          return (item :: items, rest)
      | _ => none

/-- The entries up to the closing brace. -/
def readEntries : Nat → List Char → Option (List (String × Value) × List Char)
  | 0, _ => none
  | fuel + 1, characters =>
      match characters with
      | '"' :: rest => do
          let (name, rest) ← readText rest
          match skipBlanks rest with
          | ':' :: rest =>
              let (value, rest) ← readValue fuel (skipBlanks rest)
              match skipBlanks rest with
              | '}' :: rest => return ([(name, value)], rest)
              | ',' :: rest =>
                  let (entries, rest) ← readEntries fuel (skipBlanks rest)
                  return ((name, value) :: entries, rest)
              | _ => none
          | _ => none
      | _ => none

end

def read? (text : String) : Option Value :=
  let characters := skipBlanks text.toList
  match readValue (2 * characters.length + 2) characters with
  | some (value, rest) => if skipBlanks rest = [] then some value else none
  | none => none

end Midrange.Settings.Json
