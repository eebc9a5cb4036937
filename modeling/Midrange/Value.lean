import Midrange.Number.Decimal
import Midrange.Number.Shortest
import Midrange.Text.Quoted

/-!
# Values

Bindings, column defaults, option values and log fields are dynamic values.  A
value has a plain text, a displayed form for use inside other values, a truth,
and, if it is a text or a collection, items.  Among them are the results that
work marks as available: outside the transaction that awaits them they are
values like any other.
-/

namespace Midrange

open Midrange.Number

/-- A dynamic value. -/
inductive Value where
  | null
  | bool (truth : Bool)
  | int (number : Int)
  | float (number : Binary)
  | decimal (number : Decimal)
  | text (content : String)
  | list (items : List Value)
  | tuple (items : List Value)
  | dict (entries : List (Value × Value))
  | immediate (value : Value)
  deriving Repr, Inhabited

namespace Value

private def between (opening closing : String) (items : List String) : String :=
  opening ++ String.intercalate ", " items ++ closing

mutual

/-- The form of a value inside another value. -/
def display : Value → String
  | .null => "None"
  | .bool true => "True"
  | .bool false => "False"
  | .int number => toString number
  | .float number => number.text
  | .decimal number => "Decimal('" ++ number.text ++ "')"
  | .text content => Text.quoted content
  | .list items => between "[" "]" (displayItems items)
  | .tuple [item] => "(" ++ item.display ++ ",)"
  | .tuple items => between "(" ")" (displayItems items)
  | .dict entries => between "\x7b" "\x7d" (displayEntries entries)
  | .immediate value => "Immediate(value=" ++ value.display ++ ")"

def displayItems : List Value → List String
  | [] => []
  | item :: items => item.display :: displayItems items

/-- The displayed forms of the entries of a dictionary. -/
def displayEntries : List (Value × Value) → List String
  | [] => []
  | (key, value) :: entries =>
      (key.display ++ ": " ++ value.display) :: displayEntries entries

end

/-- The text of a value on its own.  Where the value may hold a number without a
numeral, `Value.write` tells whether it can be written at all. -/
def toText : Value → String
  | .text content => content
  | .decimal number => number.text
  | value => value.display

/-- Zeros, empty texts and empty collections are false, and so is null. -/
def isTrue : Value → Bool
  | .null => false
  | .bool truth => truth
  | .int number => number != 0
  | .float number => !number.isZero
  | .decimal number => !number.isZero
  | .text content => content != ""
  | .list items => !items.isEmpty
  | .tuple items => !items.isEmpty
  | .dict entries => !entries.isEmpty
  | .immediate _ => true

/-- The name of the kind of a value, as messages spell it. -/
def kindName : Value → String
  | .null => "NoneType"
  | .bool _ => "bool"
  | .int _ => "int"
  | .float _ => "float"
  | .decimal _ => "decimal.Decimal"
  | .text _ => "str"
  | .list _ => "list"
  | .tuple _ => "tuple"
  | .dict _ => "dict"
  | .immediate _ => "Immediate"

/-- The items of a collection: the characters of a text, the keys of a
dictionary.  Other values have none. -/
def items? : Value → Option (List Value)
  | .text content => some (content.toList.map fun character =>
      .text (String.singleton character))
  | .list items => some items
  | .tuple items => some items
  | .dict entries => some (entries.map (·.1))
  | _ => none

private theorem between_ne_empty {opening closing : String} {items : List String}
    (opens : opening ≠ "") : between opening closing items ≠ "" := by
  simp [between, opens]

/-- Whatever counts as something has a text. -/
theorem toText_ne_empty {value : Value} (isTrue : value.isTrue = true) :
    value.toText ≠ "" := by
  cases value with
  | null => cases isTrue
  | bool truth =>
      cases truth with
      | false => cases isTrue
      | true =>
          change "True" ≠ ""
          decide
  | int number =>
      change toString number ≠ ""
      intro empty
      have none := congrArg String.toList empty
      cases number <;> simp [Int.toString_eq_repr, Int.repr] at none
  | float number => exact number.text_ne_empty
  | decimal number => exact number.text_ne_empty
  | text content => simpa [Value.isTrue, toText] using isTrue
  | list items => exact between_ne_empty (by decide)
  | tuple items =>
      cases items with
      | nil => exact between_ne_empty (by decide)
      | cons item rest =>
          cases rest with
          | nil =>
              change "(" ++ item.display ++ ",)" ≠ ""
              simp
          | cons => exact between_ne_empty (by decide)
  | dict entries => exact between_ne_empty (by decide)
  | immediate value =>
      change "Immediate(value=" ++ value.display ++ ")" ≠ ""
      simp

end Value

end Midrange
