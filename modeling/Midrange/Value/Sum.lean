import Midrange.Fault

/-!
# Sums of values

Numbers add up, where a truth counts as zero or one, and texts, lists and tuples
of the same kind are joined.  All other sums are mismatches.
-/

namespace Midrange.Value

open Midrange.Number

/-- The whole number that a truth counts as. -/
def counted : Value → Value
  | .bool truth => .int (if truth then 1 else 0)
  | value => value

private def addFloat (left right : Option Binary) : Except Fault Value :=
  match left, right with
  | some left, some right => .ok (.float (left.add right))
  | _, _ => .error .immenseNumber

private def addDecimal (left right : Decimal) : Except Fault Value :=
  match left.add right with
  | .ok sum => .ok (.decimal sum)
  | .error raised => .error (.signal raised)

def add (left right : Value) : Except Fault Value :=
  match left.counted, right.counted with
  | .int number, .int other => .ok (.int (number + other))
  | .float number, .float other => addFloat (some number) (some other)
  | .float number, .int other => addFloat (some number) (Binary.ofInt? other)
  | .int number, .float other => addFloat (Binary.ofInt? number) (some other)
  | .decimal number, .decimal other => addDecimal number other
  | .decimal number, .int other => addDecimal number (.ofInt other)
  | .int number, .decimal other => addDecimal (.ofInt number) other
  | .text content, .text other => .ok (.text (content ++ other))
  | .list items, .list others => .ok (.list (items ++ others))
  | .tuple items, .tuple others => .ok (.tuple (items ++ others))
  | .text _, _ | .list _, _ | .tuple _, _ =>
      .error (.mismatch (.notJoinable left.kindName right.kindName))
  | _, _ => .error (.mismatch (.notAddable left.kindName right.kindName))

@[simp] theorem add_int (number other : Int) :
    (Value.int number).add (.int other) = .ok (.int (number + other)) := rfl

mutual

/-- Holds if a value holds a whole number with more digits than a numeral may
have. -/
def isLong : Value → Bool
  | .int number => Nat.pow 10 Fault.numeralLimit ≤ number.natAbs
  | .list items => areLong items
  | .tuple items => areLong items
  | .dict entries => haveLong entries
  | .immediate value => isLong value
  | _ => false

/-- Holds if one of the items is long. -/
def areLong : List Value → Bool
  | [] => false
  | item :: items => isLong item || areLong items

/-- Holds if a key or a value of the entries is long. -/
def haveLong : List (Value × Value) → Bool
  | [] => false
  | (key, value) :: entries => isLong key || isLong value || haveLong entries

end

/-- A text made of values, if the numbers in these can be written. -/
def writing (values : List Value) (text : String) : Except Fault String :=
  if areLong values then .error .longNumber else .ok text

theorem writing_singleton (value : Value) (text : String) :
    writing [value] text = if value.isLong then .error .longNumber else .ok text := by
  rw [writing, areLong, areLong, Bool.or_false]

/-- The text of a value, if its numbers can be written. -/
def write (value : Value) : Except Fault String :=
  writing [value] value.toText

end Midrange.Value
