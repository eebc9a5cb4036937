import Midrange.Log.Line

/-!
# JSON lines

A value as a JSON line shows it.  What JSON has no form for is shown by its
displayed text.
-/

namespace Midrange.Log

/-- A number as a key of JSON. -/
def numberKey : Number.Binary → String
  | .nan => "NaN"
  | .infinite negative => if negative then "-Infinity" else "Infinity"
  | number => number.text

/-- A key as JSON shows it; collections and decimals are no keys. -/
def jsonKey : Value → Except Fault String
  | .null => .ok "null"
  | .bool truth => .ok (if truth then "true" else "false")
  | .int number => .ok (toString number)
  | .float number => .ok (numberKey number)
  | .text content => .ok content
  | key => .error (.mismatch (.notAKey key.kindName))

mutual

/-- A value as JSON shows it: tuples as lists, keys as texts, and decimals and
marked results as displayed texts. -/
def jsonValue : Value → Except Fault Value
  | .list items => (jsonItems items).map .list
  | .tuple items => (jsonItems items).map .list
  | .dict entries =>
      (jsonEntries entries).map fun entries =>
        .dict ((Fields.ofPairs entries).entries.map fun entry =>
          (.text entry.1, entry.2))
  | .decimal number => .ok (.text (Value.decimal number).display)
  | .immediate value => .ok (.text (Value.immediate value).display)
  | value => .ok value

def jsonItems : List Value → Except Fault (List Value)
  | [] => .ok []
  | item :: items => do
      let shown ← jsonValue item
      return shown :: (← jsonItems items)

def jsonEntries : List (Value × Value) → Except Fault (List (String × Value))
  | [] => .ok []
  | (key, value) :: entries => do
      let name ← jsonKey key
      let shown ← jsonValue value
      return (name, shown) :: (← jsonEntries entries)

end

def jsonLine (fields : Fields Value) : Except Fault Line := do
  let entries ← fields.entries.mapM fun entry =>
    (jsonValue entry.2).map fun value => (entry.1, value)
  return .json (Fields.ofPairs entries)

end Midrange.Log
