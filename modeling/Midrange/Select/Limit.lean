import Midrange.Fault

/-!
# Row limits

A query returns all its rows, at most a number of them, or a page after an
offset.  A page without an offset is a plain count.
-/

namespace Midrange

/-- The rows that a query returns. -/
inductive Limit (α : Type) where
  | unlimited
  | count (rows : α)
  | page (offset rows : α)
  deriving DecidableEq, Repr

namespace Limit

variable {α : Type}

/-- The limit for `length` rows after `offset`; an offset that is missing or
counts as nothing leaves a plain count. -/
def ofLength (isNothing : α → Bool) (length : α) : Option α → Limit α
  | none => .count length
  | some offset =>
      if isNothing offset then .count length else .page offset length

/-- The limit that arguments ask for: a length and, if wanted, an offset. -/
def ofArguments : List Value → Except Fault (Limit Value)
  | [] => .error (.mismatch (.missingArguments "limit" ["length"]))
  | [length] => .ok (.count length)
  | [length, offset] => .ok (ofLength (!·.isTrue) length (some offset))
  | arguments => .error (.mismatch (.extraArguments "limit" 1 2 arguments.length))

def display : Limit Value → String
  | .unlimited => "NO_LIMIT"
  | .count rows => "Count(count=" ++ rows.display ++ ")"
  | .page offset rows =>
      "OffsetCount(offset=" ++ offset.display ++ ", count=" ++ rows.display ++ ")"

end Limit

end Midrange
