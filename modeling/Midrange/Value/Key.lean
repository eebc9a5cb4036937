import Midrange.Value

/-!
# Keys of dictionaries

Two keys are the same if they are equal as values, where numbers and truths of
all kinds are compared by size.  A dictionary keeps the position and spelling of
the first of several equal keys and the value of the last.
-/

namespace Midrange.Value

open Midrange.Number

/-- The size of a number: a ratio, or an infinity. -/
inductive Size where
  | ratio (numerator : Int) (denominator : Nat)
  | infinite (negative : Bool)
  deriving DecidableEq, Repr

private def signed (negative : Bool) (magnitude : Nat) : Int :=
  if negative then -(magnitude : Int) else magnitude

/-- The size of a value that is a number or a truth. -/
def size? : Value → Option Size
  | .bool truth => some (.ratio (if truth then 1 else 0) 1)
  | .int number => some (.ratio number 1)
  | .float (.finite negative mantissa exponent) =>
      let (top, bottom) := Binary.scaleBinary mantissa 1 exponent
      some (.ratio (signed negative top) bottom)
  | .float (.infinite negative) => some (.infinite negative)
  | .decimal (.finite negative coefficient exponent) =>
      match exponent with
      | .ofNat power => some (.ratio (signed negative (coefficient * Nat.pow 10 power)) 1)
      | .negSucc power =>
          some (.ratio (signed negative coefficient) (Nat.pow 10 (power + 1)))
  | .decimal (.infinite negative) => some (.infinite negative)
  | _ => none

def Size.same : Size → Size → Bool
  | .ratio top bottom, .ratio otherTop otherBottom =>
      top * otherBottom == otherTop * bottom
  | .infinite negative, .infinite otherNegative => negative == otherNegative
  | _, _ => false

mutual

def sameKey : Value → Value → Bool
  | .null, .null => true
  | .text content, .text other => content == other
  | .tuple items, .tuple others => sameKeys items others
  | .immediate value, .immediate other => sameKey value other
  | left, right =>
      match left.size?, right.size? with
      | some size, some other => size.same other
      | _, _ => false

def sameKeys : List Value → List Value → Bool
  | [], [] => true
  | item :: items, other :: others => sameKey item other && sameKeys items others
  | _, _ => false

end

/-- The entries with the value under a key assigned anew. -/
def putEntry (key value : Value) : List (Value × Value) → List (Value × Value)
  | [] => [(key, value)]
  | (first, old) :: rest =>
      if sameKey first key then (first, value) :: rest
      else (first, old) :: putEntry key value rest

/-- The dictionary that entries assign from first to last. -/
def ofEntries (entries : List (Value × Value)) : Value :=
  .dict (entries.foldl (fun entries entry => putEntry entry.1 entry.2 entries) [])

end Midrange.Value
