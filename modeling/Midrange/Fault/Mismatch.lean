/-!
# Mismatches

Values that are used in a way that their kind does not allow, and arguments that
do not fit the operation that they are given to.  Kinds are given by the names
that `Value.kindName` has for them.
-/

namespace Midrange

/-- A use that does not fit. -/
inductive Mismatch where
  | notIterable (kind : String)
  | notCallable (kind : String)
  | notCounted (kind : String)
  | notAddable (left right : String)
  | notJoinable (left right : String)
  | notHashable (kind : String)
  | notAKey (kind : String)
  | fixedItems (kind : String)
  | textIndex
  | notASequence (position : Nat)
  | fixedClass (kind : String)
  | fixedMembers (kind : String)
  | doubledArgument (operation name : String)
  | unexpectedArgument (operation name : String)
  | missingArguments (operation : String) (names : List String)
  | extraArguments (operation : String) (least greatest given : Nat)
  deriving DecidableEq, Repr

namespace Mismatch

private def quoted (name : String) : String :=
  "'" ++ name ++ "'"

private def plural (count : Nat) : String :=
  if count = 1 then "" else "s"

/-- Names in a row, the last one after a conjunction. -/
def enumerate (names : List String) : String :=
  match (names.map quoted).reverse with
  | [] => ""
  | [name] => name
  | [second, first] => first ++ " and " ++ second
  | last :: earlier =>
      String.intercalate ", " earlier.reverse ++ ", and " ++ last

private def range (least greatest : Nat) : String :=
  if least = greatest then toString greatest
  else "from " ++ toString least ++ " to " ++ toString greatest

def text : Mismatch → String
  | .notIterable kind => quoted kind ++ " object is not iterable"
  | .notCallable kind => quoted kind ++ " object is not callable"
  | .notCounted kind =>
      quoted kind ++ " object cannot be interpreted as an integer"
  | .notAddable left right =>
      "unsupported operand type(s) for +: " ++ quoted left ++ " and " ++ quoted right
  | .notJoinable left right =>
      "can only concatenate " ++ left ++ " (not \"" ++ right ++ "\") to " ++ left
  | .notHashable kind => "unhashable type: " ++ quoted kind
  | .notAKey kind => "keys must be str, int, float, bool or None, not " ++ kind
  | .fixedItems kind => quoted kind ++ " object does not support item assignment"
  | .textIndex => "list indices must be integers or slices, not str"
  | .notASequence position =>
      "cannot convert dictionary update sequence element #" ++ toString position ++
        " to a sequence"
  | .fixedClass kind =>
      "__class__ must be set to a class, not " ++ quoted kind ++ " object"
  | .fixedMembers kind =>
      "__dict__ must be set to a dictionary, not a " ++ quoted kind
  | .doubledArgument operation name =>
      operation ++ "() got multiple values for argument " ++ quoted name
  | .unexpectedArgument operation name =>
      operation ++ "() got an unexpected keyword argument " ++ quoted name
  | .missingArguments operation names =>
      operation ++ "() missing " ++ toString names.length ++
        " required positional argument" ++ plural names.length ++ ": " ++
        enumerate names
  | .extraArguments operation least greatest given =>
      operation ++ "() takes " ++ range least greatest ++ " positional argument" ++
        plural greatest ++ " but " ++ toString given ++ " were given"

end Mismatch

end Midrange
