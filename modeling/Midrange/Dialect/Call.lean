import Midrange.Dialect

/-!
# Calls by name

The functions and attributes of a dialect, called by name with values for
arguments.
-/

namespace Midrange.Dialect

/-- The functions that can be called, with the names of their arguments. -/
def signatures : List (String × List String) :=
  [("placeholder", ["index"]), ("placeholders", ["count"]),
    ("quote_identifier", ["identifier"]), ("quote_literal", ["value"]),
    ("boolean_true", []), ("boolean_false", []),
    ("is_integer_type", ["column_type"]), ("identity_clause", ["start", "step"]),
    ("fetch_first", ["count"]), ("row_number", ["order_by"]),
    ("offset_window", ["inner_sql", "offset", "count"])]

/-- The attributes of a dialect by name. -/
def attribute? (dialect : Dialect) : String → Option Value
  | "name" => some (.text name)
  | "identifier_quote" => some (.text dialect.identifierQuote)
  | "literal_quote" => some (.text dialect.literalQuote)
  | "integer_type" => some (.text dialect.integerType)
  | "integer_types" => some (.list (dialect.integerTypes.map .text))
  | _ => none

/-- A text, for which `operation` is defined. -/
def expectText (operation : String) : Value → Except Fault String
  | .text content => .ok content
  | value => .error (.missingMember value.kindName operation)

/-- A whole number that counts something. -/
def expectCount (value : Value) : Except Fault Int :=
  match value.counted with
  | .int count => .ok count
  | _ => .error (.mismatch (.notCounted value.kindName))

/-- The fault of a call that no function or attribute takes. -/
def refusal (name : String) (arguments : List Value) : Fault :=
  match signatures.lookup name with
  | none => .missingMember "IbmdbDialect" name
  | some parameters =>
      let operation := "IbmdbDialect." ++ name
      if arguments.length < parameters.length then
        .mismatch (.missingArguments operation (parameters.drop arguments.length))
      else
        .mismatch (.extraArguments operation (parameters.length + 1)
          (parameters.length + 1) (arguments.length + 1))

/-- The text of a call, made of its arguments. -/
def textOf (arguments : List Value) (text : String) : Except Fault Value :=
  (Value.writing arguments text).map .text

def call (dialect : Dialect) (name : String) (arguments : List Value) :
    Except Fault Value :=
  match name, arguments with
  | "placeholder", [_] => .ok (.text placeholder)
  | "placeholders", [count] =>
      (expectCount count).map fun count => .text (placeholders count)
  | "quote_identifier", [identifier] =>
      (expectText "split" identifier).map fun identifier =>
        .text (dialect.quoteIdentifier identifier)
  | "quote_literal", [value] => textOf [value] (dialect.quoteLiteral value)
  | "boolean_true", [] => .ok (.text booleanTrue)
  | "boolean_false", [] => .ok (.text booleanFalse)
  | "is_integer_type", [type] =>
      (expectText "lower" type).map fun type => .bool (dialect.isIntegerType type)
  | "identity_clause", [start, step] => textOf [start, step] (identityClause start step)
  | "fetch_first", [count] => textOf [count] (fetchFirst count)
  | "row_number", [orderBy] => textOf [orderBy] (rowNumber orderBy.toText)
  | "offset_window", [inner, offset, count] => do
      return .text (← offsetWindow (← inner.write) offset count)
  | _, _ =>
      match dialect.attribute? name with
      | some value => .ok value
      | none => .error (refusal name arguments)

end Midrange.Dialect
