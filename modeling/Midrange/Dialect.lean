import Midrange.Text.Blank
import Midrange.Text.LetterCase
import Midrange.Value.Sum

/-!
# The dialect of the store

Quoting rules and the small fragments that statements are made of.  The store
has no offset clause: a page is cut out of a statement that numbers its rows.

A fragment is the text of values that can be written.  Whether they can is asked
where a statement or the text of a call is made, with `Value.writing`.
-/

namespace Midrange

open Midrange.Text

/-- The quotes of the store and its integer types. -/
structure Dialect where
  identifierQuote : String := "\""
  literalQuote : String := "'"
  integerTypes : List String := ["int", "integer"]
  integerType : String := "int"
  deriving DecidableEq, Repr

namespace Dialect

def name : String := "ibmdb"

/-- The placeholder of a parameter; it is the same for every position. -/
def placeholder : String := "?"

/-- Placeholders for several parameters. -/
def placeholders (count : Int) : String :=
  String.intercalate ", " (List.replicate count.toNat placeholder)

/-- Holds for a part of an identifier that is left as it is: the star, and a
part that already begins and ends with the quote. -/
def isFinished (dialect : Dialect) (part : List Char) : Bool :=
  part = ['*'] ||
    match dialect.identifierQuote.toList with
    | [quote] =>
        1 < part.length && part.head? = some quote && part.getLast? = some quote
    | _ => false

/-- One part of an identifier, trimmed and quoted. -/
def quotePart (dialect : Dialect) (part : List Char) : List Char :=
  let trimmed := trim part
  if dialect.isFinished trimmed then trimmed
  else
    dialect.identifierQuote.toList ++ trimmed ++ dialect.identifierQuote.toList

/-- An identifier with every part between dots quoted. -/
def quoteIdentifier (dialect : Dialect) (identifier : String) : String :=
  String.ofList
    (joinWith ['.'] ((splitAt '.' identifier.toList).map dialect.quotePart))

/-- The characters with every occurrence of the quote doubled, from left to
right.  The first argument counts characters of the current occurrence. -/
def doubleQuotes (quote : List Char) : Nat → List Char → List Char
  | _, [] => []
  | passed + 1, _ :: rest => doubleQuotes quote passed rest
  | 0, character :: rest =>
      if quote ≠ [] ∧ quote.isPrefixOf (character :: rest) then
        quote ++ quote ++ doubleQuotes quote (quote.length - 1) rest
      else
        character :: doubleQuotes quote 0 rest

/-- A text between literal quotes. -/
def quoteText (dialect : Dialect) (text : String) : String :=
  let quote := dialect.literalQuote.toList
  String.ofList (quote ++ doubleQuotes quote 0 text.toList ++ quote)

def booleanTrue : String := "1"

def booleanFalse : String := "0"

/-- The literal of a value: null, truths and numbers stand bare, the text of any
other value is quoted. -/
def quoteLiteral (dialect : Dialect) : Value → String
  | .null => "null"
  | .bool truth => if truth then booleanTrue else booleanFalse
  | .int number => toString number
  | .float number => number.text
  | .decimal number => number.text
  | value => dialect.quoteText value.toText

/-- Holds for the types that may carry an identity column as they are. -/
def isIntegerType (dialect : Dialect) (columnType : String) : Bool :=
  dialect.integerTypes.contains (small columnType)

def identityClause (start step : Value) : String :=
  "generated always as identity (start with " ++ start.toText ++
    ", increment by " ++ step.toText ++ ")"

/-- The clause that keeps the first rows. -/
def fetchFirst (count : Value) : String :=
  "fetch first " ++ count.toText ++ " rows only"

/-- The column that numbers the rows in the order of the given clause. -/
def rowNumber (orderBy : String) : String :=
  "row_number() over(" ++ orderBy ++ ") rn"

/-- The statement that keeps the rows numbered after one bound up to another. -/
def window (inner first last : String) : String :=
  "select * from (" ++ inner ++ ") tmp where tmp.rn > " ++ first ++
    " and tmp.rn <= " ++ last

/-- The statement that keeps the rows numbered after `offset` up to
`offset + count`, unless these have no sum. -/
def offsetWindow (inner : String) (offset count : Value) : Except Fault String := do
  let first ← offset.write
  let last ← offset.add count
  return window inner first (← last.write)

end Dialect

end Midrange
