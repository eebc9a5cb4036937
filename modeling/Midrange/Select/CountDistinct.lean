import Midrange.Text.Blank

/-!
# Distinct counts

A select list that already counts distinct values needs no `distinct` of its
own.  The aggregate is recognised by its spelling, in any letter case: the
keywords, one blank, and an expression without blanks up to a closing
parenthesis.
-/

namespace Midrange.Select

open Midrange.Text

/-- The letters of a keyword in either case; `i` also stands for the dotted and
dotless forms, and `s` for the long form. -/
def spells (letter character : Char) : Bool :=
  letter = character.toLower ||
    (letter = 'i' && (character = 'İ' || character = 'ı')) ||
    (letter = 's' && character = 'ſ')

/-- What follows a keyword at the start of a text. -/
def afterKeyword? : List Char → List Char → Option (List Char)
  | [], rest => some rest
  | _ :: _, [] => none
  | letter :: keyword, character :: rest =>
      if spells letter character then afterKeyword? keyword rest else none

/-- The keywords of the aggregate. -/
def countKeyword : List Char := "count(distinct".toList

/-- The text starts with an aggregate over distinct values.  The expression has
at least one character before its closing parenthesis. -/
def startsWithCount (characters : List Char) : Bool :=
  match afterKeyword? countKeyword characters with
  | some (blank :: rest) =>
      isBlank blank &&
        ((rest.takeWhile (!isBlank ·)).drop 1).contains ')'
  | _ => false

def containsCount : List Char → Bool
  | [] => false
  | character :: rest =>
      startsWithCount (character :: rest) || containsCount rest

def isCountDistinct (selects : String) : Bool :=
  containsCount selects.toList

end Midrange.Select
