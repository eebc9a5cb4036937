import Midrange.Fields
import Midrange.Text.Blank

/-!
# Variable files

A variable file assigns texts to names, one statement after another.  Values may
be bare, in single quotes or in double quotes; a later binding of a name
replaces an earlier one, and a statement that is not well formed is skipped with
the rest of its line.  In a value, a name in braces after a dollar sign stands
for the value of that name.
-/

namespace Midrange.Settings.VariableFile

open Midrange.Text

/-- One binding: a name with its value, if there is an equals sign. -/
structure Binding where
  name : String
  value : Option String
  deriving DecidableEq, Repr

private def isLineEnd (character : Char) : Bool :=
  character = '\n' || character = '\r'

private def isInlineBlank (character : Char) : Bool :=
  isBlank character && !isLineEnd character

private def skipInline (characters : List Char) : List Char :=
  characters.dropWhile isInlineBlank

/-- Line ends in one form. -/
def normaliseLines : List Char → List Char
  | '\r' :: '\n' :: rest => '\n' :: normaliseLines rest
  | '\r' :: rest => '\n' :: normaliseLines rest
  | character :: rest => character :: normaliseLines rest
  | [] => []

/-- What follows the current line. -/
def skipLine (characters : List Char) : List Char :=
  (characters.dropWhile (!isLineEnd ·)).drop 1

/-- Drops the word `export` and the blanks after it. -/
def skipExport (characters : List Char) : List Char :=
  match characters with
  | 'e' :: 'x' :: 'p' :: 'o' :: 'r' :: 't' :: rest =>
      if (rest.head?.map isInlineBlank).getD false then skipInline rest
      else characters
  | _ => characters

/-- The characters up to the closing quote, with escapes left as they are, and
what follows it.  A backslash keeps the character after it from closing. -/
def takeQuoted (quote : Char) : List Char → Option (List Char × List Char)
  | [] => none
  | '\\' :: character :: rest =>
      (takeQuoted quote rest).map fun (inside, rest) =>
        ('\\' :: character :: inside, rest)
  | character :: rest =>
      if character = quote then some ([], rest)
      else
        (takeQuoted quote rest).map fun (inside, rest) => (character :: inside, rest)

/-- The character that an escape in single quotes stands for. -/
def singleEscape? : Char → Option Char
  | '\\' => some '\\'
  | '\'' => some '\''
  | _ => none

/-- The character that an escape in double quotes stands for. -/
def doubleEscape? : Char → Option Char
  | '\\' => some '\\'
  | '\'' => some '\''
  | '"' => some '"'
  | 'a' => some '\x07'
  | 'b' => some '\x08'
  | 'f' => some '\x0C'
  | 'n' => some '\n'
  | 'r' => some '\r'
  | 't' => some '\t'
  | 'v' => some '\x0B'
  | _ => none

def unescape (escape? : Char → Option Char) : List Char → List Char
  | '\\' :: character :: rest =>
      match escape? character with
      | some meaning => meaning :: unescape escape? rest
      | none => '\\' :: unescape escape? (character :: rest)
  | character :: rest => character :: unescape escape? rest
  | [] => []

/-- The characters before a comment, which follows a blank. -/
def withoutComment : List Char → List Char
  | [] => []
  | character :: rest =>
      if isBlank character &&
          ((rest.dropWhile isBlank).head? == some '#') then []
      else character :: withoutComment rest

/-- The name of a binding and what follows it.  A comment has no name. -/
def takeName (characters : List Char) :
    Option (Option (List Char) × List Char) :=
  match characters with
  | '#' :: _ => some (none, characters)
  | '\'' :: rest =>
      let name := rest.takeWhile (· ≠ '\'')
      match rest.dropWhile (· ≠ '\'') with
      | '\'' :: rest => if name = [] then none else some (some name, rest)
      | _ => none
  | _ =>
      let isNamePart (character : Char) : Bool :=
        !(character = '=' || character = '#' || isBlank character)
      let name := characters.takeWhile isNamePart
      if name = [] then none
      else some (some name, characters.dropWhile isNamePart)

/-- The bare value that starts a line.  A blank before it may start a comment in
its place. -/
def bareValue (afterBlank : Bool) (line : List Char) : List Char :=
  let value :=
    if afterBlank then (withoutComment (' ' :: line)).drop 1
    else withoutComment line
  (value.reverse.dropWhile isBlank).reverse

/-- A value and what follows it. -/
def takeValue (afterBlank : Bool) (characters : List Char) :
    Option (List Char × List Char) :=
  match characters with
  | '\'' :: rest =>
      (takeQuoted '\'' rest).map fun (inside, rest) =>
        (unescape singleEscape? inside, rest)
  | '"' :: rest =>
      (takeQuoted '"' rest).map fun (inside, rest) =>
        (unescape doubleEscape? inside, rest)
  | _ =>
      some (bareValue afterBlank (characters.takeWhile (!isLineEnd ·)),
        characters.dropWhile (!isLineEnd ·))

/-- Skips a comment and the end of the line; fails if anything else is left. -/
def endLine? (characters : List Char) : Option (List Char) :=
  let rest := skipInline characters
  let rest :=
    match rest with
    | '#' :: _ => rest.dropWhile (!isLineEnd ·)
    | _ => rest
  match rest with
  | [] => some []
  | character :: rest => if isLineEnd character then some rest else none

/-- One binding, if the statement has one, and what follows it.  A failure leaves
the characters from where it happened. -/
def takeBinding (characters : List Char) :
    Except (List Char) (Option Binding × List Char) := do
  let start := skipExport characters
  let (name, rest) ← (takeName start).elim (.error start) .ok
  let rest := skipInline rest
  let (value, rest) ←
    match rest with
    | '=' :: rest => do
        let start := skipInline rest
        let (value, rest) ←
          (takeValue (start.length < rest.length) start).elim (.error start) .ok
        pure (some value, rest)
    | _ => pure (none, rest)
  let after ← (endLine? rest).elim (.error rest) .ok
  return (name.map fun name =>
    ⟨String.ofList name, value.map String.ofList⟩, after)

/-- A statement: a binding, or one that is not well formed and starts with the
given number of characters left. -/
inductive Statement where
  | binding (binding : Binding)
  | malformed (remaining : Nat)
  deriving DecidableEq, Repr

/-- All statements; the first argument bounds their number.  The blanks before a
statement belong to it. -/
def readStatements : Nat → List Char → List Statement
  | 0, _ => []
  | fuel + 1, characters =>
      match characters.dropWhile isBlank with
      | [] => []
      | start =>
          match takeBinding start with
          | .ok (binding, rest) =>
              (binding.map Statement.binding).toList ++ readStatements fuel rest
          | .error rest =>
              .malformed characters.length :: readStatements fuel (skipLine rest)

/-- The characters of a text with its line ends in one form.  A byte-order mark
at the start is not part of it. -/
def charactersOf (text : String) : List Char :=
  match text.toList with
  | '\uFEFF' :: rest => normaliseLines rest
  | characters => normaliseLines characters

def statements (text : String) : List Statement :=
  let characters := charactersOf text
  readStatements (characters.length + 1) characters

def bindings (text : String) : List Binding :=
  (statements text).filterMap fun statement =>
    match statement with
    | .binding binding => some binding
    | .malformed _ => none

/-- The lines, counted from one, where statements start that are not well
formed. -/
def malformedLines (text : String) : List Nat :=
  let characters := charactersOf text
  (statements text).filterMap fun statement =>
    match statement with
    | .binding _ => none
    | .malformed remaining =>
        some ((characters.take (characters.length - remaining)).count '\n' + 1)

/-- What is said about a statement that is not well formed. -/
def complaint (line : Nat) : String :=
  "python-dotenv could not parse statement starting at line " ++ toString line

/-- The parts of a value: plain characters, and names with a fallback. -/
inductive Part where
  | plain (character : Char)
  | variable (name : String) (fallback : String)

/-- Reads a name in braces, which may have a fallback, after a dollar sign. -/
def takeVariable? (characters : List Char) : Option (Part × List Char) :=
  let isNameEnd (character : Char) : Bool :=
    character = '}' || character = ':'
  let name := String.ofList (characters.takeWhile (!isNameEnd ·))
  match characters.dropWhile (!isNameEnd ·) with
  | '}' :: rest => some (.variable name "", rest)
  | ':' :: '-' :: rest =>
      match rest.dropWhile (· ≠ '}') with
      | '}' :: after =>
          some (.variable name (String.ofList (rest.takeWhile (· ≠ '}'))), after)
      | _ => none
  | _ => none

/-- The parts of a value; the first argument bounds their number. -/
def readParts : Nat → List Char → List Part
  | 0, _ => []
  | _, [] => []
  | fuel + 1, '$' :: '{' :: rest =>
      match takeVariable? rest with
      | some (part, after) => part :: readParts fuel after
      | none => .plain '$' :: readParts fuel ('{' :: rest)
  | fuel + 1, character :: rest => .plain character :: readParts fuel rest

def expand (lookup : String → Option String) (value : String) : String :=
  String.join ((readParts value.length value.toList).map fun part =>
    match part with
    | .plain character => String.singleton character
    | .variable name fallback => (lookup name).getD fallback)

/-- The assignment of bindings.  A variable stands for the value that the file
gave its name before, or else for the value outside the file. -/
def assign (outside : Fields String) (bindings : List Binding) :
    Fields (Option String) :=
  bindings.foldl
    (fun assigned binding =>
      let lookup (name : String) : Option String :=
        match assigned.get? name with
        | some value => some (value.getD "")
        | none => outside.get? name
      assigned.insert binding.name (binding.value.map (expand lookup)))
    ∅

/-- The assignment that a text makes.  A name without an equals sign has no
value. -/
def read (outside : Fields String) (text : String) : Fields (Option String) :=
  assign outside (bindings text)

end Midrange.Settings.VariableFile
