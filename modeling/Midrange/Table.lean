import Midrange.Dialect

/-!
# Tables

A table is a name with columns in order.  `Table.createStatement` is the
statement that creates it: one item per column, then the primary key, then the
foreign keys.
-/

namespace Midrange

/-- How the store generates the values of an identity column. -/
structure AutoIncrement where
  start : Value := .int 1
  step : Value := .int 1
  deriving Repr

/-- The column that a column refers to.  Without a table there is no
reference. -/
structure ForeignKey where
  table : Option String := none
  field : Option String := none
  onDelete : Value := .text "set null"
  onUpdate : Value := .text "no action"
  deriving Repr

/-- The default of a column: none at all, or a value, which may be null. -/
inductive ColumnDefault where
  | unset
  | value (value : Value)
  deriving Repr

/-- One column of a table. -/
structure Column where
  name : String
  type : String := "varchar"
  length : Value := .null
  primary : Bool := false
  autoIncrement : Option AutoIncrement := none
  default : ColumnDefault := .unset
  notNull : Bool := false
  unsigned : Bool := false
  unique : Bool := false
  comment : Value := .null
  foreignKey : ForeignKey := {}
  deriving Repr

/-- A table with its columns in order. -/
structure Table where
  name : String
  columns : List Column := []
  deriving Repr

namespace Column

/-- A primary column with generated values is an identity column. -/
def isIdentity (column : Column) : Bool :=
  column.primary && column.autoIncrement.isSome

/-- The length of a column type between brackets; a false length is left out
unless it is a collection. -/
def lengthText : Value → String
  | .list items => bracketed items
  | .tuple items => bracketed items
  | length => if length.isTrue then "(" ++ length.toText ++ ")" else ""
where
  bracketed (items : List Value) : String :=
    "(" ++ String.intercalate "," (items.map Value.toText) ++ ")"

/-- The type of a column; an identity column has an integer type. -/
def typeText (dialect : Dialect) (column : Column) : String :=
  let name :=
    if column.isIdentity && !dialect.isIntegerType column.type then
      dialect.integerType
    else
      column.type
  name ++ lengthText column.length

def defaultClause (dialect : Dialect) (column : Column) : String :=
  match column.default with
  | .unset => ""
  | .value value => " default " ++ dialect.quoteLiteral value

/-- The comment clause of a column; an empty comment is none. -/
def commentClause (dialect : Dialect) (column : Column) : String :=
  if column.comment.isTrue then
    " comment " ++ dialect.quoteLiteral column.comment
  else ""

def identityClause (column : Column) : String :=
  match column.autoIncrement with
  | some auto =>
      if column.primary then " " ++ Dialect.identityClause auto.start auto.step
      else ""
  | none => ""

/-- The item of a column in a create statement. -/
def item (dialect : Dialect) (column : Column) : String :=
  dialect.quoteIdentifier column.name ++ " " ++ column.typeText dialect ++
    column.defaultClause dialect ++
    (if column.notNull then " not null" else "") ++
    (if column.unsigned then " unsigned" else "") ++
    (if column.unique then " unique" else "") ++
    column.commentClause dialect ++ column.identityClause

/-- The foreign key item of a column that refers to a table. -/
def foreignKeyItem? (dialect : Dialect) (column : Column) : Option String :=
  match column.foreignKey.table with
  | none => none
  | some table =>
      if table = "" then none
      else
        some ("foreign key (" ++ dialect.quoteIdentifier column.name ++
          ") references " ++ dialect.quoteIdentifier table ++ " (" ++
          dialect.quoteIdentifier (column.foreignKey.field.getD "") ++
          ") on delete " ++ column.foreignKey.onDelete.toText ++ " on update " ++
          column.foreignKey.onUpdate.toText)

/-- The values that are written for a column. -/
def values (column : Column) : List Value :=
  [column.length, column.comment] ++
    (match column.default with
      | .unset => []
      | .value value => [value]) ++
    (match column.autoIncrement with
      | some auto => if column.primary then [auto.start, auto.step] else []
      | none => []) ++
    if column.foreignKey.table.getD "" = "" then []
    else [column.foreignKey.onDelete, column.foreignKey.onUpdate]

end Column

namespace Table

/-- The last primary column, unless its name is empty, names the primary key. -/
def primaryKeyItem? (dialect : Dialect) (table : Table) : Option String :=
  match (table.columns.filter Column.primary).getLast? with
  | none => none
  | some column =>
      if column.name = "" then none
      else some ("primary key(" ++ dialect.quoteIdentifier column.name ++ ")")

def keyItems (dialect : Dialect) (table : Table) : List String :=
  (table.primaryKeyItem? dialect).toList ++
    table.columns.filterMap (Column.foreignKeyItem? dialect)

/-- The statement that creates a table.  A table without columns still has the
place for its first item. -/
def createStatement (dialect : Dialect) (table : Table) : String :=
  "create table " ++ dialect.quoteIdentifier table.name ++ " (\n\t" ++
    String.intercalate ",\n\t" (table.columns.map (Column.item dialect)) ++
    String.join ((table.keyItems dialect).map (",\n\t" ++ ·)) ++ "\n)"

/-- The statement that creates a table, if the numbers in it can be written. -/
def write (dialect : Dialect) (table : Table) : Except Fault String :=
  Value.writing (table.columns.flatMap Column.values) (table.createStatement dialect)

end Table

end Midrange
