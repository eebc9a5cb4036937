import Midrange.Table

/-!
# Displayed tables

The displayed form of a table names every member of every column.
-/

namespace Midrange

private def optionalText : Option String → String
  | none => Value.display .null
  | some text => Text.quoted text

private def truth (value : Bool) : String :=
  Value.display (.bool value)

def AutoIncrement.display (auto : AutoIncrement) : String :=
  "AutoIncrement(start=" ++ auto.start.display ++ ", step=" ++
    auto.step.display ++ ")"

def ForeignKey.display (key : ForeignKey) : String :=
  "ForeignKey(table=" ++ optionalText key.table ++ ", field=" ++
    optionalText key.field ++ ", on_delete=" ++ key.onDelete.display ++
    ", on_update=" ++ key.onUpdate.display ++ ")"

def Column.display (column : Column) : String :=
  let auto :=
    match column.autoIncrement with
    | none => Value.display .null
    | some auto => auto.display
  let default :=
    match column.default with
    | .unset => "UNSET"
    | .value value => value.display
  "FieldDefinition(name=" ++ Text.quoted column.name ++
    ", type=" ++ Text.quoted column.type ++
    ", length=" ++ column.length.display ++
    ", primary=" ++ truth column.primary ++
    ", auto_increment=" ++ auto ++
    ", default=" ++ default ++
    ", not_null=" ++ truth column.notNull ++
    ", unsigned=" ++ truth column.unsigned ++
    ", unique=" ++ truth column.unique ++
    ", comment=" ++ column.comment.display ++
    ", foreign_key=" ++ column.foreignKey.display ++ ")"

def Table.display (table : Table) : String :=
  "TableSchema(name=" ++ Text.quoted table.name ++ ", fields=[" ++
    String.intercalate ", " (table.columns.map Column.display) ++ "])"

end Midrange
