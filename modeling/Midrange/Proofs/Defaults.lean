import Midrange.Proofs.Literals
import Midrange.Table

/-!
# Defaults in create statements

The default of a column is written in one clause of the statement that creates its
table, and all else in the statement stays the same when the default changes.  So two
defaults give the same statement exactly if their clauses are the same: no default, null
and any other value are told apart, and so are texts from one another and from numbers.
-/

namespace Midrange

/-- The clause that a default is written in. -/
def ColumnDefault.clause (dialect : Dialect) : ColumnDefault → String
  | .unset => ""
  | .value given => " default " ++ dialect.quoteLiteral given

namespace Column

/-- The column with a default in place of its own. -/
def withDefault (column : Column) (default : ColumnDefault) : Column :=
  { column with default }

/-- The item of a column holds the clause of its default between texts that the default
does not change. -/
theorem item_withDefault (dialect : Dialect) (column : Column) :
    ∃ before after, ∀ default,
      (column.withDefault default).item dialect = before ++ default.clause dialect ++ after := by
  refine ⟨dialect.quoteIdentifier column.name ++ " " ++ column.typeText dialect,
    (if column.notNull then " not null" else "") ++
      (if column.unsigned then " unsigned" else "") ++
      (if column.unique then " unique" else "") ++
      column.commentClause dialect ++ column.identityClause, fun default => ?_⟩
  simp only [item, String.append_assoc]
  rfl

end Column

namespace Table

variable {table : Table} {position : Fin table.columns.length}

/-- The table with another default for one of its columns. -/
def withDefault (table : Table) (position : Fin table.columns.length)
    (default : ColumnDefault) : Table :=
  { table with columns := table.columns.set position (table.columns[position].withDefault default) }

/-- Keys do not depend on defaults. -/
theorem keyItems_map_withDefault (dialect : Dialect) (table : Table) :
    keyItems dialect { table with columns := table.columns.map (·.withDefault .unset) } =
      table.keyItems dialect := by
  have primary : (table.columns.map (·.withDefault .unset)).filter Column.primary =
      (table.columns.filter Column.primary).map (·.withDefault .unset) :=
    List.filter_map
  have primaryKey : primaryKeyItem? dialect
      { table with columns := table.columns.map (·.withDefault .unset) } =
      table.primaryKeyItem? dialect := by
    rw [primaryKeyItem?, primary, List.getLast?_map, primaryKeyItem?]
    cases (table.columns.filter Column.primary).getLast? <;> rfl
  rw [keyItems, primaryKey, List.filterMap_map]
  rfl

theorem keyItems_withDefault (dialect : Dialect) (default : ColumnDefault) :
    (table.withDefault position default).keyItems dialect = table.keyItems dialect := by
  have same : (table.withDefault position default).columns.map (·.withDefault .unset) =
      table.columns.map (·.withDefault .unset) := by
    apply List.ext_getElem
    · simp [withDefault]
    · intro index _ _
      rw [List.getElem_map, List.getElem_map]
      simp only [withDefault, List.getElem_set]
      split
      · rename_i own
        subst own
        rfl
      · rfl
  rw [← keyItems_map_withDefault, same, ← keyItems_map_withDefault dialect table]
  rfl

/-- The statement holds the clause of the default once, between texts that the default does
not change. -/
theorem createStatement_withDefault (dialect : Dialect) (table : Table)
    (position : Fin table.columns.length) :
    ∃ before after, ∀ default,
      (table.withDefault position default).createStatement dialect =
        before ++ default.clause dialect ++ after := by
  let items := table.columns.map (Column.item dialect)
  obtain ⟨first, last, item⟩ := table.columns[position].item_withDefault dialect
  obtain ⟨before, after, joined⟩ := Text.intercalate_middle ",\n\t" (items.take position)
    (items.drop (position + 1))
  refine ⟨"create table " ++ dialect.quoteIdentifier table.name ++ " (\n\t" ++ before ++ first,
    last ++ after ++ String.join ((table.keyItems dialect).map (",\n\t" ++ ·)) ++ "\n)",
    fun default => ?_⟩
  have columns : (table.withDefault position default).columns.map (Column.item dialect) =
      items.take position ++
        (first ++ default.clause dialect ++ last) :: items.drop (position + 1) := by
    rw [withDefault, List.map_set, item, List.set_eq_take_append_cons_drop, if_pos]
    rw [List.length_map]
    exact position.isLt
  have unfolded : (table.withDefault position default).createStatement dialect =
      "create table " ++ dialect.quoteIdentifier table.name ++ " (\n\t" ++
        String.intercalate ",\n\t"
          ((table.withDefault position default).columns.map (Column.item dialect)) ++
        String.join (((table.withDefault position default).keyItems dialect).map (",\n\t" ++ ·)) ++
        "\n)" := rfl
  rw [unfolded, columns, joined, keyItems_withDefault]
  simp only [String.append_assoc]

theorem createStatement_withDefault_inj {left right : ColumnDefault} (dialect : Dialect) :
    (table.withDefault position left).createStatement dialect =
        (table.withDefault position right).createStatement dialect ↔
      left.clause dialect = right.clause dialect := by
  obtain ⟨before, after, written⟩ := createStatement_withDefault dialect table position
  rw [written, written, String.append_left_inj, String.append_right_inj]

/-- What the statements of a table tell about the default of a column. -/
structure TellsDefaults (statement : ColumnDefault → String) : Prop where
  /-- A column without a default is different from one with any, null among them. -/
  unset : ∀ value, statement .unset ≠ statement (.value value)
  /-- The default null is different from any other. -/
  null : ∀ value, value ≠ .null → statement (.value .null) ≠ statement (.value value)
  /-- Texts are different from one another. -/
  texts : Function.Injective fun content => statement (.value (.text content))
  /-- Texts are different from numbers and truths, whatever they spell. -/
  numbers : ∀ content value, value.isBare = true →
    statement (.value (.text content)) ≠ statement (.value value)

/-- Whatever the table and its other columns, the statement tells the defaults of a column
apart. -/
theorem createStatement_tellsDefaults (table : Table) (position : Fin table.columns.length) :
    TellsDefaults fun default => (table.withDefault position default).createStatement {} where
  unset := by
    intro value same
    have clauses := (createStatement_withDefault_inj {}).mp same
    exact absurd (String.append_eq_empty_iff.mp clauses.symm).1 (by decide)
  null := by
    intro value other same
    have clauses := (createStatement_withDefault_inj {}).mp same
    have literals := (String.append_right_inj _).mp clauses
    exact other (Dialect.quoteLiteral_eq_null_iff.mp literals.symm)
  texts := by
    intro left right same
    have clauses := (createStatement_withDefault_inj {}).mp same
    have literals := (String.append_right_inj _).mp clauses
    have single : ({} : Dialect).literalQuote.toList = ['\''] := by decide
    exact Dialect.quoteText_injective single literals
  numbers := by
    intro content value bare same
    have clauses := (createStatement_withDefault_inj {}).mp same
    have literals := (String.append_right_inj _).mp clauses
    exact Dialect.quoteText_ne_quoteLiteral content bare literals

/-- The text `null` is not null. -/
example :
    let table : Table :=
      { name := "t", columns := [{ name := "a" }, { name := "b", notNull := true }] }
    (table.withDefault ⟨1, by decide⟩ (.value (.text "null"))).createStatement {} =
        "create table \"t\" (\n\t\"a\" varchar,\n\t\"b\" varchar default 'null' not null\n)" ∧
      (table.withDefault ⟨1, by decide⟩ (.value .null)).createStatement {} =
        "create table \"t\" (\n\t\"a\" varchar,\n\t\"b\" varchar default null not null\n)" := by
  decide

end Table

end Midrange
