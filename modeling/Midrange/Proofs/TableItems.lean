import Midrange.Proofs.Items
import Midrange.Table

/-!
# The items of create statements

The statement that creates a table has one item for each column, one for the primary
key and one for each reference, whatever its defaults and comments hold: each item is a
closed text, so that the reader of items finds its end where it was put.
-/

namespace Midrange

open Midrange.Text Midrange.Number

/-! ## Identifiers, literals and numbers -/

/-- Identifiers in parts, each delimited or the star. -/
inductive Identified : List Char → Prop where
  | star : Identified ['*']
  | delimited {text : List Char} (bare : '"' ∉ text) : Identified ('"' :: text ++ ['"'])
  | dotted {left right : List Char} (first : Identified left) (second : Identified right) :
      Identified (left ++ ['.'] ++ right)

theorem Identified.closed {inside : Bool} {text : List Char} (identified : Identified text) :
    Closed inside text := by
  induction identified with
  | star => exact .bare (by decide)
  | delimited bare => exact .delimited bare
  | dotted _ _ left right => exact .append (.append left (.bare (by decide))) right

/-- The first bracket of a statement is not in its identifiers. -/
theorem Identified.behindBracket? {text : List Char} (identified : Identified text)
    (rest : List Char) : behindBracket? .bare (text ++ rest) = behindBracket? .bare rest := by
  induction identified generalizing rest with
  | star => simp [Midrange.behindBracket?]
  | @delimited text bare =>
      have passed : Midrange.behindBracket? .identifier (text ++ '"' :: rest) =
          Midrange.behindBracket? .bare rest := by
        induction text with
        | nil => simp [Midrange.behindBracket?]
        | cons character later induction =>
            rw [List.mem_cons, not_or] at bare
            simp [Midrange.behindBracket?, Ne.symm bare.1, induction bare.2]
      simp [Midrange.behindBracket?, passed]
  | dotted _ _ left right => simp [left, right, Midrange.behindBracket?]

theorem Dialect.quotePart_identified {part : List Char} (bare : '"' ∉ part) :
    Identified (Dialect.quotePart {} part) := by
  have trimmed : '"' ∉ trim part := mt mem_of_mem_trim bare
  rw [quotePart]
  split
  · rename_i finished
    rw [isFinished, Bool.or_eq_true] at finished
    rcases finished with star | quoted
    · rw [decide_eq_true_eq] at star
      exact star ▸ .star
    · have first : (trim part).head? = some '"' := by
        revert quoted
        simp
        exact fun _ first _ => first
      exact absurd (List.mem_of_mem_head? first) trimmed
  · exact .delimited trimmed

theorem joinWith_identified {parts : List (List Char)} (some : parts ≠ [])
    (identified : ∀ part ∈ parts, Identified part) : Identified (joinWith ['.'] parts) := by
  induction parts with
  | nil => exact absurd rfl some
  | cons part rest induction =>
      have first := identified part List.mem_cons_self
      cases rest with
      | nil => exact first
      | cons next later =>
          exact .dotted first (induction (List.cons_ne_nil _ _) fun other member =>
            identified other (List.mem_cons_of_mem _ member))

theorem Dialect.quoteIdentifier_identified {name : String} (bare : '"' ∉ name.toList) :
    Identified (Dialect.quoteIdentifier {} name).toList := by
  rw [quoteIdentifier, String.toList_ofList]
  apply joinWith_identified
  · simp [splitAt_ne_nil]
  · intro part member
    obtain ⟨piece, among, rfl⟩ := List.mem_map.mp member
    exact quotePart_identified fun inside => bare (mem_of_mem_splitAt among inside)

theorem Closed.marks {inside : Bool} {text : List Char}
    (marks : ∀ character ∈ text, isMark character = true) : Closed inside text :=
  .plain fun character member => isPlain_of_kind (by decide) (marks character member)

theorem Dialect.quoteText_closed {inside : Bool} (text : String) :
    Closed inside (Dialect.quoteText {} text).toList := by
  rw [quoteText, String.toList_ofList]
  exact .literal text.toList

/-- The literal of any value is closed. -/
theorem Dialect.quoteLiteral_closed {inside : Bool} (value : Value) :
    Closed inside (Dialect.quoteLiteral {} value).toList := by
  cases value with
  | null => exact .bare (by decide)
  | bool truth => cases truth <;> exact .bare (by decide)
  | int number => exact .marks (isMark_toString number)
  | float number => exact .marks number.isMark_text
  | decimal number => exact .marks number.isMark_text
  | text | list | tuple | dict | immediate => exact quoteText_closed _

/-! ## Columns -/

/-- Whole numbers, truths among them. -/
inductive Value.Whole : Value → Prop where
  | int (number : Int) : Whole (.int number)
  | bool (truth : Bool) : Whole (.bool truth)

/-- Lengths of column types: none, a whole number or several. -/
inductive Value.Length : Value → Prop where
  | null : Length .null
  | whole {value : Value} (whole : value.Whole) : Length value
  | list {items : List Value} (whole : ∀ item ∈ items, item.Whole) : Length (.list items)
  | tuple {items : List Value} (whole : ∀ item ∈ items, item.Whole) : Length (.tuple items)

/-- Texts without quotes, brackets and commas. -/
def Unmarked (text : String) : Prop :=
  ∀ character ∈ text.toList, isPlain character = true

instance (text : String) : Decidable (Unmarked text) :=
  decidable_of_iff (text.toList.all isPlain = true) List.all_eq_true

theorem Closed.text {inside : Bool} (text : String) (unmarked : Unmarked text) :
    Closed inside text.toList :=
  .plain unmarked

/-- Columns whose names, types, lengths, identities and references are of their kinds.
The default and the comment are any values. -/
structure Column.Proper (column : Column) : Prop where
  name : '"' ∉ column.name.toList
  type : Unmarked column.type
  length : column.length.Length
  identity : ∀ auto, column.autoIncrement = some auto → auto.start.Whole ∧ auto.step.Whole
  table : ∀ table, column.foreignKey.table = some table → '"' ∉ table.toList
  field : ∀ field, column.foreignKey.field = some field → '"' ∉ field.toList
  onDelete : Unmarked column.foreignKey.onDelete.toText
  onUpdate : Unmarked column.foreignKey.onUpdate.toText

theorem Value.Whole.unmarked {value : Value} (whole : value.Whole) : Unmarked value.toText := by
  cases whole with
  | int number =>
      exact fun character member =>
        isPlain_of_kind (by decide) (isMark_toString number character member)
  | bool truth => cases truth <;> decide

theorem Dialect.identityClause_closed {inside : Bool} {start step : Value}
    (first : start.Whole) (second : step.Whole) :
    Closed inside (Dialect.identityClause start step).toList := by
  have opening : "generated always as identity (start with ".toList =
      "generated always as identity ".toList ++ '(' :: "start with ".toList := by decide
  have middle : ", increment by ".toList = [','] ++ " increment by ".toList := by decide
  have arguments : Closed true ("start with ".toList ++ start.toText.toList ++ [','] ++
      " increment by ".toList ++ step.toText.toList) :=
    .append (.append (.append (.append (.bare (by decide)) (.plain first.unmarked)) .comma)
      (.bare (by decide))) (.plain second.unmarked)
  have clause : (Dialect.identityClause start step).toList =
      "generated always as identity ".toList ++
        ('(' :: ("start with ".toList ++ start.toText.toList ++ [','] ++
          " increment by ".toList ++ step.toText.toList) ++ [')']) := by
    unfold Dialect.identityClause
    simp only [String.toList_append, opening, middle, List.append_assoc, List.cons_append]
    rfl
  rw [clause]
  exact .append (.bare (by decide)) (.bracketed arguments)

namespace Column

theorem bracketed_closed {inside : Bool} {items : List Value}
    (whole : ∀ item ∈ items, item.Whole) :
    Closed inside (lengthText.bracketed items).toList := by
  have joined : Closed true ((String.intercalate "," (items.map Value.toText)).toList) := by
    rw [String.toList_intercalate, List.map_map]
    induction items with
    | nil => exact .bare (by decide)
    | cons item rest induction =>
        have first : Closed true item.toText.toList :=
          .plain (whole item List.mem_cons_self).unmarked
        have later := induction fun other member => whole other (List.mem_cons_of_mem _ member)
        cases rest with
        | nil => simpa using first
        | cons next others =>
            rw [List.map_cons, List.intercalate_cons_of_ne_nil (by simp)]
            exact .append (.append first .comma) later
  simp only [lengthText.bracketed, String.toList_append]
  exact .bracketed joined

theorem lengthText_closed {inside : Bool} {length : Value} (proper : length.Length) :
    Closed inside (lengthText length).toList := by
  have single {length : Value} (unmarked : Unmarked length.toText) : Closed inside
      (if length.isTrue then "(" ++ length.toText ++ ")" else "").toList := by
    split
    · rw [String.toList_append, String.toList_append]
      exact .bracketed (.plain unmarked)
    · exact .bare (by decide)
  cases proper with
  | null => exact .bare (by decide)
  | whole whole =>
      cases whole with
      | int number => exact single (Value.Whole.int number).unmarked
      | bool truth => exact single (Value.Whole.bool truth).unmarked
  | list whole => exact bracketed_closed whole
  | tuple whole => exact bracketed_closed whole

variable {column : Column} {inside : Bool}

theorem typeText_closed (proper : column.Proper) :
    Closed inside (column.typeText {}).toList := by
  simp only [typeText, String.toList_append]
  refine .append ?_ (lengthText_closed proper.length)
  split
  · exact .bare (by decide)
  · exact .plain proper.type

theorem defaultClause_closed (column : Column) :
    Closed inside (column.defaultClause {}).toList := by
  rw [defaultClause]
  split
  · exact .bare (by decide)
  · rw [String.toList_append]
    exact .append (.bare (by decide)) (Dialect.quoteLiteral_closed _)

theorem commentClause_closed (column : Column) :
    Closed inside (column.commentClause {}).toList := by
  rw [commentClause]
  split
  · rw [String.toList_append]
    exact .append (.bare (by decide)) (Dialect.quoteLiteral_closed _)
  · exact .bare (by decide)

theorem identityClause_closed (proper : column.Proper) :
    Closed inside column.identityClause.toList := by
  rw [identityClause]
  split
  · rename_i auto given
    obtain ⟨start, step⟩ := proper.identity auto given
    split
    · rw [String.toList_append]
      exact .append (.bare (by decide)) (Dialect.identityClause_closed start step)
    · exact .bare (by decide)
  · exact .bare (by decide)

theorem item_closed (proper : column.Proper) : Closed inside (column.item {}).toList := by
  have flag (given : Bool) (text : String) (unmarked : Unmarked text) :
      Closed inside (if given then text else "").toList := by
    cases given
    · exact .plain (List.forall_mem_nil _)
    · exact .plain unmarked
  simp only [item, String.toList_append]
  have name : Closed inside (Dialect.quoteIdentifier {} column.name).toList :=
    (Dialect.quoteIdentifier_identified proper.name).closed
  exact .append (.append (.append (.append (.append (.append (.append (.append name
    (.bare (by decide))) (typeText_closed proper)) (defaultClause_closed column))
    (flag _ _ (by decide))) (flag _ _ (by decide))) (flag _ _ (by decide)))
    (commentClause_closed column)) (identityClause_closed proper)

/-- Holds for columns that refer to a table. -/
def refers (column : Column) : Bool :=
  column.foreignKey.table.getD "" != ""

/-- Exactly the columns that refer to a table have a foreign key item. -/
theorem foreignKeyItem?_eq (dialect : Dialect) (column : Column) :
    column.foreignKeyItem? dialect =
      if column.refers then some ((column.foreignKeyItem? dialect).getD "") else none := by
  rw [refers, foreignKeyItem?]
  split
  · rename_i missing
    simp [missing]
  · rename_i table given
    by_cases empty : table = "" <;> simp [given, empty]

theorem foreignKeyItem_closed (proper : column.Proper) :
    Closed inside ((column.foreignKeyItem? {}).getD "").toList := by
  rw [foreignKeyItem?]
  split
  · exact .plain (List.forall_mem_nil _)
  · rename_i table given
    split
    · exact .plain (List.forall_mem_nil _)
    · have field : '"' ∉ (column.foreignKey.field.getD "").toList := by
        cases found : column.foreignKey.field with
        | none => exact List.not_mem_nil
        | some field => exact proper.field field found
      have bracketed {name : String} (bare : '"' ∉ name.toList) :
          Closed inside ('(' :: (Dialect.quoteIdentifier {} name).toList ++ [')']) :=
        .bracketed (Dialect.quoteIdentifier_identified bare).closed
      have key : "foreign key (".toList = "foreign key ".toList ++ ['('] := by decide
      have target : ") references ".toList = ')' :: " references ".toList := by decide
      have opening : " (".toList = " ".toList ++ ['('] := by decide
      have rule : ") on delete ".toList = ')' :: " on delete ".toList := by decide
      have parts := Closed.append (.append (.append (.append (.append (.append (.append (.append
        (.append (.text "foreign key " (by decide)) (bracketed proper.name))
        (.text " references " (by decide)))
        (Dialect.quoteIdentifier_identified (proper.table table given)).closed)
        (.text " " (by decide))) (bracketed field))
        (.text " on delete " (by decide))) (.plain proper.onDelete))
        (.text " on update " (by decide))) (.plain proper.onUpdate)
      simpa only [Option.getD_some, String.toList_append, key, target, opening, rule,
        List.append_assoc, List.cons_append, List.nil_append] using parts

end Column

/-! ## Tables -/

/-- The items of a table: its columns in their order, its last primary column if that has
a name, and the references of its columns in their order. -/
def Table.items (table : Table) : List String :=
  table.columns.map (Column.item {}) ++
    (((table.columns.reverse.find? Column.primary).filter fun column => column.name ≠ "").map
      fun column => "primary key(" ++ Dialect.quoteIdentifier {} column.name ++ ")").toList ++
    (table.columns.filter Column.refers).map fun column =>
      (column.foreignKeyItem? {}).getD ""

namespace Table

theorem map_items (table : Table) :
    table.columns.map (Column.item {}) ++ table.keyItems {} = table.items := by
  have primary : (table.primaryKeyItem? {}).toList =
      (((table.columns.reverse.find? Column.primary).filter fun column => column.name ≠ "").map
        fun column => "primary key(" ++ Dialect.quoteIdentifier {} column.name ++ ")").toList := by
    rw [primaryKeyItem?, List.getLast?_filter]
    cases table.columns.reverse.find? Column.primary with
    | none => rfl
    | some column => by_cases empty : column.name = "" <;> simp [Option.filter, empty]
  have references : table.columns.filterMap (Column.foreignKeyItem? {}) =
      (table.columns.filter Column.refers).map fun column =>
        (column.foreignKeyItem? {}).getD "" := by
    induction table.columns with
    | nil => rfl
    | cons column rest induction =>
        rw [List.filterMap_cons, Column.foreignKeyItem?_eq, List.filter_cons, induction]
        split <;> rename_i refers <;> split at refers <;> simp_all
  rw [keyItems, primary, references, items, List.append_assoc]

/-- The items of a table are closed texts. -/
theorem items_closed {table : Table} (proper : ∀ column ∈ table.columns, column.Proper) :
    ∀ item ∈ table.items, Closed false item.toList := by
  intro item member
  rw [items, List.mem_append, List.mem_append] at member
  rcases member with (column | primary) | reference
  · obtain ⟨_, among, rfl⟩ := List.mem_map.mp column
    exact Column.item_closed (proper _ among)
  · obtain ⟨column, found, rfl⟩ := Option.map_eq_some_iff.mp (Option.mem_toList.mp primary)
    have found := (Option.filter_eq_some_iff.mp found).1
    have among := List.mem_reverse.mp (List.mem_of_find?_eq_some found)
    have name := Dialect.quoteIdentifier_identified (proper column among).name
    have opening : "primary key(".toList = "primary key".toList ++ ['('] := by decide
    have closing : ")".toList = [')'] := by decide
    have parts : Closed false ("primary key".toList ++
        ('(' :: (Dialect.quoteIdentifier {} column.name).toList ++ [')'])) :=
      .append (.text "primary key" (by decide)) (.bracketed name.closed)
    simpa only [String.toList_append, opening, closing, List.append_assoc, List.cons_append,
      List.nil_append] using parts
  · obtain ⟨column, among, rfl⟩ := List.mem_map.mp reference
    exact Column.foreignKeyItem_closed (proper column (List.mem_filter.mp among).1)

theorem intercalate_cons (separator first : List Char) (later : List (List Char)) :
    separator.intercalate (first :: later) = first ++ later.flatMap (separator ++ ·) := by
  induction later generalizing first with
  | nil => simp
  | cons next others induction =>
      rw [List.intercalate_cons_cons, induction, List.flatMap_cons]
      simp only [List.append_assoc]

/-- Between the brackets of the statement stand the items, with commas between them. -/
theorem toList_createStatement {table : Table} {first : String} {later : List String}
    (some : table.columns ≠ []) (items : table.items = first :: later) :
    (table.createStatement {}).toList =
      "create table ".toList ++ (Dialect.quoteIdentifier {} table.name).toList ++ " ".toList ++
        '(' :: (['\n', '\t'] ++ first.toList ++
          ((later.map String.toList).flatMap fun item => ',' :: ['\n', '\t'] ++ item) ++
          ['\n'] ++ [')']) := by
  have separator : ",\n\t".toList = [',', '\n', '\t'] := by decide
  have opening : " (\n\t".toList = " ".toList ++ ['(', '\n', '\t'] := by decide
  have closing : "\n)".toList = ['\n', ')'] := by decide
  obtain ⟨column, columns, given⟩ := List.exists_cons_of_ne_nil some
  rw [← map_items, given, List.map_cons, List.cons_append] at items
  obtain ⟨rfl, rfl⟩ := List.cons_eq_cons.mp items
  unfold createStatement
  simp only [given, String.toList_append, String.toList_intercalate,
    String.toList_join, separator, opening, closing, List.map_cons, intercalate_cons,
    List.map_append, List.flatMap_append, List.flatMap_map, List.append_assoc,
    List.cons_append, List.nil_append]

/-- The statement that creates a table has the items of the table and no others, whatever
its defaults and comments hold, and nothing behind them. -/
theorem createStatement_items {table : Table} (name : '"' ∉ table.name.toList)
    (some : table.columns ≠ []) (proper : ∀ column ∈ table.columns, column.Proper) :
    itemsOf? (table.createStatement {}).toList =
      .some (table.items.map fun item => trim item.toList) := by
  obtain ⟨first, later, items⟩ : ∃ first later, table.items = first :: later := by
    apply List.exists_cons_of_ne_nil
    simp [Table.items, some]
  have closed : ∀ item ∈ first.toList :: later.map String.toList, Closed false item := by
    rw [← List.map_cons, ← items]
    intro item member
    obtain ⟨text, among, rfl⟩ := List.mem_map.mp member
    exact items_closed proper text among
  obtain ⟨read, found, same, none⟩ := Items.read?_items closed ['\n', '\t'] ['\n', '\t']
    ['\n'] (List.all_eq_true.mp (by decide)) (List.all_eq_true.mp (by decide))
    (List.all_eq_true.mp (by decide))
  have body : behindBracket? .bare (table.createStatement {}).toList =
      .some (['\n', '\t'] ++ first.toList ++
        ((later.map String.toList).flatMap fun item => ',' :: ['\n', '\t'] ++ item) ++
        ['\n'] ++ [')']) := by
    rw [toList_createStatement some items, List.append_assoc, List.append_assoc,
      behindBracket?_append (by decide) (by decide),
      (Dialect.quoteIdentifier_identified name).behindBracket?,
      behindBracket?_append (by decide) (by decide)]
    simp [behindBracket?]
  rw [itemsOf?, body, Option.bind_eq_bind, Option.bind_some, found, Option.bind_eq_bind,
    Option.bind_some, if_pos none, same, items]
  simp [Function.comp_def]

/-- A table whose names, default and comment look like further items. -/
def hostile : Table :=
  { name := "a(b"
    columns := [
      { name := "x, y"
        length := .tuple [.int 10, .int 2]
        default := .value (.text "'), primary key('")
        comment := .text "it's, \"(" },
      { name := "t.id"
        type := "int"
        primary := true
        autoIncrement := some {}
        foreignKey := { table := some "g" } }] }

theorem createStatement_items_hostile :
    ('"' ∉ hostile.name.toList ∧ hostile.columns ≠ [] ∧
      ∀ column ∈ hostile.columns, column.Proper) ∧
    itemsOf? (hostile.createStatement {}).toList =
      .some (hostile.items.map fun item => trim item.toList) ∧ hostile.items.length = 4 := by
  have name : '"' ∉ hostile.name.toList := by decide
  have some : hostile.columns ≠ [] := List.cons_ne_nil _ _
  have proper : ∀ column ∈ hostile.columns, column.Proper := by
    simp only [hostile, List.forall_mem_cons]
    refine ⟨⟨by decide, by decide, .tuple ?_, nofun, nofun, nofun, by decide, by decide⟩,
      ⟨by decide, by decide, .null, ?_, ?_, nofun, by decide, by decide⟩, List.forall_mem_nil _⟩
    · exact List.forall_mem_cons.mpr ⟨.int 10, List.forall_mem_cons.mpr ⟨.int 2,
        List.forall_mem_nil _⟩⟩
    · rintro _ ⟨⟩
      exact ⟨.int 1, .int 1⟩
    · rintro _ ⟨⟩
      decide
  exact ⟨⟨name, some, proper⟩, createStatement_items name some proper, by decide⟩

end Table

end Midrange
