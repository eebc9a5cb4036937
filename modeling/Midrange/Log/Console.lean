import Midrange.Log.Line

/-!
# Console text

A console shows fields as coloured columns: some have places and forms of their
own, the others follow in the order of their names.  What is said about a stack
or an exception stands below the columns.
-/

namespace Midrange.Log

private def colour (code : Nat) : String :=
  "\x1b[" ++ toString code ++ "m"

private def plain : String := colour 0

def levelColour : Level → Nat
  | .debug | .info => 32
  | .warning => 33
  | .error | .critical => 31

private def padTo (width : Nat) (text : String) : String :=
  text ++ String.ofList (List.replicate (width - text.length) ' ')

/-- Holds for texts that are shown quoted on a console. -/
def needsQuotes (text : String) : Bool :=
  text.toList.any fun character =>
    [' ', '\t', '=', '\r', '\n', '"', '\''].contains character

def consoleValue : Value → String
  | .text content => if needsQuotes content then Text.quoted content else content
  | value => value.display

private def column (name : String) (value : Value) : String :=
  colour 36 ++ name ++ plain ++ "=" ++ colour 35 ++ consoleValue value ++ plain

private def stampColumn (time : Value) : String :=
  colour 2 ++ time.toText ++ plain

private def levelColumn (level : Level) : String :=
  "[" ++ colour (levelColour level) ++ colour 1 ++ padTo 9 level.name ++ plain ++ "]"

private def eventColumn (event : Value) : String :=
  colour 1 ++ padTo 30 event.toText ++ plain

private def loggerColumn (logger : Value) : String :=
  "[" ++ plain ++ colour 1 ++ colour 34 ++ logger.toText ++ plain ++ "]" ++ plain

/-- The columns that have places of their own, in order. -/
def placedColumns (level : Level) : List (String × (Value → String)) :=
  [("", column ""), ("timestamp", stampColumn),
    ("level", fun _ => levelColumn level), ("event", eventColumn),
    ("logger", loggerColumn), ("logger_name", loggerColumn)]

/-- The fields that stand below the columns or are not shown. -/
def belowNames : List String := ["exc_info", "exception", "stack"]

def columns (level : Level) (fields : Fields Value) : List String :=
  let placed := placedColumns level
  let others := (fields.entries.filter fun entry =>
    !belowNames.contains entry.1 &&
      !placed.any fun place => place.1 = entry.1).mergeSort fun left right =>
        left.1 ≤ right.1
  placed.filterMap (fun place => (fields.get? place.1).map place.2) ++
    others.map fun entry => column entry.1 entry.2

/-- A text below the columns, on a line of its own.  Null is nothing. -/
def below : Value → Except Fault String
  | .null => .ok ""
  | .text content => .ok ("\n" ++ content)
  | value => .error (.mismatch (.notJoinable "str" value.kindName))

/-- What stands between a stack and an exception. -/
def separator : String :=
  "\n\n" ++ String.ofList (List.replicate 79 '=') ++ "\n"

private def isNull : Value → Bool
  | .null => true
  | _ => false

/-- The text of a line on a console. -/
def consoleText (level : Level) (fields : Fields Value) : Except Fault String := do
  let field (name : String) : Value := (fields.get? name).getD .null
  let stack ← below (field "stack")
  let divided := !isNull (field "stack") &&
    ((field "exc_info").isTrue || !isNull (field "exception"))
  let exception ← below (field "exception")
  return String.intercalate " " (columns level fields) ++ stack ++
    (if divided then separator else "") ++ exception

/-- The standard setup on a console without colours, for fields without places of
their own. -/
def monochrome : Standard := fun moment level fields =>
  let event := ((fields.get? "event").getD (.text "")).toText
  let others := (fields.entries.filter fun entry => entry.1 ≠ "event").mergeSort
    fun left right => left.1 ≤ right.1
  .ok (Line.ofText (String.intercalate " "
    ([moment.time, "[" ++ padTo 9 level.name ++ "]", padTo 30 event] ++
      others.map fun entry => entry.1 ++ "=" ++ consoleValue entry.2)))

/-! ## A field without a place of its own -/

/-- A pair is sorted to the place of its name, whatever the value is. -/
private theorem sorted_middle {pairs : List (String × Value)} {name : String}
    (absent : name ∉ pairs.map (·.1)) :
    ∃ earlier later, ∀ value,
      (pairs ++ [(name, value)]).mergeSort (fun left right => left.1 ≤ right.1) =
        earlier ++ (name, value) :: later := by
  let ordered (left right : String × Value) : Bool := left.1 ≤ right.1
  let change (value : Value) (pair : String × Value) : String × Value :=
    (pair.1, if pair.1 = name then value else pair.2)
  let last : String × Value := (name, .null)
  have kept (value : Value) {part : List (String × Value)} (among : part ⊆ pairs) :
      part.map (change value) = part := by
    refine (List.map_congr_left fun pair member => ?_).trans (List.map_id part)
    have different : pair.1 ≠ name := by
      rintro rfl
      exact absent (List.mem_map_of_mem (among member))
    exact Prod.ext rfl (if_neg different)
  have changed (value : Value) : change value last = (name, value) := Prod.ext rfl (if_pos rfl)
  have member : last ∈ (pairs ++ [last]).mergeSort ordered := by simp
  obtain ⟨earlier, later, parts⟩ := List.append_of_mem member
  have others : (earlier ++ later).Perm pairs := by
    have sorted := List.mergeSort_perm (pairs ++ [last]) ordered
    rw [parts] at sorted
    exact (List.perm_middle.symm.trans
      (sorted.trans (List.perm_append_singleton last pairs))).cons_inv
  refine ⟨earlier, later, fun value => ?_⟩
  calc (pairs ++ [(name, value)]).mergeSort ordered
    _ = ((pairs ++ [last]).map (change value)).mergeSort ordered := by
        rw [List.map_append, kept value (List.Subset.refl _), List.map_singleton, changed]
    _ = ((pairs ++ [last]).mergeSort ordered).map (change value) :=
        (List.map_mergeSort (f := change value) (r := ordered) (s := ordered)
          fun _ _ _ _ => rfl).symm
    _ = earlier ++ (name, value) :: later := by
        rw [parts, List.map_append, List.map_cons, changed,
          kept value fun pair member => others.subset (List.mem_append_left _ member),
          kept value fun pair member => others.subset (List.mem_append_right _ member)]

variable {level : Level} {fields : Fields Value} {name : String}

/-- The value of a field without a place of its own is shown in one column, and all else in
the columns stays the same when it changes. -/
theorem columns_insert (absent : fields.get? name = none) (beside : name ∉ belowNames)
    (unplaced : name ∉ (placedColumns level).map (·.1)) :
    ∃ earlier later before after, ∀ value,
      columns level (fields.insert name value) =
        earlier ++ (before ++ consoleValue value ++ after) :: later := by
  let free (entry : String × Value) : Bool :=
    !belowNames.contains entry.1 && !(placedColumns level).any fun place => place.1 = entry.1
  have shown (value : Value) : free (name, value) = true := by
    have placeless : ¬(placedColumns level).any (fun place => place.1 = name) = true := by
      simpa [List.mem_map] using unplaced
    simp [free, beside, placeless]
  have new : name ∉ (fields.entries.filter free).map (·.1) := by
    intro named
    obtain ⟨entry, member, rfl⟩ := List.mem_map.mp named
    exact Fields.get?_eq_none.mp absent (List.mem_map_of_mem (List.mem_filter.mp member).1)
  obtain ⟨earlier, later, sorted⟩ := sorted_middle new
  have placed (value : Value) {places : List (String × (Value → String))}
      (among : places ⊆ placedColumns level) :
      places.filterMap (fun place => ((fields.insert name value).get? place.1).map place.2) =
        places.filterMap fun place => (fields.get? place.1).map place.2 := by
    induction places with
    | nil => rfl
    | cons place places induction =>
        have different : place.1 ≠ name := by
          rintro rfl
          exact unplaced (List.mem_map_of_mem (among (List.mem_cons_self ..)))
        rw [List.filterMap_cons, List.filterMap_cons, fields.get?_insert_of_ne value different,
          induction (List.subset_of_cons_subset among)]
  let shownColumn (entry : String × Value) : String := column entry.1 entry.2
  refine ⟨(placedColumns level).filterMap (fun place => (fields.get? place.1).map place.2) ++
      earlier.map shownColumn, later.map shownColumn,
    colour 36 ++ name ++ plain ++ "=" ++ colour 35, plain, fun value => ?_⟩
  rw [columns, placed value (List.Subset.refl _), Fields.entries_insert value absent,
    List.filter_append, List.filter_cons_of_pos (shown value), List.filter_nil, sorted,
    List.map_append, List.map_cons, List.append_assoc]
  rfl

/-- Whether there is a text does not depend on the value, and if there is one, it shows the
value between texts that do not depend on it. -/
theorem consoleText_insert (absent : fields.get? name = none) (beside : name ∉ belowNames)
    (unplaced : name ∉ (placedColumns level).map (·.1)) :
    (∃ fault, ∀ value, consoleText level (fields.insert name value) = .error fault) ∨
      ∃ before after, ∀ value,
        consoleText level (fields.insert name value) =
          .ok (before ++ consoleValue value ++ after) := by
  obtain ⟨earlier, later, lead, trail, shown⟩ := columns_insert absent beside unplaced
  obtain ⟨before, after, joined⟩ := Text.intercalate_middle " " earlier later
  have found (other : String) (among : other ∈ belowNames) (value : Value) :
      (fields.insert name value).get? other = fields.get? other := by
    refine fields.get?_insert_of_ne value ?_
    rintro rfl
    exact beside among
  simp only [consoleText, shown, joined, found "stack" (by decide),
    found "exception" (by decide), found "exc_info" (by decide)]
  cases below ((fields.get? "stack").getD .null) with
  | error fault => exact .inl ⟨fault, fun _ => rfl⟩
  | ok stack =>
      cases below ((fields.get? "exception").getD .null) with
      | error fault => exact .inl ⟨fault, fun _ => rfl⟩
      | ok exception =>
          refine .inr ⟨before ++ lead, trail ++ after ++ stack ++
            (if !isNull ((fields.get? "stack").getD .null) &&
                (((fields.get? "exc_info").getD .null).isTrue ||
                  !isNull ((fields.get? "exception").getD .null)) then separator
              else "") ++ exception, fun value => congrArg Except.ok ?_⟩
          simp only [String.append_assoc]

end Midrange.Log
