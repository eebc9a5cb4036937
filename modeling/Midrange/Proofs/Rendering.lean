import Midrange.Log.Report

/-!
# How events become lines

An event becomes the fields of a line, the fields become lines of text or an object, and the
lines are printed if the event passes the threshold of the log.  Here it is told which fields
a line has for the service, and that an event whose fields are plain texts always becomes at
least one line.
-/

namespace Midrange.Log

/-- The lines of an event, whether they are printed or not. -/
def render (configuration : Configuration) (level : Level) (fields : Fields Value) :
    Except Fault (List Line) :=
  if configuration.json then (jsonLine fields).map fun line => [line]
  else (consoleText level fields).map Line.ofText

/-- Something is printed. -/
def Prints (answer : Except Fault (List Line)) : Prop :=
  ∃ lines, answer = .ok lines ∧ lines ≠ []

/-- The fields of a line but for the service. -/
def bareFields (state : State) (configuration : Configuration) (logger : Logger)
    (moment : Moment) (method : Method) (event : Value) (fields : List (String × Value)) :
    Except Fault (Fields Value) :=
  let called := logger.bound.insertAll (callFields method fields).entries
  let named := withEvent event called
  let stamped :=
    if configuration.stamped then named.insert "timestamp" (.text moment.time) else named
  let merged := addMissing stamped state.context
  (nameFor logger merged).map fun name =>
    withCalls moment
      ((merged.insert "level" (.text method.toLevel.name)).insert "logger" (.text name))

/-- The fields of a line, with the service unless they name one themselves. -/
def served (service : Value) (fields : Fields Value) : Fields Value :=
  if fields.contains "service.name" then fields else fields.insert "service.name" service

variable {state : State} {configuration : Configuration} {logger : Logger} {moment : Moment}
  {method : Method} {event : Value} {fields : List (String × Value)}

theorem lineFields_eq :
    lineFields state configuration logger moment method event fields =
      (bareFields state configuration logger moment method event fields).map
        (served state.service) := by
  rw [lineFields, bareFields]
  cases nameFor logger _ <;> rfl

theorem linesFor_eq :
    linesFor state configuration logger moment method event fields =
      ((bareFields state configuration logger moment method event fields).bind fun bare =>
        render configuration method.toLevel (served state.service bare)).map fun lines =>
          if state.admits method.toLevel.severity then lines else [] := by
  rw [linesFor, lineFields_eq]
  cases bareFields state configuration logger moment method event fields with
  | error fault => rfl
  | ok bare =>
      cases json : configuration.json with
      | true =>
          simp only [Except.map, Except.bind, render, json, if_true, bind, pure, Except.pure]
      | false =>
          simp only [Except.map, Except.bind, render, json, bind, pure, Except.pure]
          cases consoleText method.toLevel (served state.service bare) <;> rfl

theorem ofText_ne_nil (text : String) : Line.ofText text ≠ [] := by
  simpa [Line.ofText] using Text.splitAt_ne_nil '\n' text.toList

/-- An event that is rendered has a line. -/
theorem ne_nil_of_render {level : Level} {all : Fields Value} {lines : List Line}
    (rendered : render configuration level all = .ok lines) : lines ≠ [] := by
  rw [render] at rendered
  split at rendered
  · cases line : jsonLine all with
    | error fault =>
        rw [line] at rendered
        cases rendered
    | ok shown =>
        rw [line] at rendered
        cases rendered
        exact List.cons_ne_nil _ _
  · cases text : consoleText level all with
    | error fault =>
        rw [text] at rendered
        cases rendered
    | ok content =>
        rw [text] at rendered
        cases rendered
        exact ofText_ne_nil content

/-! ## The service of a line -/

theorem get?_cons {first : String × Value} {rest : List (String × Value)}
    (distinct : ((first :: rest).map (·.1)).Nodup) (later : (rest.map (·.1)).Nodup)
    (name : String) :
    (⟨first :: rest, distinct⟩ : Fields Value).get? name =
      if first.1 = name then some first.2 else (⟨rest, later⟩ : Fields Value).get? name :=
  rfl

/-- Additions are looked up behind the fields that they are added to. -/
theorem get?_addMissing (fields additions : Fields Value) (name : String) :
    (addMissing fields additions).get? name = (fields.get? name).or (additions.get? name) := by
  obtain ⟨entries, distinct⟩ := additions
  induction entries generalizing fields with
  | nil => exact Option.or_none.symm
  | cons first rest induction =>
      have later : (rest.map (·.1)).Nodup := (List.nodup_cons.mp distinct).2
      have added : addMissing fields ⟨first :: rest, distinct⟩ =
          addMissing (if fields.contains first.1 then fields else fields.insert first.1 first.2)
            ⟨rest, later⟩ := rfl
      rw [added, induction, get?_cons distinct later]
      by_cases there : fields.contains first.1 = true
      · rw [if_pos there]
        by_cases same : first.1 = name
        · subst same
          obtain ⟨value, found⟩ := Option.isSome_iff_exists.mp there
          rw [found]
          rfl
        · rw [if_neg same]
      · rw [if_neg there]
        by_cases same : first.1 = name
        · subst same
          have absent : fields.get? first.1 = none := by simpa [Fields.contains] using there
          rw [if_pos rfl, absent, Fields.get?_insert_self]
          rfl
        · rw [if_neg same, fields.get?_insert_of_ne _ (Ne.symm same)]

/-- The service that an event names itself, by a field of its call, a bound field, or the
context. -/
def ownService? (state : State) (logger : Logger) (fields : List (String × Value)) :
    Option Value :=
  ((Fields.ofPairs fields).get? "service.name").or
    ((logger.bound.get? "service.name").or (state.context.get? "service.name"))

theorem get?_erase_of_ne (fields : Fields Value) {name other : String} (different : other ≠ name) :
    (fields.erase name).get? other = fields.get? other := by
  rw [Fields.erase, Fields.get?_filter]
  cases fields.get? other with
  | none => rfl
  | some value => exact Option.filter_some_pos (by simpa using different)

theorem get?_callFields {name : String} (other : name ≠ "exc_info") :
    (callFields method fields).get? name = (Fields.ofPairs fields).get? name := by
  cases method with
  | ordinary level => rfl
  | exception =>
      rw [callFields]
      split
      · rfl
      · exact Fields.get?_insert_of_ne _ _ other

theorem get?_withEvent {name : String} (other : name ≠ "event") (called : Fields Value) :
    (withEvent event called).get? name = called.get? name := by
  cases event with
  | null => rfl
  | _ => exact Fields.get?_insert_of_ne _ _ other

theorem get?_stamped {name : String} (other : name ≠ "timestamp") (named : Fields Value) :
    (if configuration.stamped then named.insert "timestamp" (.text moment.time)
      else named).get? name = named.get? name := by
  split
  · exact Fields.get?_insert_of_ne _ _ other
  · rfl

theorem get?_withCalls {name : String} (other : name ≠ "stack")
    (shown : name ≠ "stack_info") (all : Fields Value) :
    (withCalls moment all).get? name = all.get? name := by
  rw [withCalls]
  split
  · rw [Fields.get?_insert_of_ne _ _ other, get?_erase_of_ne _ shown]
  · exact get?_erase_of_ne _ shown

theorem get?_bareFields {bare : Fields Value}
    (made : bareFields state configuration logger moment method event fields = .ok bare) :
    bare.get? "service.name" = ownService? state logger fields := by
  rw [bareFields] at made
  cases named : nameFor logger _ with
  | error fault =>
      rw [named] at made
      cases made
  | ok name =>
      rw [named] at made
      cases made
      rw [get?_withCalls (by decide) (by decide), Fields.get?_insert_of_ne _ _ (by decide),
        Fields.get?_insert_of_ne _ _ (by decide), get?_addMissing,
        get?_stamped (by decide), get?_withEvent (by decide), Fields.get?_insertAll,
        get?_callFields (by decide), ownService?, Option.or_assoc]

/-! ## Events that are always rendered -/

/-- A field that every line can show. -/
structure Presentable (name : String) (value : Value) : Prop where
  named : name ≠ "_record"
  shown : ∃ shown, jsonValue value = .ok shown
  below : name = "stack" ∨ name = "exception" → ∃ content, value = .text content

theorem presentable_text {name : String} (named : name ≠ "_record") (content : String) :
    Presentable name (.text content) :=
  ⟨named, ⟨_, rfl⟩, fun _ => ⟨content, rfl⟩⟩

def Plain (fields : Fields Value) : Prop :=
  ∀ name value, fields.get? name = some value → Presentable name value

theorem plain_empty : Plain ∅ := by
  intro name value given
  cases given

theorem plain_insert {all : Fields Value} {name : String} {value : Value} (plain : Plain all)
    (presentable : Presentable name value) : Plain (all.insert name value) := by
  intro other found given
  by_cases same : other = name
  · subst same
    rw [Fields.get?_insert_self] at given
    exact Option.some.inj given ▸ presentable
  · rw [all.get?_insert_of_ne value same] at given
    exact plain other found given

theorem plain_insertAll {all other : Fields Value} (plain : Plain all) (added : Plain other) :
    Plain (all.insertAll other.entries) := by
  intro name value given
  rw [Fields.get?_insertAll, Option.or_eq_some_iff] at given
  rcases given with new | ⟨-, old⟩
  · exact added name value new
  · exact plain name value old

theorem plain_addMissing {all other : Fields Value} (plain : Plain all) (added : Plain other) :
    Plain (addMissing all other) := by
  intro name value given
  rw [get?_addMissing, Option.or_eq_some_iff] at given
  rcases given with old | ⟨-, new⟩
  · exact plain name value old
  · exact added name value new

theorem plain_erase {all : Fields Value} (plain : Plain all) (name : String) :
    Plain (all.erase name) := by
  intro other value given
  rw [Fields.erase, Fields.get?_filter, Option.filter_eq_some_iff] at given
  exact plain other value given.1

theorem plain_withCalls {all : Fields Value} (plain : Plain all) (moment : Moment) :
    Plain (withCalls moment all) := by
  rw [withCalls]
  split
  · exact plain_insert (plain_erase plain _) (presentable_text (by decide) _)
  · exact plain_erase plain _

theorem plain_callFields (method : Method) (plain : Plain (Fields.ofPairs fields)) :
    Plain (callFields method fields) := by
  cases method with
  | ordinary level => exact plain
  | exception =>
      rw [callFields]
      split
      · exact plain
      · refine plain_insert plain ⟨by decide, ⟨_, rfl⟩, ?_⟩
        rintro (other | other) <;> exact absurd other (by decide)

theorem plain_withEvent {called : Fields Value} (plain : Plain called)
    (shown : ∃ shown, jsonValue event = .ok shown) : Plain (withEvent event called) := by
  have presentable : Presentable "event" event := by
    refine ⟨by decide, shown, ?_⟩
    rintro (other | other) <;> exact absurd other (by decide)
  cases event with
  | null => exact plain
  | _ => exact plain_insert plain presentable

theorem plain_served {all : Fields Value} {service : Value} (plain : Plain all)
    (shown : ∃ shown, jsonValue service = .ok shown) : Plain (served service all) := by
  rw [served]
  split
  · exact plain
  · refine plain_insert plain ⟨by decide, shown, ?_⟩
    rintro (other | other) <;> exact absurd other (by decide)

/-- The fields of plain events are plain, and there is no record among them to be asked for a
name. -/
theorem bareFields_plain (configuration : Configuration) (moment : Moment) (method : Method)
    (bound : Plain logger.bound) (given : Plain (Fields.ofPairs fields))
    (context : Plain state.context) (shown : ∃ shown, jsonValue event = .ok shown) :
    ∃ bare, bareFields state configuration logger moment method event fields = .ok bare ∧
      Plain bare := by
  have called := plain_insertAll bound (plain_callFields method given)
  have named := plain_withEvent called shown
  have stamped : Plain (if configuration.stamped then
      (withEvent event (logger.bound.insertAll (callFields method fields).entries)).insert
        "timestamp" (.text moment.time)
      else withEvent event (logger.bound.insertAll (callFields method fields).entries)) := by
    split
    · exact plain_insert named (presentable_text (by decide) moment.time)
    · exact named
  have merged := plain_addMissing stamped context
  have unrecorded (all : Fields Value) (plain : Plain all) :
      nameFor logger all = .ok logger.shownName := by
    have absent : all.get? "_record" = none := by
      cases found : all.get? "_record" with
      | none => rfl
      | some value => exact absurd rfl (plain _ _ found).named
    rw [nameFor, absent]
    rfl
  refine ⟨_, by rw [bareFields, unrecorded _ merged]; rfl, plain_withCalls ?_ moment⟩
  exact plain_insert (plain_insert merged (presentable_text (by decide) _))
    (presentable_text (by decide) _)

theorem jsonLine_plain {all : Fields Value} (plain : Plain all) :
    ∃ line, jsonLine all = .ok line := by
  have entries (part : List (String × Value)) (among : part ⊆ all.entries) :
      ∃ shown, part.mapM (fun entry =>
        (jsonValue entry.2).map fun value => (entry.1, value)) = .ok shown := by
    induction part with
    | nil => exact ⟨[], rfl⟩
    | cons entry rest induction =>
        obtain ⟨first, later⟩ := List.cons_subset.mp among
        obtain ⟨shown, made⟩ := (plain entry.1 entry.2 (Fields.get?_of_mem first)).shown
        obtain ⟨others, mapped⟩ := induction later
        refine ⟨(entry.1, shown) :: others, ?_⟩
        rw [List.mapM_cons, made, mapped]
        rfl
  obtain ⟨shown, mapped⟩ := entries all.entries (List.Subset.refl _)
  exact ⟨_, by rw [jsonLine, mapped]; rfl⟩

theorem consoleText_plain (level : Level) {all : Fields Value} (plain : Plain all) :
    ∃ text, consoleText level all = .ok text := by
  have shown {name : String} (placed : name = "stack" ∨ name = "exception") :
      ∃ text, below ((all.get? name).getD .null) = .ok text := by
    cases found : all.get? name with
    | none => exact ⟨"", rfl⟩
    | some value =>
        obtain ⟨content, rfl⟩ := (plain name value found).below placed
        exact ⟨_, rfl⟩
  obtain ⟨stack, stacked⟩ := shown (.inl rfl)
  obtain ⟨exception, raised⟩ := shown (.inr rfl)
  exact ⟨_, by rw [consoleText, stacked, raised]; rfl⟩

theorem render_plain (configuration : Configuration) (level : Level) {all : Fields Value}
    (plain : Plain all) :
    ∃ lines, render configuration level all = .ok lines := by
  rw [render]
  split
  · obtain ⟨line, shown⟩ := jsonLine_plain plain
    exact ⟨[line], by rw [shown]; rfl⟩
  · obtain ⟨text, shown⟩ := consoleText_plain level plain
    exact ⟨_, by rw [shown]; rfl⟩

end Midrange.Log
