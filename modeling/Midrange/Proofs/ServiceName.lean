import Midrange.Proofs.QuotedText
import Midrange.Proofs.Rendering

/-!
# The service on a line

A line shows the service of the log, unless its event names a service itself.  Whether there
is a line does not depend on the name of the service, and if there is one, the name can be
told from it: in a JSON line as in lines of text, where a name may be shown with quotes.
-/

namespace Midrange.Log

theorem needsQuotes_quoted (text : String) : needsQuotes (Text.quoted text) = true := by
  have quotes : [' ', '\t', '=', '\r', '\n', '"', '\''].contains
      (Text.quoteFor text.toList) = true := by
    rcases Text.quoteFor_mark text.toList with mark | mark <;> rw [mark] <;> rfl
  rw [needsQuotes, Text.quoted, String.toList_ofList, List.cons_append, List.any_cons, quotes,
    Bool.true_or]

/-- A text that is shown as it is is no text with quotes. -/
theorem consoleValue_inj {text other : String}
    (same : consoleValue (.text text) = consoleValue (.text other)) : text = other := by
  rw [consoleValue, consoleValue] at same
  split at same <;> split at same
  · exact Text.quoted_inj same
  case isTrue.isFalse quotes plain =>
    rw [← same] at plain
    exact absurd (needsQuotes_quoted text) plain
  case isFalse.isTrue plain quotes =>
    rw [same] at plain
    exact absurd (needsQuotes_quoted other) plain
  · exact same

theorem ofText_inj {text other : String} (same : Line.ofText text = Line.ofText other) :
    text = other := by
  have pieces : Text.splitAt '\n' text.toList = Text.splitAt '\n' other.toList := by
    refine (List.map_inj_right fun piece later equal => ?_).mp same
    exact String.ofList_injective (Line.text.inj equal)
  refine String.toList_inj.mp ?_
  rw [← Text.joinWith_splitAt '\n' text.toList, pieces, Text.joinWith_splitAt]

variable {bare : Fields Value} {name : String}

/-- A text can always be shown, and is found in the line under its name. -/
theorem jsonLine_insert (absent : bare.get? name = none) :
    (∃ fault, ∀ content : String, jsonLine (bare.insert name (.text content)) = .error fault) ∨
      ∃ shown : Fields Value, ∀ content : String,
        jsonLine (bare.insert name (.text content)) =
          .ok (.json (shown.insert name (.text content))) := by
  cases mapped : bare.entries.mapM fun entry =>
      (jsonValue entry.2).map fun value => (entry.1, value) with
  | error fault =>
      refine .inl ⟨fault, fun content => ?_⟩
      rw [jsonLine, Fields.entries_insert _ absent, List.mapM_append, mapped]
      rfl
  | ok shown =>
      refine .inr ⟨Fields.ofPairs shown, fun content => ?_⟩
      have inserted : Fields.ofPairs (shown ++ [(name, .text content)]) =
          (Fields.ofPairs shown).insert name (.text content) :=
        List.foldl_append
      rw [jsonLine, Fields.entries_insert _ absent, List.mapM_append, mapped, ← inserted]
      rfl

/-- An event is shown or not whatever the name of the service is, and different names are
shown by different lines. -/
theorem render_insert (configuration : Configuration) (level : Level)
    (unnamed : bare.get? "service.name" = none) :
    (∃ fault, ∀ name : String,
        render configuration level (bare.insert "service.name" (.text name)) = .error fault) ∨
      ∃ lines : String → List Line, Function.Injective lines ∧ ∀ name,
        render configuration level (bare.insert "service.name" (.text name)) =
          .ok (lines name) := by
  cases json : configuration.json with
  | true =>
      have unfolded (all : Fields Value) :
          render configuration level all = (jsonLine all).map fun line => [line] := by
        rw [render, if_pos json]
      rcases jsonLine_insert unnamed with ⟨fault, failed⟩ | ⟨shown, line⟩
      · exact .inl ⟨fault, fun name => by rw [unfolded, failed]; rfl⟩
      · refine .inr ⟨fun name => [.json (shown.insert "service.name" (.text name))], ?_,
          fun name => by rw [unfolded, line]; rfl⟩
        intro name other same
        have inserted := Line.json.inj (List.cons.inj same).1
        have found := congrArg (Fields.get? · "service.name") inserted
        rw [Fields.get?_insert_self, Fields.get?_insert_self] at found
        exact Value.text.inj (Option.some.inj found)
  | false =>
      have unfolded (all : Fields Value) :
          render configuration level all = (consoleText level all).map Line.ofText := by
        rw [render, json]
        rfl
      have unplaced : "service.name" ∉ (placedColumns level).map (·.1) := by
        simp [placedColumns]
      rcases consoleText_insert unnamed (by decide) unplaced with
        ⟨fault, failed⟩ | ⟨before, after, text⟩
      · exact .inl ⟨fault, fun name => by rw [unfolded, failed]; rfl⟩
      · refine .inr ⟨fun name => Line.ofText (before ++ consoleValue (.text name) ++ after), ?_,
          fun name => by rw [unfolded, text]; rfl⟩
        intro name other same
        exact consoleValue_inj ((String.append_right_inj before).mp
          ((String.append_left_inj after).mp (ofText_inj same)))

/-! ## Another service -/

/-- Answers that differ at most in the service of a line that names none itself. -/
inductive Relabelled (held given : Value) :
    Except Fault (List Line) → Except Fault (List Line) → Prop where
  | same (answer : Except Fault (List Line)) : Relabelled held given answer answer
  | line {bare : Fields Value} (unnamed : bare.get? "service.name" = none)
      (configuration : Configuration) (level : Level) (admitted : Bool) :
      Relabelled held given
        ((render configuration level (bare.insert "service.name" held)).map fun lines =>
          if admitted then lines else [])
        ((render configuration level (bare.insert "service.name" given)).map fun lines =>
          if admitted then lines else [])

variable {state : State} {configuration : Configuration} {logger : Logger} {moment : Moment}
  {method : Method} {event : Value} {fields : List (String × Value)}

theorem served_of_named {bare : Fields Value} {name : Value}
    (named : bare.get? "service.name" = some name) (service : Value) :
    served service bare = bare := by
  rw [served, Fields.contains, named]
  rfl

theorem served_of_unnamed {bare : Fields Value} (unnamed : bare.get? "service.name" = none)
    (service : Value) : served service bare = bare.insert "service.name" service := by
  rw [served, Fields.contains, unnamed]
  rfl

/-- What is printed depends on the service by the lines that show it only. -/
theorem linesFor_relabelled (state : State) (configuration : Configuration) (logger : Logger)
    (moment : Moment) (method : Method) (event : Value) (fields : List (String × Value))
    (given : Value) :
    Relabelled state.service given
      (linesFor state configuration logger moment method event fields)
      (linesFor { state with service := given } configuration logger moment method event
        fields) := by
  have bare : bareFields { state with service := given } configuration logger moment method event
      fields = bareFields state configuration logger moment method event fields := rfl
  rw [linesFor_eq, linesFor_eq, bare]
  cases bareFields state configuration logger moment method event fields with
  | error fault => exact .same (.error fault)
  | ok bare =>
      dsimp only [Except.bind]
      cases named : bare.get? "service.name" with
      | some name =>
          rw [served_of_named named, served_of_named named]
          exact .same _
      | none =>
          rw [served_of_unnamed named, served_of_unnamed named]
          exact .line named configuration method.toLevel _

/-- Services with different names are told apart by what is printed, exactly if something is
printed and the event names no service itself. -/
theorem linesFor_eq_iff {held given : String} (holds : state.service = .text held)
    (different : given ≠ held) :
    linesFor { state with service := .text given } configuration logger moment method event fields =
        linesFor state configuration logger moment method event fields ↔
      ¬(Prints (linesFor state configuration logger moment method event fields) ∧
        ownService? state logger fields = none) := by
  have bare : bareFields { state with service := .text given } configuration logger moment method
      event fields = bareFields state configuration logger moment method event fields := rfl
  rw [linesFor_eq, linesFor_eq, bare, holds]
  cases made : bareFields state configuration logger moment method event fields with
  | error fault => simp [Prints, Except.bind, Except.map]
  | ok bare =>
      dsimp only [Except.bind]
      rw [← get?_bareFields made]
      cases named : bare.get? "service.name" with
      | some name =>
          rw [served_of_named named, served_of_named named]
          exact iff_of_true rfl (by simp)
      | none =>
          rw [served_of_unnamed named, served_of_unnamed named]
          rcases render_insert configuration method.toLevel named with
            ⟨fault, failed⟩ | ⟨lines, injective, shown⟩
          · rw [failed, failed]
            simp [Prints, Except.map]
          · have some : lines held ≠ [] := ne_nil_of_render (shown held)
            have other : lines given ≠ lines held := fun same => different (injective same)
            have admits : ({ state with service := .text given } : State).admits
                method.toLevel.severity = state.admits method.toLevel.severity := rfl
            rw [shown, shown, admits]
            cases state.admits method.toLevel.severity <;>
              simp [Prints, Except.map, some, other]

/-- What a logger answers does not depend on the service, or is the lines of the event with a
configuration.  Without a configuration it does not depend on it. -/
theorem log_answered (state : State) (logger : Logger) (moment : Moment) (method : Method)
    (event : Value) (fields : List (String × Value)) :
    (∃ answer, (logger.setup state = .standard ∨ ¬Prints answer) ∧ ∀ service : Value,
        (logger.log { state with service } moment method event fields).2 = answer) ∨
      ∃ configuration, logger.setup state = .given configuration ∧ ∀ service : Value,
        (logger.log { state with service } moment method event fields).2 =
          linesFor { state with service } configuration logger moment method event fields := by
  have failing (fault : Fault) : ¬Prints (.error fault) := by simp [Prints]
  have silent : ¬Prints (.ok []) := by simp [Prints]
  have setup (service : Value) : logger.setup { state with service } = logger.setup state := rfl
  simp only [Logger.log, setup]
  cases callFault? ((logger.setup state).admits method.toLevel) method fields with
  | some fault => exact .inl ⟨.error fault, .inr (failing fault), fun _ => rfl⟩
  | none =>
      cases logger.setup state with
      | standard =>
          exact .inl ⟨state.standard moment method.toLevel
            (eventFields state logger method event fields), .inl rfl, fun _ => rfl⟩
      | given configuration =>
          cases admitted : configuration.admits method.toLevel with
          | false =>
              exact .inl ⟨.ok [], .inr silent, fun _ => by simp [Setup.admits, admitted]⟩
          | true =>
              exact .inr ⟨configuration, rfl, fun _ => by simp [Setup.admits, admitted]⟩

end Midrange.Log
