import Midrange.Proofs.Desk
import Midrange.Proofs.Rendering

/-!
# Which events are printed

An event of a logger is printed if it passes two thresholds: that of the configuration that the
logger has taken over, and that of the log, which the first accepted configuration sets for
good.  For the loggers that are first used after the last configuration this is told from the
levels that were given: the last level decides only together with the first one.
-/

namespace Midrange.Log

/-- The call of an event repeats none of its arguments, and every field can be shown. -/
def Renders (state : State) (configuration : Configuration) (logger : Logger) (moment : Moment)
    (method : Method) (event : Value) (fields : List (String × Value)) : Prop :=
  callFault? true method fields = none ∧
    ∃ bare lines, bareFields state configuration logger moment method event fields = .ok bare ∧
      render configuration method.toLevel (served state.service bare) = .ok lines

variable {state : State} {configuration : Configuration} {logger : Logger} {moment : Moment}
  {method : Method} {event : Value} {fields : List (String × Value)}

theorem prints_linesFor :
    Prints (linesFor state configuration logger moment method event fields) ↔
      state.rootThreshold.getD 0 ≤ method.toLevel.severity ∧
        ∃ bare lines, bareFields state configuration logger moment method event fields = .ok bare ∧
          render configuration method.toLevel (served state.service bare) = .ok lines := by
  have admits : state.admits method.toLevel.severity = true ↔
      state.rootThreshold.getD 0 ≤ method.toLevel.severity := by
    simp [State.admits]
  rw [← admits, linesFor_eq]
  cases made : bareFields state configuration logger moment method event fields with
  | error fault => simp [Prints, Except.map, Except.bind]
  | ok bare =>
      cases rendered : render configuration method.toLevel (served state.service bare) with
      | error fault => simp [Prints, Except.map, Except.bind, rendered]
      | ok lines =>
          have some := ne_nil_of_render rendered
          cases admitted : state.admits method.toLevel.severity <;>
            simp [Prints, Except.map, Except.bind, rendered, some]

/-- An event is printed if it passes the threshold of its logger and that of the log. -/
theorem prints_log (configured : logger.setup state = .given configuration) :
    Prints (logger.log state moment method event fields).2 ↔
      state.rootThreshold.getD 0 ≤ method.toLevel.severity ∧
        configuration.threshold ≤ method.toLevel.severity ∧
          Renders state configuration (logger.use state) moment method event fields := by
  have silent : ¬Prints (.ok []) := by simp [Prints]
  have failing (fault : Fault) : ¬Prints (.error fault) := by simp [Prints]
  have admits : configuration.admits method.toLevel = true ↔
      configuration.threshold ≤ method.toLevel.severity := by
    simp [Configuration.admits]
  have bare : bareFields state configuration (logger.use state) moment method event fields =
      bareFields state configuration logger moment method event fields := rfl
  rw [← admits, Logger.log, configured, Setup.admits]
  dsimp only
  cases admitted : configuration.admits method.toLevel with
  | false =>
      refine iff_of_false ?_ (by simp)
      cases callFault? false method fields <;> simp [silent, failing]
  | true =>
      rw [Renders, bare]
      cases called : callFault? true method fields with
      | some fault => simp [failing]
      | none => simp [prints_linesFor]

/-- One level decides for all events exactly if the other one is not above it, or is no bar to
any event. -/
theorem last_decides_iff {first last : Nat} (lastly : last ∈ [0, 10, 20, 30, 40, 50]) :
    (∀ level : Level, first ≤ level.severity ∧ last ≤ level.severity ↔ last ≤ level.severity) ↔
      first ≤ max last 10 := by
  constructor
  · intro decides
    simp only [List.mem_cons, List.not_mem_nil, or_false] at lastly
    have debug := (decides .debug).mpr
    have info := (decides .info).mpr
    have warning := (decides .warning).mpr
    have error := (decides .error).mpr
    have critical := (decides .critical).mpr
    simp only [Level.severity] at debug info warning error critical
    omega
  · intro below level
    have passing : 10 ≤ level.severity := by cases level <;> decide
    exact and_iff_right_of_imp fun passes => by omega

/-! ## Events after the last configuration -/

/-- The events of a desk under its last configuration, when the first level is given as well. -/
structure Gated (earlier : List Step) (desk : Desk) (first : Nat)
    (configuration : Configuration) : Prop where
  configured : desk.state.current = some configuration
  /-- An event of a logger that was not used earlier is printed exactly if it passes the first
  level and the last one, and can be shown. -/
  logged : ∀ {place : Nat} {issue : Issue} (moment : Moment) (method : Method) (event : Value)
      (fields : List (String × Value)),
    desk.issues[place]? = some issue → (∀ step ∈ earlier, ¬step.Uses issue.stem) →
    (Prints (desk.step (.log place moment method event fields)).1 ↔
      first ≤ method.toLevel.severity ∧ configuration.threshold ≤ method.toLevel.severity ∧
        Renders desk.state configuration (issue.logger.use desk.state) moment method event fields)
  /-- So is an event of the library. -/
  reported : ∀ (moment : Moment) (event : Event),
    (∀ step ∈ earlier, ¬step.Employs (loggerName event)) →
    (Prints (desk.step (.report moment event)).1 ↔
      first ≤ event.level.severity ∧ configuration.threshold ≤ event.level.severity ∧
        Renders desk.state configuration
          { name := loggerName event, taken := some (.given configuration) } moment
          (.ordinary event.level) (.text event.name) event.fields.entries)
  /-- Plain events can always be shown. -/
  plain : ∀ {logger : Logger} {moment : Moment} {method : Method} {event : Value}
      {fields : List (String × Value)},
    callFault? true method fields = none → Plain logger.bound → Plain (Fields.ofPairs fields) →
    Plain desk.state.context → (∃ shown, jsonValue event = .ok shown) →
    (∃ shown, jsonValue desk.state.service = .ok shown) →
    Renders desk.state configuration logger moment method event fields
  /-- The last level decides alone for all events exactly if the first one is not above it, or
  lets all events pass. -/
  decides : (∀ level : Level, first ≤ level.severity ∧ configuration.threshold ≤ level.severity ↔
      configuration.threshold ≤ level.severity) ↔ first ≤ max configuration.threshold 10

theorem renders_plain (called : callFault? true method fields = none) (bound : Plain logger.bound)
    (given : Plain (Fields.ofPairs fields)) (context : Plain state.context)
    (shown : ∃ shown, jsonValue event = .ok shown)
    (service : ∃ shown, jsonValue state.service = .ok shown) :
    Renders state configuration logger moment method event fields := by
  obtain ⟨bare, made, plain⟩ :=
    bareFields_plain configuration moment method bound given context shown
  obtain ⟨lines, rendered⟩ :=
    render_plain configuration method.toLevel (plain_served plain service)
  exact ⟨called, bare, lines, made, rendered⟩

theorem prints_step_log {desk : Desk} {place : Nat} {issue : Issue}
    (found : desk.issues[place]? = some issue)
    (configured : issue.logger.setup desk.state = .given configuration) :
    Prints (desk.step (.log place moment method event fields)).1 ↔
      desk.state.rootThreshold.getD 0 ≤ method.toLevel.severity ∧
        configuration.threshold ≤ method.toLevel.severity ∧
          Renders desk.state configuration (issue.logger.use desk.state) moment method event
            fields := by
  rw [Desk.step, found]
  exact prints_log configured

theorem prints_step_report {desk : Desk} {event : Event}
    (configured : (desk.state.ownLogger (loggerName event)).setup desk.state =
      .given configuration) :
    Prints (desk.step (.report moment event)).1 ↔
      desk.state.rootThreshold.getD 0 ≤ event.level.severity ∧
        configuration.threshold ≤ event.level.severity ∧
          Renders desk.state configuration
            { name := loggerName event, taken := some (.given configuration) } moment
            (.ordinary event.level) (.text event.name) event.fields.entries :=
  prints_log configured

/-- After any run, an event of a logger that is first used after the last configuration is
printed exactly if it passes both the level given there and the first level that was ever
given. -/
theorem events_gated (standard : Standard) {earlier later : List Step} {terminal : Bool}
    {request : State.Request} {last : Nat} (accepted : severityOf request.level = .ok last)
    (settled : levels later = []) :
    Gated earlier ((Desk.start standard).after (earlier ++ .configure terminal request :: later))
      ((levels earlier).headD last) (Desk.asked terminal request last) := by
  obtain ⟨before, ran⟩ : ∃ before, before = (Desk.start standard).after earlier := ⟨_, rfl⟩
  obtain ⟨middle, adopted⟩ : ∃ middle, middle =
      (before.serve request.service).adopt (Desk.asked terminal request last) := ⟨_, rfl⟩
  have run : (Desk.start standard).after (earlier ++ .configure terminal request :: later) =
      middle.after later := by
    rw [Desk.after_append, Desk.after, Desk.step_configure_ok accepted, adopted, ran]
  have current : (middle.after later).state.current =
      some (Desk.asked terminal request last) := by
    rw [Desk.current_after settled, adopted]
    rfl
  have setup : (middle.after later).state.setup = .given (Desk.asked terminal request last) := by
    rw [State.setup, current]
    rfl
  have root : (middle.after later).state.rootThreshold.getD 0 = (levels earlier).headD last := by
    have set : before.state.rootThreshold = (levels earlier).head? := by
      rw [ran, Desk.rootThreshold_after]
      rfl
    rw [Desk.rootThreshold_after, settled, adopted, List.headD_eq_head?_getD, ← set]
    rfl
  have upToDate {stem : Stem} (idle : ∀ step ∈ earlier, ¬step.Uses stem) :
      (middle.after later).UpToDate stem := by
    have unused : before.Unused stem := by
      rw [ran]
      exact Desk.unused_after (Desk.unused_start standard stem) idle
    have fresh : middle.Unused stem := by
      rw [adopted]
      exact ⟨unused.issues, unused.own⟩
    exact Desk.upToDate_after fresh.upToDate settled
  rw [run]
  constructor
  case configured => exact current
  case logged =>
    intro place issue moment method event fields found idle
    rw [← root]
    refine prints_step_log found ?_
    rw [(upToDate idle).issues _ _ found rfl, setup]
  case reported =>
    intro moment event idle
    rw [← root]
    refine prints_step_report ?_
    have own : (middle.after later).UpToDate (.own (loggerName event)) := upToDate idle
    rw [own.own _ rfl, setup]
  case plain =>
    intro logger moment method event fields called bound given context shown service
    exact renders_plain called bound given context shown service
  case decides => exact last_decides_iff (severity_mem accepted)

/-- The level is lowered, and an event between the two levels is not printed. -/
theorem events_gated_lowered :
    let earlier : List Step := [.configure false { level := .text "error" }]
    let request : State.Request := { level := .text "debug", stamped := false }
    let later : List Step := [.get "app"]
    let desk := (Desk.start monochrome).after (earlier ++ .configure false request :: later)
    let log (level : Level) : Step := .log 0 ⟨"noon", ""⟩ (.ordinary level) (.text "saved") []
    severityOf request.level = .ok 10 ∧ levels later = [] ∧
      Gated earlier desk 40 (Desk.asked false request 10) ∧
      ¬Prints (desk.step (log .info)).1 ∧ Prints (desk.step (log .error)).1 := by
  intro earlier request later desk log
  have debug : Text.capital "debug" = "DEBUG" := by decide +kernel
  have error : Text.capital "error" = "ERROR" := by decide +kernel
  have started : severityOf ({ level := .text "error" } : State.Request).level = .ok 40 := by
    rw [severityOf, error]
    rfl
  have accepted : severityOf request.level = .ok 10 := by
    rw [severityOf, debug]
    rfl
  have first : (levels earlier).headD 10 = 40 := by
    rw [levels, List.filterMap_cons, Step.level?, started]
    rfl
  have gated : Gated earlier desk 40 (Desk.asked false request 10) := by
    have gated : Gated earlier desk ((levels earlier).headD 10) (Desk.asked false request 10) :=
      events_gated monochrome accepted rfl
    rwa [first] at gated
  have run : desk = (((((Desk.start monochrome).serve (.text "ibmdb-adapter")).adopt
      (Desk.asked false { level := .text "error" } 40)).serve (.text "ibmdb-adapter")).adopt
        (Desk.asked false request 10)).after later := by
    change ((Desk.start monochrome).after
      (.configure false { level := .text "error" } :: .configure false request :: later)) = _
    rw [Desk.after, Desk.step_configure_ok started,
      Desk.after, Desk.step_configure_ok accepted]
  have found : desk.issues[0]? = some { stem := .got 0, logger := { name := "app" } } := by
    rw [run]
    rfl
  have idle : ∀ step ∈ earlier, ¬step.Uses (.got 0) := by
    intro step member
    rw [List.mem_singleton.mp member]
    rintro (⟨fields, other, -⟩ | ⟨moment, method, event, fields, other⟩) <;> cases other
  have logged (level : Level) :=
    gated.logged ⟨"noon", ""⟩ (.ordinary level) (.text "saved") [] found idle
  refine ⟨accepted, rfl, gated, ?_, ?_⟩
  · intro printed
    have passed : 40 ≤ Level.info.severity := ((logged .info).mp printed).1
    revert passed
    decide
  · refine (logged .error).mpr ⟨by decide, by decide,
      gated.plain rfl plain_empty plain_empty ?_ ⟨_, rfl⟩ ?_⟩
    · rw [run]
      exact plain_empty
    · rw [run]
      exact ⟨_, rfl⟩

end Midrange.Log
