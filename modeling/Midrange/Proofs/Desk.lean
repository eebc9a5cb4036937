import Midrange.Log.Report

/-!
# The log in use

A desk is the log with the loggers that it has handed out.  Its clients configure the log, get
loggers and bind fields to them, bind context, and log events; the library reports events with
loggers of its own, or with those that sessions were given when they connected.  Here it is told
what one step and what a run do to the configuration and to the loggers: the first level that is
accepted stays the threshold of the log, the last configuration is the one that is taken over,
and it is taken over at a first use only.
-/

namespace Midrange.Log

/-- Where a logger comes from: it was got by its name, or is one of the library by its name. -/
inductive Stem where
  | got (place : Nat)
  | own (name : String)
  deriving DecidableEq, Repr

/-- A logger that was handed out.  A logger with further fields has the stem of the one that it
was bound from. -/
structure Issue where
  stem : Stem
  logger : Logger

/-- The log and the loggers that it has handed out, in order. -/
structure Desk where
  state : State
  issues : List Issue := []

/-- The log before anything has happened. -/
def Desk.start (standard : Standard) : Desk :=
  { state := { standard } }

inductive Step where
  | configure (terminal : Bool) (request : State.Request)
  | get (name : String)
  | child (place : Nat) (fields : List (String × Value))
  | log (place : Nat) (moment : Moment) (method : Method) (event : Value)
      (fields : List (String × Value))
  | report (moment : Moment) (event : Event)
  | connect (dsn : String)
  | relay (warning : String)
  | bind (fields : List (String × Value))
  | unbind (names : List String)
  | clear
  | enter (fields : Fields Value)
  | leave (fields : Fields Value)

namespace Step

def isConfiguration : Step → Bool
  | .configure .. => true
  | _ => false

/-- The step has an event for the log. -/
def isEvent : Step → Bool
  | .log .. | .report .. => true
  | _ => false

/-- The level that a configuration gives, if it is accepted. -/
def level? : Step → Option Nat
  | .configure _ request => (severityOf request.level).toOption
  | _ => none

/-- The library uses a logger of its own, for an event or to bind it for a session. -/
def Employs (step : Step) (name : String) : Prop :=
  (∃ moment event, step = .report moment event ∧ loggerName event = name) ∨
    ∃ dsn, step = .connect dsn ∧ sessionLogger = name

/-- A logger is used by the events that it logs and by fields that are bound to it.  Fields
that are refused are no use. -/
def Uses (step : Step) : Stem → Prop
  | .got place =>
      (∃ fields, step = .child place fields ∧ doubled? ["self"] fields = none) ∨
        ∃ moment method event fields, step = .log place moment method event fields
  | .own name => step.Employs name

theorem Employs.level?_eq_none {step : Step} {name : String} (employs : step.Employs name) :
    step.level? = none := by
  rcases employs with ⟨moment, event, rfl, -⟩ | ⟨dsn, rfl, -⟩ <;> rfl

end Step

/-- The levels that are given by the accepted configurations of a run. -/
def levels (steps : List Step) : List Nat :=
  steps.filterMap Step.level?

theorem severity_mem {level : Value} {severity : Nat} (accepted : severityOf level = .ok severity) :
    severity ∈ [0, 10, 20, 30, 40, 50] := by
  cases level with
  | text content =>
      rw [severityOf] at accepted
      split at accepted
      · rename_i found given
        cases accepted
        obtain ⟨earlier, later, parts, -⟩ := List.lookup_eq_some_iff.mp given
        have among : severity ∈ levelNames.map (·.2) := by
          rw [parts]
          simp
        simpa [levelNames] using among
      · cases accepted
  | _ => cases accepted

theorem level?_mem {step : Step} {level : Nat} (given : step.level? = some level) :
    level ∈ [0, 10, 20, 30, 40, 50] := by
  cases step with
  | configure terminal request =>
      rw [Step.level?] at given
      cases accepted : severityOf request.level with
      | error fault =>
          rw [accepted] at given
          cases given
      | ok severity =>
          rw [accepted] at given
          exact Option.some.inj given ▸ severity_mem accepted
  | _ => cases given

theorem levels_mem {steps : List Step} {level : Nat} (given : level ∈ levels steps) :
    level ∈ [0, 10, 20, 30, 40, 50] := by
  obtain ⟨step, -, given⟩ := List.mem_filterMap.mp given
  exact level?_mem given

namespace Desk

/-- Takes a step: the lines that are printed, or the fault, and the desk after it.  A step with
a logger that was not handed out does nothing. -/
def step (desk : Desk) : Step → Except Fault (List Line) × Desk
  | .configure terminal request =>
      let (outcome, state) := desk.state.configure terminal request
      (outcome.map fun _ => [], { desk with state })
  | .get name =>
      let issue := { stem := .got desk.issues.length, logger := { name } }
      (.ok [], { desk with issues := desk.issues ++ [issue] })
  | .child place fields =>
      match desk.issues[place]? with
      | none => (.ok [], desk)
      | some issue =>
          match issue.logger.child desk.state fields with
          | .error fault => (.error fault, desk)
          | .ok (used, child) =>
              (.ok [],
                { desk with
                  issues := desk.issues.set place { issue with logger := used } ++
                    [{ issue with logger := child }] })
  | .log place moment method event fields =>
      match desk.issues[place]? with
      | none => (.ok [], desk)
      | some issue =>
          let (used, lines) := issue.logger.log desk.state moment method event fields
          (lines, { desk with issues := desk.issues.set place { issue with logger := used } })
  | .report moment event =>
      let (state, lines) := desk.state.report moment event
      (lines, { desk with state })
  | .connect dsn =>
      let (state, logger) := desk.state.connect dsn
      (.ok [],
        { state, issues := desk.issues ++ [{ stem := .own sessionLogger, logger }] })
  | .relay warning => (.ok (desk.state.relay warning), desk)
  | .bind fields => (.ok [], { desk with state := desk.state.bind fields })
  | .unbind names => (.ok [], { desk with state := desk.state.unbind names })
  | .clear => (.ok [], { desk with state := desk.state.clear })
  | .enter fields =>
      match desk.state.enter fields with
      | .error fault => (.error fault, desk)
      | .ok state => (.ok [], { desk with state })
  | .leave fields => (.ok [], { desk with state := desk.state.leave fields })

/-- The desk after a run. -/
def after (desk : Desk) : List Step → Desk
  | [] => desk
  | step :: steps => (desk.step step).2.after steps

/-- What the steps of a run print. -/
def answers (desk : Desk) : List Step → List (Except Fault (List Line))
  | [] => []
  | step :: steps => (desk.step step).1 :: (desk.step step).2.answers steps

theorem after_append (desk : Desk) (steps later : List Step) :
    desk.after (steps ++ later) = (desk.after steps).after later := by
  induction steps generalizing desk with
  | nil => rfl
  | cons step steps induction => exact induction _

/-! ## Configurations -/

variable {desk : Desk} {step : Step} {steps : List Step} {terminal : Bool}
  {request : State.Request}

/-- The configuration that a request asks for. -/
def asked (terminal : Bool) (request : State.Request) (threshold : Nat) : Configuration :=
  { threshold, json := request.json.getD (!terminal), stamped := request.stamped }

/-- The desk with another name of the service. -/
def serve (service : Value) (desk : Desk) : Desk :=
  { desk with state := { desk.state with service } }

/-- The desk with a new configuration, which sets the threshold of the log if there is none. -/
def adopt (configuration : Configuration) (desk : Desk) : Desk :=
  { desk with state := { desk.state with
      current := some configuration
      rootThreshold := some (desk.state.rootThreshold.getD configuration.threshold) } }

theorem step_configure_ok {threshold : Nat} (accepted : severityOf request.level = .ok threshold) :
    desk.step (.configure terminal request) =
      (.ok [], (desk.serve request.service).adopt (asked terminal request threshold)) := by
  rw [Desk.step, State.configure, accepted]
  rfl

/-- The service is taken over before the level is looked up. -/
theorem step_configure_error {fault : Fault} (refused : severityOf request.level = .error fault) :
    desk.step (.configure terminal request) = (.error fault, desk.serve request.service) := by
  rw [Desk.step, State.configure, refused]
  rfl

/-- What becomes of the state of the log in a step. -/
inductive Moved (desk : Desk) : Step → State → Prop where
  | accepted {terminal : Bool} {request : State.Request} {threshold : Nat}
      (accepted : severityOf request.level = .ok threshold) :
      Moved desk (.configure terminal request)
        ((desk.serve request.service).adopt (asked terminal request threshold)).state
  | refused {terminal : Bool} {request : State.Request} {fault : Fault}
      (refused : severityOf request.level = .error fault) :
      Moved desk (.configure terminal request) (desk.serve request.service).state
  | employed {step : Step} {name : String} (employs : step.Employs name) :
      Moved desk step (desk.state.employ name)
  | bound {step : Step} (unconfigured : step.level? = none) (context : Fields Value) :
      Moved desk step { desk.state with context }

/-- A step configures the log, uses a logger of the library, or changes no more than the
context. -/
theorem moved_step (desk : Desk) (step : Step) : desk.Moved step (desk.step step).2.state := by
  cases step with
  | configure terminal request =>
      cases level : severityOf request.level with
      | ok threshold =>
          rw [step_configure_ok level]
          exact .accepted level
      | error fault =>
          rw [step_configure_error level]
          exact .refused level
  | report moment event => exact .employed (.inl ⟨moment, event, rfl, rfl⟩)
  | connect dsn => exact .employed (.inr ⟨dsn, rfl, rfl⟩)
  | child place fields =>
      rw [Desk.step]
      split
      · exact .bound rfl desk.state.context
      · split <;> exact .bound rfl desk.state.context
  | log place moment method event fields =>
      rw [Desk.step]
      split <;> exact .bound rfl desk.state.context
  | enter fields =>
      rw [Desk.step, State.enter]
      split <;> rename_i entered
      · exact .bound rfl desk.state.context
      · split at entered
        · cases entered
        · rw [← Except.ok.inj entered]
          exact .bound rfl _
  | get | relay | bind | unbind | clear | leave => exact .bound rfl _

theorem rootThreshold_step :
    (desk.step step).2.state.rootThreshold = desk.state.rootThreshold.or step.level? := by
  have moved := desk.moved_step step
  generalize (desk.step step).2.state = state at moved
  cases moved with
  | accepted accepted =>
      rw [Step.level?, accepted]
      change some (desk.state.rootThreshold.getD _) = _
      cases desk.state.rootThreshold <;> rfl
  | refused refused =>
      rw [Step.level?, refused]
      exact Option.or_none.symm
  | employed employs =>
      rw [employs.level?_eq_none]
      exact Option.or_none.symm
  | bound unconfigured => rw [unconfigured, Option.or_none]

theorem current_step (unaccepted : step.level? = none) :
    (desk.step step).2.state.current = desk.state.current := by
  have moved := desk.moved_step step
  generalize (desk.step step).2.state = state at moved
  cases moved with
  | accepted accepted =>
      rw [Step.level?, accepted] at unaccepted
      cases unaccepted
  | refused | employed | bound => rfl

theorem levels_cons_eq_nil :
    levels (step :: steps) = [] ↔ step.level? = none ∧ levels steps = [] := by
  rw [levels, List.filterMap_cons]
  split <;> simp_all [levels]

/-- The threshold of the log is the first level that was ever accepted. -/
theorem rootThreshold_after :
    (desk.after steps).state.rootThreshold = desk.state.rootThreshold.or (levels steps).head? := by
  induction steps generalizing desk with
  | nil => exact Option.or_none.symm
  | cons step steps induction =>
      rw [after, induction, rootThreshold_step, Option.or_assoc, levels, levels,
        List.filterMap_cons]
      cases step.level? <;> rfl

theorem current_after (unaccepted : levels steps = []) :
    (desk.after steps).state.current = desk.state.current := by
  induction steps generalizing desk with
  | nil => rfl
  | cons step steps induction =>
      obtain ⟨first, later⟩ := levels_cons_eq_nil.mp unaccepted
      rw [after, induction later, current_step first]

theorem threshold_step :
    (desk.step step).2.state.current.map (·.threshold) =
      step.level?.or (desk.state.current.map (·.threshold)) := by
  have moved := desk.moved_step step
  generalize (desk.step step).2.state = state at moved
  cases moved with
  | accepted accepted =>
      rw [Step.level?, accepted]
      rfl
  | refused refused =>
      rw [Step.level?, refused]
      rfl
  | employed employs =>
      rw [employs.level?_eq_none]
      rfl
  | bound unconfigured =>
      rw [unconfigured]
      rfl

/-- The threshold of the present configuration is the last level that was accepted. -/
theorem threshold_after :
    (desk.after steps).state.current.map (·.threshold) =
      (levels steps).getLast?.or (desk.state.current.map (·.threshold)) := by
  induction steps generalizing desk with
  | nil => rfl
  | cons step steps induction =>
      rw [after, induction, threshold_step, ← Option.or_assoc, levels, levels,
        List.filterMap_cons]
      cases step.level? with
      | none => rw [Option.or_none]
      | some level =>
          rw [List.getLast?_cons]
          cases (steps.filterMap Step.level?).getLast? <;> rfl

/-! ## Loggers -/

variable {place : Nat} {stem : Stem} {issue : Issue} {name : String}

theorem setup_use (state : State) (logger : Logger) :
    (logger.use state).setup state = logger.setup state := by
  cases taken : logger.taken with
  | some setup => simp [Logger.use, Logger.setup, taken]
  | none => cases current : state.current <;>
      simp [Logger.use, Logger.setup, State.setup, taken, current]

/-- Where a logger comes from that is there after a step. -/
inductive Traced (desk : Desk) (step : Step) : Nat → Issue → Prop where
  | kept {place : Nat} {issue : Issue} (found : desk.issues[place]? = some issue) :
      Traced desk step place issue
  | used {place : Nat} {issue : Issue} (found : desk.issues[place]? = some issue)
      (uses : step.Uses (.got place)) :
      Traced desk step place { issue with logger := issue.logger.use desk.state }
  | got (name : String) :
      Traced desk step desk.issues.length
        { stem := .got desk.issues.length, logger := { name } }
  | bound {place : Nat} {issue : Issue} (found : desk.issues[place]? = some issue)
      (uses : step.Uses (.got place)) (bound : Fields Value) :
      Traced desk step desk.issues.length
        { issue with logger :=
          { issue.logger with taken := some (issue.logger.setup desk.state), bound } }
  | connected {name : String} (employs : step.Employs name) (bound : Fields Value) :
      Traced desk step desk.issues.length
        { stem := .own name
          logger :=
            { name, taken := some ((desk.state.ownLogger name).setup desk.state), bound } }

theorem getElem?_set_of_found {issues : List Issue} {replaced later : Issue} {other : Nat}
    (found : issues[place]? = some issue)
    (after : (issues.set place replaced)[other]? = some later) :
    issues[other]? = some later ∨ other = place ∧ later = replaced := by
  rw [List.getElem?_set] at after
  split at after
  case isTrue same =>
    rw [if_pos (List.getElem?_eq_some_iff.mp found).1] at after
    exact .inr ⟨same.symm, (Option.some.inj after).symm⟩
  case isFalse => exact .inl after

theorem getElem?_append_singleton {issues : List Issue} {new later : Issue} {other : Nat}
    (after : (issues ++ [new])[other]? = some later) :
    issues[other]? = some later ∨ other = issues.length ∧ later = new := by
  rw [List.getElem?_append] at after
  split at after
  case isTrue => exact .inl after
  case isFalse long =>
    obtain ⟨short, same⟩ := List.getElem?_eq_some_iff.mp after
    rw [List.length_singleton] at short
    exact .inr ⟨by omega, by simpa using same.symm⟩

theorem child_eq_ok {state : State} {fields : List (String × Value)} {logger used child : Logger}
    (bound : logger.child state fields = .ok (used, child)) :
    doubled? ["self"] fields = none ∧ used = logger.use state ∧
      child = { logger with
        taken := some (logger.setup state), bound := logger.bound.insertAll fields } := by
  rw [Logger.child] at bound
  split at bound
  · cases bound
  · cases bound
    exact ⟨‹_›, rfl, rfl⟩

/-- A step leaves a logger as it is, uses it, gets it, or binds it from another one. -/
theorem traced_step (found : (desk.step step).2.issues[place]? = some issue) :
    desk.Traced step place issue := by
  cases step with
  | get name =>
      rcases getElem?_append_singleton found with old | ⟨rfl, rfl⟩
      · exact .kept old
      · exact .got name
  | connect dsn =>
      rcases getElem?_append_singleton found with old | ⟨rfl, rfl⟩
      · exact .kept old
      · exact .connected (.inr ⟨dsn, rfl, rfl⟩) _
  | child other fields =>
      rw [Desk.step] at found
      split at found
      · exact .kept found
      · rename_i parent there
        split at found
        · exact .kept found
        · rename_i used child bound
          obtain ⟨accepted, rfl, rfl⟩ := child_eq_ok bound
          have uses : (Step.child other fields).Uses (.got other) :=
            .inl ⟨fields, rfl, accepted⟩
          rcases getElem?_append_singleton found with old | ⟨new, rfl⟩
          · rcases getElem?_set_of_found there old with same | ⟨rfl, rfl⟩
            · exact .kept same
            · exact .used there uses
          · rw [List.length_set] at new
            subst new
            exact .bound there uses _
  | log other moment method event fields =>
      rw [Desk.step] at found
      split at found
      · exact .kept found
      · rename_i user there
        have uses : (Step.log other moment method event fields).Uses (.got other) :=
          .inr ⟨moment, method, event, fields, rfl⟩
        rcases getElem?_set_of_found there found with same | ⟨rfl, rfl⟩
        · exact .kept same
        · exact .used there uses
  | enter fields =>
      rw [Desk.step] at found
      split at found <;> exact .kept found
  | configure | report | relay | bind | unbind | clear | leave => exact .kept found

/-- A logger of the library takes over the present configuration when it is used first. -/
theorem own_step (desk : Desk) (step : Step) (name : String) :
    (desk.step step).2.state.own.get? name = desk.state.own.get? name ∨
      step.Employs name ∧ (desk.step step).2.state.own.get? name =
        (desk.state.own.get? name).or desk.state.current := by
  have moved := desk.moved_step step
  generalize (desk.step step).2.state = state at moved
  cases moved with
  | @employed _ employed employs =>
      by_cases same : name = employed
      · subst same
        refine .inr ⟨employs, ?_⟩
        rw [State.employ, Option.orElse_eq_orElse, Option.orElse_eq_or]
        cases taken : (desk.state.own.get? name).or desk.state.current with
        | none => exact (Option.or_eq_none_iff.mp taken).1
        | some configuration => exact desk.state.own.get?_insert_self _ configuration
      · refine .inl ?_
        rw [State.employ, Option.orElse_eq_orElse, Option.orElse_eq_or]
        cases (desk.state.own.get? employed).or desk.state.current with
        | none => rfl
        | some configuration => exact desk.state.own.get?_insert_of_ne configuration same
  | accepted | refused | bound => exact .inl rfl

/-- Nothing has been taken over by a logger with this stem, and none was bound from it. -/
structure Unused (desk : Desk) (stem : Stem) : Prop where
  issues : ∀ (place : Nat) (issue : Issue), desk.issues[place]? = some issue →
    issue.stem = stem → stem = .got place ∧ issue.logger.taken = none
  own : ∀ name, stem = .own name → desk.state.own.get? name = none

/-- What the loggers with this stem have taken over is the present setup. -/
structure UpToDate (desk : Desk) (stem : Stem) : Prop where
  issues : ∀ (place : Nat) (issue : Issue), desk.issues[place]? = some issue →
    issue.stem = stem → issue.logger.setup desk.state = desk.state.setup
  own : ∀ name, stem = .own name →
    (desk.state.ownLogger name).setup desk.state = desk.state.setup

theorem setup_ownLogger (state : State) (name : String) :
    (state.ownLogger name).setup state =
      ((state.own.get? name).or state.current).elim .standard .given := by
  rw [Logger.setup, State.ownLogger, State.setup]
  cases state.own.get? name <;> rfl

theorem unused_start (standard : Standard) (stem : Stem) : (start standard).Unused stem where
  issues := by
    intro place issue found
    cases found
  own := fun _ _ => rfl

theorem Unused.upToDate (unused : desk.Unused stem) : desk.UpToDate stem where
  issues := by
    intro place issue found stems
    rw [Logger.setup, (unused.issues place issue found stems).2, Option.getD_none]
  own := by
    intro name stems
    rw [setup_ownLogger, unused.own name stems, Option.none_or, State.setup]

theorem unused_step (unused : desk.Unused stem) (idle : ¬step.Uses stem) :
    (desk.step step).2.Unused stem where
  issues := by
    intro place issue present stems
    cases traced_step present with
    | kept found => exact unused.issues _ _ found stems
    | used found uses => exact absurd ((unused.issues _ _ found stems).1 ▸ uses) idle
    | got => exact ⟨stems.symm, rfl⟩
    | bound found uses => exact absurd ((unused.issues _ _ found stems).1 ▸ uses) idle
    | connected employs => exact absurd (stems ▸ employs) idle
  own := by
    intro name stems
    rw [(own_step desk step name).resolve_right fun employed => idle (stems ▸ employed.1)]
    exact unused.own name stems

theorem unused_after (unused : desk.Unused stem) (idle : ∀ step ∈ steps, ¬step.Uses stem) :
    (desk.after steps).Unused stem := by
  induction steps generalizing desk with
  | nil => exact unused
  | cons step steps induction =>
      obtain ⟨first, later⟩ := List.forall_mem_cons.mp idle
      exact induction (unused_step unused first) later

/-- Loggers that are up to date stay so until another configuration is accepted. -/
theorem upToDate_step (upToDate : desk.UpToDate stem) (unaccepted : step.level? = none) :
    (desk.step step).2.UpToDate stem := by
  have setup : (desk.step step).2.state.setup = desk.state.setup := by
    rw [State.setup, current_step unaccepted, State.setup]
  have stays (logger : Logger) :
      logger.setup (desk.step step).2.state = logger.setup desk.state := by
    rw [Logger.setup, setup, Logger.setup]
  constructor
  · intro place issue present stems
    rw [setup, stays]
    cases traced_step present with
    | kept found => exact upToDate.issues _ _ found stems
    | used found => exact (setup_use _ _).trans (upToDate.issues _ _ found stems)
    | got => rfl
    | @bound _ parent found =>
        have same : parent.logger.setup desk.state = _ := upToDate.issues _ _ found stems
        exact same
    | connected => exact upToDate.own _ stems.symm
  · intro name stems
    have before := upToDate.own name stems
    rw [setup, ← before, setup_ownLogger, setup_ownLogger, current_step unaccepted]
    rcases own_step desk step name with same | ⟨-, taken⟩
    · rw [same]
    · rw [taken, Option.or_assoc, Option.or_self]

theorem upToDate_after (upToDate : desk.UpToDate stem) (unaccepted : levels steps = []) :
    (desk.after steps).UpToDate stem := by
  induction steps generalizing desk with
  | nil => exact upToDate
  | cons step steps induction =>
      obtain ⟨first, later⟩ := levels_cons_eq_nil.mp unaccepted
      exact induction (upToDate_step upToDate first) later

end Desk

end Midrange.Log
