import Mathlib.Data.List.Forall2
import Midrange.Proofs.ServiceName
import Midrange.Proofs.Thresholds

/-!
# Configurations that are refused

A configuration whose level has no severity fails, but only after the log has taken over the
name of its service.  Here it is told how far this reaches: until a configuration is requested
again, the events that name no service themselves are printed with the new name, and nothing
else is changed.
-/

namespace Midrange.Log

/-- A logger shows the service of the log: it has a configuration, and the event does not name
a service itself. -/
def Logger.Labels (state : State) (logger : Logger)
    (fields : List (String × Value)) : Prop :=
  logger.setup state ≠ .standard ∧ ownService? state logger fields = none

namespace Desk

variable {desk : Desk} {step : Step} {steps : List Step}

/-! ## The desk with another service -/

/-- A configuration that is requested replaces the service, accepted or not. -/
theorem serve_step_of_configuration (configures : step.isConfiguration = true)
    (service : Value) : (desk.serve service).step step = desk.step step := by
  cases step with
  | configure terminal request =>
      cases level : severityOf request.level with
      | ok threshold =>
          rw [step_configure_ok level, step_configure_ok level]
          rfl
      | error fault =>
          rw [step_configure_error level, step_configure_error level]
          rfl
  | _ => cases configures

/-- A step that neither configures the log nor has an event for it has nothing to do with the
service. -/
theorem serve_step_of_quiet (unconfigured : step.isConfiguration = false)
    (quiet : step.isEvent = false) (service : Value) :
    (desk.serve service).step step = ((desk.step step).1, (desk.step step).2.serve service) := by
  cases step with
  | configure => cases unconfigured
  | log | report => cases quiet
  | child place fields =>
      have kept : (desk.serve service).issues = desk.issues := rfl
      rw [Desk.step, Desk.step, kept]
      cases desk.issues[place]? with
      | none => rfl
      | some issue =>
          have same : issue.logger.child (desk.serve service).state fields =
              issue.logger.child desk.state fields := rfl
          dsimp only
          rw [same]
          cases issue.logger.child desk.state fields <;> rfl
  | enter fields =>
      rw [Desk.step, Desk.step, State.enter, State.enter]
      cases doubled? ["self"] fields.entries <;> rfl
  | get | connect | relay | bind | unbind | clear | leave => rfl

/-- Only configurations change the service or depend on it in what they leave. -/
theorem serve_step (unconfigured : step.isConfiguration = false) (service : Value) :
    ((desk.serve service).step step).2 = (desk.step step).2.serve service := by
  cases quiet : step.isEvent with
  | false => rw [serve_step_of_quiet unconfigured quiet]
  | true =>
      cases step with
      | log place moment method event fields =>
          have kept : (desk.serve service).issues = desk.issues := rfl
          rw [Desk.step, Desk.step, kept]
          cases desk.issues[place]? <;> rfl
      | report => rfl
      | _ => cases quiet

/-! ## Steps that show the service -/

/-- The step prints a line that shows the service of the log. -/
def Labels (desk : Desk) (step : Step) : Prop :=
  Prints (desk.step step).1 ∧
    match step with
    | .log place _ _ _ fields => ∃ issue, desk.issues[place]? = some issue ∧
        issue.logger.Labels desk.state fields
    | .report _ event =>
        (desk.state.ownLogger (loggerName event)).Labels desk.state event.fields.entries
    | _ => False

/-- How the answer to a step depends on the service. -/
inductive Answered (desk : Desk) (step : Step) : Prop where
  | settled (answer : Except Fault (List Line)) (unlabelled : ¬desk.Labels step)
      (answers : ∀ service, ((desk.serve service).step step).1 = answer)
  | lines (configuration : Configuration) (logger : Logger) (moment : Moment)
      (method : Method) (event : Value) (fields : List (String × Value))
      (labels : desk.Labels step ↔
        Prints (desk.step step).1 ∧ ownService? desk.state logger fields = none)
      (answers : ∀ service, ((desk.serve service).step step).1 =
        linesFor { desk.state with service } configuration logger moment method event fields)

/-- The answer of a logger does not depend on the service, or shows it. -/
theorem answered_of_log (logger : Logger) (moment : Moment) (method : Method) (event : Value)
    (fields : List (String × Value))
    (labels : desk.Labels step ↔
      Prints (desk.step step).1 ∧ logger.Labels desk.state fields)
    (logs : ∀ service, ((desk.serve service).step step).1 =
      (logger.log { desk.state with service } moment method event fields).2) :
    desk.Answered step := by
  rcases log_answered desk.state logger moment method event fields with
    ⟨answer, unlabelled, answers⟩ | ⟨configuration, configured, answers⟩
  · have same (service : Value) := (logs service).trans (answers service)
    refine .settled answer (fun shows => ?_) same
    rcases unlabelled with standard | unprinted
    · exact (labels.mp shows).2.1 standard
    · exact unprinted (same desk.state.service ▸ shows.1)
  · refine .lines configuration logger moment method event fields ?_ fun service =>
      (logs service).trans (answers service)
    have given : logger.setup desk.state ≠ .standard := by simp [configured]
    exact labels.trans (and_congr_right fun _ => and_iff_right given)

theorem answered (desk : Desk) (step : Step) : desk.Answered step := by
  cases quiet : step.isEvent with
  | false =>
      refine .settled (desk.step step).1 ?_ fun service => ?_
      · rintro ⟨-, shown⟩
        cases step with
        | log | report => cases quiet
        | _ => exact shown
      · cases configures : step.isConfiguration with
        | true => rw [serve_step_of_configuration configures]
        | false => rw [serve_step_of_quiet configures quiet]
  | true =>
      cases step with
      | log place moment method event fields =>
          have kept (service : Value) : (desk.serve service).issues = desk.issues := rfl
          cases found : desk.issues[place]? with
          | none =>
              refine .settled (.ok []) ?_ fun service => ?_
              · rintro ⟨-, issue, there, -⟩
                rw [found] at there
                cases there
              · rw [Desk.step, kept, found]
          | some issue =>
              refine answered_of_log issue.logger moment method event fields ?_ fun service => ?_
              · refine and_congr_right fun _ => ⟨?_, fun own => ⟨issue, found, own⟩⟩
                rintro ⟨other, there, own⟩
                rw [found] at there
                cases there
                exact own
              · rw [Desk.step, kept, found]
                rfl
      | report moment event =>
          exact answered_of_log (desk.state.ownLogger (loggerName event)) moment
            (.ordinary event.level) (.text event.name) event.fields.entries Iff.rfl
            fun service => rfl
      | _ => cases quiet

/-- An answer is the same but for the service that it shows. -/
theorem relabelled_step (desk : Desk) (step : Step) (given : Value) :
    Relabelled desk.state.service given (desk.step step).1
      ((desk.serve given).step step).1 := by
  cases answered desk step with
  | settled answer unlabelled answers =>
      have held : (desk.step step).1 = answer := answers desk.state.service
      rw [held, answers]
      exact .same answer
  | lines configuration logger moment method event fields labels answers =>
      have held : (desk.step step).1 = _ := answers desk.state.service
      rw [held, answers]
      exact linesFor_relabelled desk.state configuration logger moment method event fields given

/-- The name of the service is seen exactly in the lines that show it. -/
theorem serve_step_eq_iff {held given : String} (holds : desk.state.service = .text held) :
    ((desk.serve (.text given)).step step).1 = (desk.step step).1 ↔
      given = held ∨ ¬desk.Labels step := by
  by_cases same : given = held
  · have kept : desk.serve (.text given) = desk := by
      rw [same, ← holds]
      rfl
    rw [kept]
    exact iff_of_true rfl (.inl same)
  · rw [or_iff_right same]
    cases answered desk step with
    | settled answer unlabelled answers =>
        have here : (desk.step step).1 = answer := answers desk.state.service
        rw [here, answers]
        exact iff_of_true rfl unlabelled
    | lines configuration logger moment method event fields labels answers =>
        have here : (desk.step step).1 = _ := answers desk.state.service
        rw [labels, here, answers]
        exact linesFor_eq_iff holds same

/-! ## Runs -/

/-- Only the service is another one, until a configuration is requested. -/
theorem after_serve (desk : Desk) (steps : List Step) (given : Value) :
    (desk.serve given).after steps =
      if steps.any Step.isConfiguration then desk.after steps
      else (desk.after steps).serve given := by
  induction steps generalizing desk with
  | nil => rfl
  | cons step steps induction =>
      rw [List.any_cons, after, after]
      cases configures : step.isConfiguration with
      | true => rw [serve_step_of_configuration configures, Bool.true_or, if_pos rfl]
      | false => rw [serve_step configures, induction, Bool.false_or]

theorem service_step (unconfigured : step.isConfiguration = false) :
    (desk.step step).2.state.service = desk.state.service := by
  have moved := desk.moved_step step
  generalize (desk.step step).2.state = state at moved
  cases moved with
  | accepted | refused => cases unconfigured
  | employed | bound => rfl

theorem service_after (unconfigured : steps.any Step.isConfiguration = false) :
    (desk.after steps).state.service = desk.state.service := by
  induction steps generalizing desk with
  | nil => rfl
  | cons step steps induction =>
      rw [List.any_cons, Bool.or_eq_false_iff] at unconfigured
      rw [after, induction unconfigured.2, service_step unconfigured.1]

theorem relabelled_answers (desk : Desk) (steps : List Step) (given : Value) :
    List.Forall₂ (Relabelled desk.state.service given) (desk.answers steps)
      ((desk.serve given).answers steps) := by
  induction steps generalizing desk with
  | nil => exact .nil
  | cons step steps induction =>
      refine .cons (relabelled_step desk step given) ?_
      cases configures : step.isConfiguration with
      | true =>
          rw [serve_step_of_configuration configures]
          exact List.forall₂_same.mpr fun answer _ => .same answer
      | false =>
          rw [serve_step configures, ← service_step configures]
          exact induction _

/-- After a run, the name of the service is seen in the lines that show it, unless the run has
requested a configuration. -/
theorem after_serve_step_eq_iff {held given : String} (holds : desk.state.service = .text held) :
    (((desk.serve (.text given)).after steps).step step).1 = ((desk.after steps).step step).1 ↔
      given = held ∨ steps.any Step.isConfiguration = true ∨
        ¬(desk.after steps).Labels step := by
  rw [after_serve]
  cases configured : steps.any Step.isConfiguration with
  | true => exact iff_of_true rfl (.inr (.inl rfl))
  | false =>
      rw [if_neg Bool.false_ne_true, serve_step_eq_iff ((service_after configured).trans holds)]
      exact or_congr_right (or_iff_right Bool.false_ne_true).symm

/-- What is answered to each step of a run is what is answered to the run. -/
theorem answers_congr {other : Desk}
    (same : ∀ earlier step later, steps = earlier ++ step :: later →
      ((other.after earlier).step step).1 = ((desk.after earlier).step step).1) :
    other.answers steps = desk.answers steps := by
  induction steps generalizing desk other with
  | nil => rfl
  | cons step steps induction =>
      have first : (other.step step).1 = (desk.step step).1 := same [] step steps rfl
      have later : (other.step step).2.answers steps = (desk.step step).2.answers steps :=
        induction fun earlier next rest parts =>
          same (step :: earlier) next rest (by rw [parts, List.cons_append])
      rw [answers, answers, first, later]

/-! ## Before and after the first configuration -/

theorem levels_eq_nil_of_unconfigured (unconfigured : steps.any Step.isConfiguration = false) :
    levels steps = [] := by
  refine List.filterMap_eq_nil_iff.mpr fun step member => ?_
  have other := List.any_eq_false.mp unconfigured step member
  cases step with
  | configure => exact absurd rfl other
  | _ => rfl

variable {standard : Standard}

theorem current_eq_none_iff :
    ((start standard).after steps).state.current = none ↔ levels steps = [] := by
  have last : ((start standard).after steps).state.current.map (·.threshold) =
      (levels steps).getLast? := threshold_after.trans Option.or_none
  rw [← List.getLast?_eq_none_iff, ← last, Option.map_eq_none_iff]

/-- No line shows the service of the log as long as no configuration was accepted. -/
theorem unlabelled_after (unaccepted : levels steps = []) :
    ¬((start standard).after steps).Labels step := by
  have upToDate (stem : Stem) : ((start standard).after steps).UpToDate stem :=
    upToDate_after (unused_start standard stem).upToDate unaccepted
  have setup : ((start standard).after steps).state.setup = .standard := by
    rw [State.setup, current_eq_none_iff.mpr unaccepted]
    rfl
  rintro ⟨-, shown⟩
  cases step with
  | log place moment method event fields =>
      obtain ⟨issue, found, given, -⟩ := shown
      exact given (((upToDate issue.stem).issues _ _ found rfl).trans setup)
  | report moment event =>
      exact shown.1 (((upToDate (.own _)).own _ rfl).trans setup)
  | _ => exact shown

/-- Once a configuration was accepted, there are events that show the service: those that are
critical pass all thresholds. -/
theorem labels_critical {earlier : List Step} (ran : desk = (start standard).after earlier)
    (accepted : desk.state.current ≠ none) {held : String}
    (holds : desk.state.service = .text held) :
    (desk.after [.clear, .get ""]).Labels
      (.log desk.issues.length ⟨"", ""⟩ (.ordinary .critical) .null []) := by
  obtain ⟨configuration, configured⟩ := Option.ne_none_iff_exists'.mp accepted
  have bounded {level : Nat} (given : level ∈ levels earlier) : level ≤ 50 := by
    have among := levels_mem given
    simp only [List.mem_cons, List.not_mem_nil, or_false] at among
    omega
  have last : (levels earlier).getLast? = some configuration.threshold := by
    have given : desk.state.current.map (·.threshold) = _ := ran ▸ threshold_after
    rw [configured] at given
    exact Option.or_none.symm.trans given.symm
  have first : desk.state.rootThreshold.getD 0 ≤ 50 := by
    have given : desk.state.rootThreshold = _ := ran ▸ rootThreshold_after
    rw [given]
    cases head : (levels earlier).head? with
    | none => exact Nat.zero_le 50
    | some level => exact bounded (List.mem_of_head? head)
  have found : (desk.after [.clear, .get ""]).issues[desk.issues.length]? =
      some { stem := .got desk.issues.length, logger := { name := "" } } :=
    List.getElem?_concat_length
  have setup : ({ name := "" } : Logger).setup (desk.after [.clear, .get ""]).state =
      .given configuration := by
    change desk.state.current.elim Setup.standard .given = _
    rw [configured]
    rfl
  have shown : ∃ shown, jsonValue (desk.after [.clear, .get ""]).state.service = .ok shown := by
    refine ⟨.text held, ?_⟩
    change jsonValue desk.state.service = _
    rw [holds]
    rfl
  refine ⟨(prints_step_log found setup).mpr ⟨first, bounded (List.mem_of_getLast? last), ?_⟩,
    _, found, by simp [setup], rfl⟩
  exact renders_plain rfl plain_empty plain_empty plain_empty ⟨_, rfl⟩ shown

/-- No run tells two names of the service apart, exactly if nothing was ever accepted or the
names are the same. -/
theorem answers_serve_iff {earlier : List Step} (ran : desk = (start standard).after earlier)
    {held given : String} (holds : desk.state.service = .text held) :
    (∀ later, (desk.serve (.text given)).answers later = desk.answers later) ↔
      desk.state.current = none ∨ given = held := by
  constructor
  · intro same
    by_contra neither
    obtain ⟨accepted, different⟩ := not_or.mp neither
    let event : Step := .log desk.issues.length ⟨"", ""⟩ (.ordinary .critical) .null []
    have answers := same [.clear, .get "", event]
    have answer : (((desk.serve (.text given)).after [.clear, .get ""]).step event).1 =
        ((desk.after [.clear, .get ""]).step event).1 :=
      (List.cons.inj (List.cons.inj (List.cons.inj answers).2).2).1
    rcases (after_serve_step_eq_iff holds).mp answer with equal | configured | unlabelled
    · exact different equal
    · cases configured
    · exact unlabelled (labels_critical ran accepted holds)
  · intro alike later
    refine answers_congr fun before step rest _ => (after_serve_step_eq_iff holds).mpr ?_
    rcases alike with unaccepted | equal
    · cases configured : before.any Step.isConfiguration with
      | true => exact .inr (.inl rfl)
      | false =>
          have never : levels (earlier ++ before) = [] := by
            rw [ran, current_eq_none_iff] at unaccepted
            rw [levels, List.filterMap_append]
            exact List.append_eq_nil_iff.mpr
              ⟨unaccepted, levels_eq_nil_of_unconfigured configured⟩
          rw [ran, ← after_append]
          exact .inr (.inr (unlabelled_after never))
    · exact .inl equal

end Desk

/-! ## What a refused configuration leaves behind -/

/-- A desk on which a configuration was refused, and the desk on which it was not requested. -/
structure Aftermath (desk refused : Desk) (name : Value) : Prop where
  /-- Only the service is another one, until the next configuration is requested, accepted or
  not; then nothing is left. -/
  lasting : ∀ later, refused.after later =
    if later.any Step.isConfiguration then desk.after later else (desk.after later).serve name
  /-- All later answers are the same but for the service that lines show. -/
  relabelled : ∀ later, List.Forall₂ (Relabelled desk.state.service name)
    (desk.answers later) (refused.answers later)
  /-- A later answer is the same, unless the services have different names, no configuration
  was requested in between, and the line shows the service of the log. -/
  noticed : ∀ {held given : String}, desk.state.service = .text held → name = .text given →
    ∀ later step, ((refused.after later).step step).1 = ((desk.after later).step step).1 ↔
      given = held ∨ later.any Step.isConfiguration = true ∨ ¬(desk.after later).Labels step
  /-- Nothing that happens later shows a difference, exactly if no configuration was accepted
  before or the names are the same. -/
  unnoticed : ∀ {held given : String}, desk.state.service = .text held → name = .text given →
    ((∀ later, refused.answers later = desk.answers later) ↔
      desk.state.current = none ∨ given = held)

/-- After any run, a configuration that fails has replaced the service and nothing else. -/
theorem refusal_aftermath (standard : Standard) (earlier : List Step) {terminal : Bool}
    {request : State.Request} {fault : Fault}
    (raised : (((Desk.start standard).after earlier).step (.configure terminal request)).1 =
      .error fault) :
    Aftermath ((Desk.start standard).after earlier)
      (((Desk.start standard).after earlier).step (.configure terminal request)).2
      request.service := by
  obtain ⟨desk, ran⟩ : ∃ desk, desk = (Desk.start standard).after earlier := ⟨_, rfl⟩
  rw [← ran] at raised ⊢
  have left : (desk.step (.configure terminal request)).2 = desk.serve request.service := by
    cases level : severityOf request.level with
    | ok threshold =>
        rw [Desk.step_configure_ok level] at raised
        cases raised
    | error => rw [Desk.step_configure_error level]
  rw [left]
  constructor
  case lasting => exact fun later => desk.after_serve later request.service
  case relabelled => exact fun later => desk.relabelled_answers later request.service
  case noticed =>
    intro held given holds named later step
    rw [named]
    exact Desk.after_serve_step_eq_iff holds
  case unnoticed =>
    intro held given holds named
    rw [named]
    exact Desk.answers_serve_iff ran holds

/-- A level is refused, and an event is printed with the name that came with it. -/
theorem refusal_aftermath_renamed :
    let request : State.Request :=
      { level := .text "info", json := some true, service := .text "orders", stamped := false }
    let earlier : List Step := [.configure false request, .get "app"]
    let desk := (Desk.start monochrome).after earlier
    let refusal : Step := .configure false { level := .text "loud" }
    let event : Step := .log 0 ⟨"noon", ""⟩ (.ordinary .info) (.text "saved") []
    (desk.step refusal).1 = .error (.unknownLevel "LOUD") ∧
      Aftermath desk (desk.step refusal).2 (.text "ibmdb-adapter") ∧
      desk.Labels event ∧ ((desk.step refusal).2.step event).1 ≠ (desk.step event).1 := by
  intro request earlier desk refusal event
  have info : Text.capital "info" = "INFO" := by decide +kernel
  have loud : Text.capital "loud" = "LOUD" := by decide +kernel
  have accepted : severityOf request.level = .ok 20 := by
    rw [severityOf, info]
    rfl
  have refused : severityOf ({ level := .text "loud" } : State.Request).level =
      .error (.unknownLevel "LOUD") := by
    rw [severityOf, loud]
    rfl
  have raised : (desk.step refusal).1 = .error (.unknownLevel "LOUD") := by
    rw [Desk.step_configure_error refused]
  have run : desk = (((Desk.start monochrome).serve (.text "orders")).adopt
      (Desk.asked false request 20)).after [.get "app"] := by
    change (Desk.start monochrome).after [.configure false request, .get "app"] = _
    rw [Desk.after, Desk.step_configure_ok accepted]
  have aftermath : Aftermath desk (desk.step refusal).2 (.text "ibmdb-adapter") :=
    refusal_aftermath monochrome earlier raised
  have holds : desk.state.service = .text "orders" := by rw [run]; rfl
  have found : desk.issues[0]? = some { stem := .got 0, logger := { name := "app" } } := by
    rw [run]
    rfl
  have setup : ({ name := "app" } : Logger).setup desk.state =
      .given (Desk.asked false request 20) := by
    rw [run]
    rfl
  have context : desk.state.context = ∅ := by rw [run]; rfl
  have root : desk.state.rootThreshold.getD 0 = 20 := by rw [run]; rfl
  have labels : desk.Labels event := by
    refine ⟨(prints_step_log found setup).mpr ⟨Nat.le_of_eq root, by decide, ?_⟩, _, found,
      by simp [setup], ?_⟩
    · exact renders_plain rfl plain_empty plain_empty (context ▸ plain_empty) ⟨_, rfl⟩
        ⟨.text "orders", by rw [holds]; rfl⟩
    · rw [ownService?, context]
      rfl
  refine ⟨raised, aftermath, labels, fun same => ?_⟩
  have noticed := aftermath.noticed holds rfl [] event
  rw [Desk.after, Desk.after] at noticed
  rcases noticed.mp same with equal | configured | unlabelled
  · revert equal
    decide
  · cases configured
  · exact unlabelled labels

end Midrange.Log
