import Midrange.Proofs.Attribution
import Midrange.Proofs.Tending

/-!
# Commands and their verbs

A command is one verb on the current connection of its session.  Its result has the answer
of that verb and nothing else.  An ordinary fault of the verb becomes an error that tells
the call, in its members and in its report; a fault that cancels passes as it is.  However
a command ends, all sessions are as they were.
-/

namespace Midrange

variable {caller : Caller} {σ α : Type} {outside : Outside caller σ} {world : World}
  {state : σ}

/-! ## Instructions -/

/-- What a command asks of the connection of its session, and the name that it is reported
under. -/
structure Instruction where
  name : String
  verb : Verb
  sql : String
  parameters : List Value

namespace Instruction

/-- What a command asks that is given by its text. -/
def ofCommand (name sql : String) (bindings : Option (List Value)) : Instruction where
  name
  verb :=
    if name = "insert" then .insert
    else if name = "update" ∨ name = "delete" then .update
    else .query
  sql
  parameters := bindings.getD []

/-- What a statement without a result asks. -/
def ofStatement (sql : String) (bindings : Option (List Value)) : Instruction where
  name := "execute"
  verb := .execute
  sql
  parameters := bindings.getD []

/-- The verb of an instruction, with its statement and its parameters. -/
def perform (instruction : Instruction) (handle : Handle) :
    Routine caller instruction.verb.Answer :=
  handle.perform instruction.verb instruction.sql (.list instruction.parameters)

/-- An error that tells which instruction failed, on which session and for which fault, by
its members and in its report. -/
structure ToldBy (instruction : Instruction) (session : Session) (fault : Fault)
    (error : AdapterError Fault) : Prop where
  kind : error.kind = .query
  sql : error.sql = .text instruction.sql
  bindings : error.bindings = .list instruction.parameters
  dsn : error.context.dsn = (session.dsn.map Value.text).getD .null
  command : error.context.command = .text instruction.name
  cause : error.cause = some fault
  report : ∃ context, error.report = .ok {
        kind := "QueryError"
        message := "Query failed: " ++ fault.text
        category := "DATABASE"
        context
        cause := some fault.text } ∧
    context.entries = (session.dsn.map fun dsn => ("dsn", Value.text dsn)).toList ++
      [("command", .text instruction.name), ("sql", .text instruction.sql),
        ("bindings", .list instruction.parameters)]

/-- How a command ends, and what it reports, after its verb: the answer makes its result,
an ordinary fault an error that tells the call, and a fault that cancels passes. -/
inductive Concluded (instruction : Instruction) (session : Session)
    (result : instruction.verb.Answer → α) :
    Except Fault instruction.verb.Answer → Except Fault α → List (Entry caller) → Prop where
  | answered (answer : instruction.verb.Answer) :
      Concluded instruction session result (.ok answer) (.ok (result answer)) []
  | reported {fault : Fault} {error : AdapterError Fault} :
      fault.isOrdinary = true → instruction.ToldBy session fault error →
      Concluded instruction session result (.error fault) (.error (.adapter error))
        [.event (.session session.label
          (.queryFailed instruction.name instruction.sql fault.text))]
  | cancelled {fault : Fault} :
      fault.isOrdinary = false →
      Concluded instruction session result (.error fault) (.error fault) []

/-- A run that is the run of the verb, and how the command ends after it. -/
structure Performed (instruction : Instruction) (session : Session)
    (result : instruction.verb.Answer → α) (verb : Run caller σ instruction.verb.Answer)
    (run : Run caller σ α) : Prop where
  world : run.world = verb.world
  outside : run.outside = verb.outside
  concluded : ∃ reports, run.trace = verb.trace ++ reports ∧
    Concluded instruction session result verb.outcome run.outcome reports

/-- A run that is one verb on the current connection of a session.  Without a connection
nothing is called; a guest is called once. -/
structure Followed (number : Nat) (instruction : Instruction)
    (result : instruction.verb.Answer → α) (outside : Outside caller σ) (world : World)
    (state : σ) (run : Run caller σ α) : Prop where
  unchanged : run.world.sessions = world.sessions
  unconnected : (world.sessions number).connection = none →
    run = ⟨.error (.adapter (.of .connection "Session is not connected")), world, state, []⟩
  performed : ∀ handle, (world.sessions number).connection = some handle →
    Performed instruction (world.sessions number) result
      ((instruction.perform handle).run outside world state) run
  guest : ∀ inner dedicated,
    (world.sessions number).connection = some (.guest inner dedicated) →
    let request : Call := .guest inner dedicated
      (.perform instruction.verb instruction.sql (.list instruction.parameters))
    let answer := (outside.answer request state).1
    ∃ reports, run.trace = .call request answer :: reports ∧
      Concluded instruction (world.sessions number) result answer run.outcome reports

theorem sessions_perform (instruction : Instruction) (handle : Handle) :
    ((instruction.perform handle).run outside world state).world.sessions = world.sessions := by
  have spares : (instruction.perform handle : Routine caller _).Spares :=
    handle.perform_spares _ _ _
  exact (spares.reaches outside world state).1

end Instruction

/-- The result of a command, with the answer of a verb in the member of that verb. -/
def QueryResult.holding (command : Command) : (verb : Verb) → verb.Answer → QueryResult
  | .insert, insertId => { command, insertId }
  | .update, affectedRows => { command, affectedRows }
  | .query, data => { command, data }
  | .execute, _ => { command }

namespace Session

variable {number : Nat}

/-! ## Errors that tell the call -/

theorem queryError_told (session : Session) (instruction : Instruction) (fault : Fault) :
    ∃ error, queryError session.dsn instruction.name instruction.sql instruction.parameters
        fault = .adapter error ∧ instruction.ToldBy session fault error := by
  refine ⟨_, rfl, rfl, ?_, rfl, rfl, rfl, rfl, ?_⟩
  · by_cases empty : instruction.sql = ""
    · simp [AdapterError.ofQuery, AdapterError.of, AdapterError.sql, Value.isTrue, empty]
    · simp [AdapterError.ofQuery, AdapterError.of, AdapterError.sql, Value.isTrue, empty]
  · cases session.dsn with
    | none => exact ⟨_, rfl, rfl⟩
    | some dsn => exact ⟨_, rfl, rfl⟩

/-! ## One verb -/

theorem performVerb_performed (instruction : Instruction) (handle : Handle) :
    (performVerb number handle instruction.name instruction.verb instruction.sql
        instruction.parameters).Reaches outside (fun outcome final last trace =>
      instruction.Performed (world.sessions number) id
        ((instruction.perform handle).run outside world state) ⟨outcome, final, last, trace⟩)
      world state := by
  have ran : (instruction.perform handle).Reaches outside (fun outcome final last trace =>
      final.sessions = world.sessions ∧
        (instruction.perform handle).run outside world state = ⟨outcome, final, last, trace⟩)
      world state := ⟨instruction.sessions_perform handle, rfl⟩
  rw [performVerb, Routine.bind_eq, Routine.reaches_bind, Routine.reaches_attempt]
  apply ran.mono
  rintro outcome final last trace ⟨same, ran⟩
  rw [Routine.ends_ok, ran]
  cases outcome with
  | ok answer => exact ⟨rfl, rfl, [], rfl, .answered answer⟩
  | error fault =>
      by_cases ordinary : fault.isOrdinary = true
      · obtain ⟨error, wrapped, told⟩ :=
          queryError_told (world.sessions number) instruction fault
        simp only [ordinary, if_true, Routine.bind_eq, Routine.reaches_bind, reaches_report,
          reaches_get, Routine.ends_ok, Routine.reaches_fail, same, wrapped, List.append_nil]
        exact ⟨rfl, rfl, _, rfl, .reported ordinary told⟩
      · simp only [ordinary, Bool.false_eq_true, if_false, Routine.reaches_fail,
          List.append_nil]
        have cancelled := Bool.eq_false_iff.mpr ordinary
        exact ⟨rfl, rfl, [], (List.append_nil _).symm, .cancelled cancelled⟩

/-! ## Following an instruction -/

/-- Performs an instruction on the current connection of a session, for the result of its
answer. -/
def follow (number : Nat) (instruction : Instruction)
    (result : instruction.verb.Answer → α) : Routine caller α :=
  (requireConnection number).bind fun handle =>
    (performVerb number handle instruction.name instruction.verb instruction.sql
      instruction.parameters).bind fun answer => .done (result answer)

section

variable (instruction : Instruction) (result : instruction.verb.Answer → α)

theorem follow_unconnected (unconnected : (world.sessions number).connection = none) :
    (follow number instruction result).run outside world state =
      ⟨.error Misuse.notConnected.fault, world, state, []⟩ := by
  simp only [follow, requireConnection, get, Routine.bind_eq, Routine.run_bind, Routine.look,
    Routine.run, id, unconnected, Routine.refuse, Run.afterAll, List.nil_append]

theorem follow_connected {handle : Handle}
    (connected : (world.sessions number).connection = some handle) :
    (follow number instruction result).Reaches outside (fun outcome final last trace =>
      instruction.Performed (world.sessions number) result
        ((instruction.perform handle).run outside world state) ⟨outcome, final, last, trace⟩)
      world state := by
  simp only [follow, requireConnection, Routine.bind_eq, Routine.reaches_bind, reaches_get,
    Routine.ends_ok, connected, Routine.pure_eq, Routine.reaches_done, List.nil_append]
  apply (performVerb_performed instruction handle).mono
  rintro outcome final last trace ⟨left, after, reports, said, concluded⟩
  generalize ((instruction.perform handle).run outside world state) = verb
    at left after said concluded ⊢
  obtain ⟨answer, _, _, _⟩ := verb
  cases concluded with
  | answered answer =>
      rw [Routine.ends_ok, List.append_nil]
      exact ⟨left, after, [], said, .answered answer⟩
  | reported ordinary told => exact ⟨left, after, _, said, .reported ordinary told⟩
  | cancelled cancelled => exact ⟨left, after, _, said, .cancelled cancelled⟩

theorem follow_followed :
    instruction.Followed number result outside world state
      ((follow number instruction result).run outside world state) where
  unchanged := by
    cases connected : (world.sessions number).connection with
    | none => rw [follow_unconnected instruction result connected]
    | some handle =>
        have performed : (follow number instruction result).Reaches outside _ world state :=
          follow_connected instruction result connected
        rw [performed.world, instruction.sessions_perform]
  unconnected := follow_unconnected instruction result
  performed := fun _ connected => follow_connected instruction result connected
  guest := by
    intro inner dedicated connected
    have performed : (follow number instruction result).Reaches outside _ world state :=
      follow_connected instruction result connected
    obtain ⟨reports, said, concluded⟩ := performed.concluded
    rw [Instruction.perform, Handle.perform, Routine.run_perform] at said concluded
    exact ⟨reports, said, concluded⟩

end

/-! ## Commands -/

theorem parameters_given (bindings : Option (List Value)) :
    parameters ((bindings.map Value.list).getD .null) = .ok (bindings.getD []) := by
  cases bindings with
  | none => rfl
  | some values =>
      cases values with
      | nil => rfl
      | cons value values => rfl

theorem dispatch_eq_follow (name sql : String) (bindings : Option (List Value)) :
    (dispatch number (.ofName name) sql ((bindings.map Value.list).getD .null) :
        Routine caller QueryResult) =
      follow number (.ofCommand name sql bindings)
        (QueryResult.holding (.ofName name) (Instruction.ofCommand name sql bindings).verb) := by
  rw [dispatch, parameters_given]
  by_cases insert : name = "insert"
  · subst insert
    rfl
  by_cases update : name = "update"
  · subst update
    rfl
  by_cases delete : name = "delete"
  · subst delete
    rfl
  by_cases select : name = "select"
  · subst select
    rfl
  have other : Command.ofName name = .other name := by
    simp [Command.ofName]
  have query : Instruction.ofCommand name sql bindings =
      ⟨name, .query, sql, bindings.getD []⟩ := by
    simp [Instruction.ofCommand, insert, update, delete]
  rw [other, query]
  rfl

theorem execute_eq_follow (sql : String) (bindings : Option (List Value)) :
    (execute number sql ((bindings.map Value.list).getD .null) : Routine caller Unit) =
      follow number (.ofStatement sql bindings) fun _ => () := by
  rw [execute, parameters_given, follow]
  congr 1
  funext handle
  exact (Routine.bind_done _).symm

/-- A command follows the instruction of its text, and so does a statement without a result:
it returns the answer in the member of its verb, or fails with an error that tells the call,
or lets a fault pass that cancels.  It changes no session, also between its calls. -/
theorem dispatch_follows (number : Nat) (name sql : String)
    (bindings : Option (List Value)) (outside : Outside caller σ) (world : World) (state : σ) :
    let command := Instruction.ofCommand name sql bindings
    let statement := Instruction.ofStatement sql bindings
    let given := (bindings.map Value.list).getD .null
    let dispatched := dispatch number (.ofName name) sql given
    let executed := execute number sql given
    command.Followed number (QueryResult.holding (.ofName name) command.verb) outside world
        state (dispatched.run outside world state) ∧
      statement.Followed number (fun _ => ()) outside world state
        (executed.run outside world state) ∧
      dispatched.Tends ∧ executed.Tends := by
  intro command statement given dispatched executed
  refine ⟨?_, ?_, dispatch_tends number _ sql given, execute_tends number sql given⟩
  · have follows : dispatched = follow number command _ := dispatch_eq_follow name sql bindings
    rw [follows]
    exact follow_followed command _
  · have follows : executed = follow number statement _ := execute_eq_follow sql bindings
    rw [follows]
    exact follow_followed statement _

/-- A verb that is cancelled ends its command with no result and no error of this
library. -/
theorem dispatch_passes_cancellation :
    let fault : Fault := .outside .cancelled "cancelled"
    let run := (dispatch 0 (.ofName "select") "select * from users" :
      Routine diary QueryResult).run rehearsed connectedWorld
        (Rehearsal.arm "execute" fault 0 1 {})
    (connectedWorld.sessions 0).connection = some (.pool 0) ∧
      run.outcome = .error fault ∧ (∀ result, run.outcome ≠ .ok result) ∧
      ∀ error, run.outcome ≠ .error (.adapter error) := by
  intro fault run
  have passed : run.outcome = .error fault := rfl
  refine ⟨rfl, passed, ?_, ?_⟩
  · intro result returned
    cases passed.symm.trans returned
  · intro error wrapped
    rw [passed] at wrapped
    simp [fault] at wrapped

end Session

end Midrange
