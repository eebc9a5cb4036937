import Midrange.Log.Report

/-!
# Scopes of context fields

A scope binds its fields when it is entered and removes their names when it is left, however
its body ends.  Scopes nest to any depth, and their bodies log and handle faults or let them
pass.  What is bound after a scope is told here by what was bound before: the names of all
scopes that were entered inside are lost.
-/

namespace Midrange.Log

variable {α : Type} {state inside : State} {fields : Fields Value}

/-- Runs a body in a scope of context fields, which is left whether the body returns or
fails.  A scope around a body that waits does the same. -/
def State.within (fields : Fields Value) (body : State → Except Fault α × State)
    (state : State) : Except Fault α × State :=
  match state.enter fields with
  | .error fault => (.error fault, state)
  | .ok inside =>
      let (outcome, last) := body inside
      (outcome, last.leave fields)

/-- What is done with the log by code that binds its context through scopes alone.  It goes on
with what came of each step, so that it may handle a fault or end with it. -/
inductive Activity where
  | ended (outcome : Except Fault Value)
  | report (moment : Moment) (event : Event) (next : Except Fault (List Line) → Activity)
  | log (logger : Logger) (moment : Moment) (method : Method) (event : Value)
      (fields : List (String × Value))
      (next : Logger × Except Fault (List Line) → Activity)
  | scope (fields : Fields Value) (body : Activity) (next : Except Fault Value → Activity)

namespace Activity

def run : Activity → State → Except Fault Value × State
  | .ended outcome, state => (outcome, state)
  | .report moment event next, state =>
      let (state, lines) := state.report moment event
      (next lines).run state
  | .log logger moment method event fields next, state =>
      (next (logger.log state moment method event fields)).run state
  | .scope fields body next, state =>
      let (outcome, state) := state.within fields body.run
      (next outcome).run state

/-- The names of the fields of all scopes that are entered. -/
def names : Activity → State → List String
  | .ended _, _ => []
  | .report moment event next, state =>
      let (state, lines) := state.report moment event
      (next lines).names state
  | .log logger moment method event fields next, state =>
      (next (logger.log state moment method event fields)).names state
  | .scope fields body next, state =>
      let (outcome, last) := state.within fields body.run
      let later := (next outcome).names last
      match state.enter fields with
      | .error _ => later
      | .ok inside => fields.names ++ body.names inside ++ later

end Activity

namespace State

theorem context_unbind (names : List String) (state : State) :
    (state.unbind names).context = state.context.filter fun name _ => !names.contains name :=
  rfl

theorem context_unbind_nil (state : State) : (state.unbind []).context = state.context :=
  Fields.filter_eq_self.mpr fun _ _ => rfl

theorem context_unbind_append (names later : List String) (state : State) :
    ((state.unbind names).unbind later).context = (state.unbind (names ++ later)).context := by
  simp only [context_unbind, Fields.filter_filter, ← Bool.not_or, List.contains_append,
    Bool.or_comm]

theorem context_unbind_congr {other : State} (same : state.context = other.context)
    (names : List String) : (state.unbind names).context = (other.unbind names).context := by
  rw [context_unbind, context_unbind, same]

/-- Nothing is lost only if nothing was bound under the names. -/
theorem context_unbind_eq_self {names : List String} :
    (state.unbind names).context = state.context ↔
      ∀ name ∈ names, state.context.get? name = none := by
  rw [context_unbind, Fields.filter_eq_self]
  simp only [Fields.get?_eq_none, Bool.not_eq_true', List.contains_eq_mem, decide_eq_false_iff_not]
  exact ⟨fun kept name lost bound => kept name bound lost,
    fun free name bound lost => free name lost bound⟩

theorem eq_bind_of_enter (entered : state.enter fields = .ok inside) :
    inside = state.bind fields.entries := by
  unfold enter at entered
  split at entered
  · cases entered
  · exact (Except.ok.inj entered).symm

/-- Removing the names of a scope among others undoes what entering it bound. -/
theorem context_unbind_of_enter (entered : state.enter fields = .ok inside)
    {names : List String} (among : ∀ name ∈ fields.names, name ∈ names) :
    (inside.unbind names).context = (state.unbind names).context := by
  have dropped : ∀ name ∈ fields.names, (!names.contains name) = false := by
    intro name named
    simpa using among name named
  rw [eq_bind_of_enter entered]
  exact state.context.filter_insertAll fields dropped

theorem within_of_enter (entered : state.enter fields = .ok inside)
    (body : State → Except Fault α × State) :
    state.within fields body = ((body inside).1, (body inside).2.leave fields) := by
  rw [within, entered]

/-- A scope takes away its own names and those that its body takes away. -/
theorem context_within {body : State → Except Fault α × State} {names : List String}
    (entered : state.enter fields = .ok inside)
    (taken : (body inside).2.context = (inside.unbind names).context) :
    (state.within fields body).2.context = (state.unbind (fields.names ++ names)).context := by
  rw [within_of_enter entered]
  calc ((body inside).2.unbind fields.names).context
    _ = ((inside.unbind names).unbind fields.names).context :=
        context_unbind_congr taken fields.names
    _ = ((inside.unbind fields.names).unbind names).context := by
        simp only [context_unbind, Fields.filter_filter, Bool.and_comm]
    _ = ((state.unbind fields.names).unbind names).context :=
        context_unbind_congr (context_unbind_of_enter entered fun _ named => named) names
    _ = (state.unbind (fields.names ++ names)).context :=
        context_unbind_append fields.names names state

end State

theorem Activity.context_run (activity : Activity) (state : State) :
    (activity.run state).2.context = (state.unbind (activity.names state)).context := by
  induction activity generalizing state with
  | ended outcome => exact state.context_unbind_nil.symm
  | report moment event next induction => exact induction _ _
  | log logger moment method event fields next induction => exact induction _ _
  | scope fields body next within after =>
      rw [run, names]
      cases entered : state.enter fields with
      | error fault =>
          rw [State.within, entered]
          exact after _ _
      | ok inside =>
          have left := State.context_within entered (within inside)
          rw [after, State.context_unbind_congr left, State.context_unbind_append]

/-- What a scope does with the bound context when it is entered and left. -/
structure Scoped (fields : Fields Value) (body : Activity) (state inside : State) : Prop where
  /-- The body begins with the fields of the scope over what was bound before. -/
  bound : ∀ name, inside.context.get? name = (fields.get? name).or (state.context.get? name)
  /-- What the body returns or raises passes. -/
  outcome : (state.within fields body.run).1 = (body.run inside).1
  /-- The names of the scope and of the scopes entered in its body are removed. -/
  left : (state.within fields body.run).2.context =
    (state.unbind (fields.names ++ body.names inside)).context
  /-- So the context is that of before only if none of the names was bound then. -/
  restored : (state.within fields body.run).2.context = state.context ↔
    ∀ name ∈ fields.names ++ body.names inside, state.context.get? name = none

theorem scope_left (body : Activity) (entered : state.enter fields = .ok inside) :
    Scoped fields body state inside := by
  have left := State.context_within entered (body.context_run inside)
  refine ⟨fun name => ?_, ?_, left, ?_⟩
  · rw [State.eq_bind_of_enter entered]
    exact state.context.get?_insertAll fields name
  · rw [State.within_of_enter entered]
  · rw [left, State.context_unbind_eq_self]

/-- A scope in a scope that binds a name again: the name is lost with the inner one. -/
theorem scope_left_inner :
    let state : State :=
      { standard := monochrome
        context := .ofPairs [("dsn", .text "main"), ("job", .text "nightly"), ("try", .int 1)] }
    let fields : Fields Value := .ofPairs [("job", .text "import")]
    let body : Activity :=
      .scope (.ofPairs [("dsn", .text "inner")]) (.ended (.error (.outside .runtime "lost")))
        .ended
    let inside := state.bind fields.entries
    state.enter fields = .ok inside ∧ Scoped fields body state inside ∧
      (state.within fields body.run).2.context = .ofPairs [("try", .int 1)] := by
  intro state fields body inside
  have entered : state.enter fields = .ok inside := rfl
  exact ⟨entered, scope_left body entered, rfl⟩

end Midrange.Log
