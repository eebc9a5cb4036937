import Midrange.Proofs.Script
import Midrange.Rehearsal

/-!
# What a transaction leaves behind

However a transaction ends, its session has its earlier connection back, or none
if the work closed it.  The value is that of the work.  A fault of the work passes,
unless one of the calls that clean up is cancelled.
-/

namespace Midrange

namespace Connection

theorem finished_error {answer restored : Except Fault Unit} {raised : Fault}
    (failed : finished answer restored = .error raised) :
    answer = .error raised ∨ restored = .error raised := by
  cases restored with
  | ok => exact .inl failed
  | error fault => exact .inr failed

end Connection

namespace Pool

open Connection (finished tolerated concluded)

variable {α : Type} {connection : Connection} {returned : Except Fault α}
  {answer restored : Except Fault Unit} {closing : Option (Except Fault Unit)}

theorem mem_faults_of_finished {raised : Fault} {ends : Bool}
    (failed : finished answer restored = .error raised) :
    raised ∈ faults (cleanup connection ends answer restored closing) := by
  rcases Connection.finished_error failed with rfl | rfl
  · cases ends <;> simp [cleanup, faults, Connection.ending, Exchange.fault?]
  · simp [cleanup, faults, Exchange.fault?]

theorem mem_cleanup_of_closed {raised : Fault} {ends : Bool}
    (failed : Connection.closed closing = .error raised) :
    raised ∈ faults (cleanup connection ends answer restored closing) ∧
      raised.isOrdinary = false := by
  obtain ⟨member, cancelled⟩ := mem_faults_of_closed connection failed
  refine ⟨?_, cancelled⟩
  rw [cleanup, faults_append]
  exact List.mem_append_right _ member

section

variable (connection answer restored closing)

/-- Work that returned fails only for a fault of the cleanup. -/
theorem cleaned_of_ok (value : α) :
    cleaned (.ok value) answer restored closing = .ok value ∨
      ∃ raised ∈ faults (cleanup connection true answer restored closing),
        cleaned (.ok value) answer restored closing = .error raised := by
  rw [cleaned, concluded]
  cases given : Connection.closed closing with
  | error raised => exact .inr ⟨raised, (mem_cleanup_of_closed given).1, rfl⟩
  | ok =>
      cases done : finished answer restored with
      | ok => exact .inl rfl
      | error raised => exact .inr ⟨raised, mem_faults_of_finished done, rfl⟩

/-- The fault of work passes, unless the cleanup is cancelled. -/
theorem cleaned_of_error (fault : Fault) :
    cleaned (.error fault : Except Fault α) answer restored closing = .error fault ∨
      ∃ raised ∈ faults (cleanup connection false answer restored closing),
        raised.isOrdinary = false ∧
        cleaned (.error fault : Except Fault α) answer restored closing =
          .error raised := by
  rw [cleaned, concluded]
  cases given : Connection.closed closing with
  | error raised =>
      obtain ⟨member, cancelled⟩ := mem_cleanup_of_closed given
      exact .inr ⟨raised, member, cancelled, rfl⟩
  | ok =>
      cases done : tolerated (finished answer restored) with
      | ok => exact .inl rfl
      | error raised =>
          obtain ⟨failed, cancelled⟩ := Connection.tolerated_error done
          exact .inr ⟨raised, mem_faults_of_finished failed, cancelled, rfl⟩

end

/-- A transaction returns only what its work returned. -/
theorem cleaned_ok {returned : Except Fault α} {value : α}
    (succeeded : cleaned returned answer restored closing = .ok value) :
    returned = .ok value := by
  cases returned with
  | ok value' =>
      obtain passed | ⟨raised, _, failed⟩ :=
        cleaned_of_ok ⟨0⟩ answer restored closing value'
      · exact passed.symm.trans succeeded
      · cases failed.symm.trans succeeded
  | error fault =>
      have passed := cleaned_of_error (α := α) ⟨0⟩ answer restored closing fault
      simp [succeeded] at passed

end Pool

/-- How a transaction with work ran on its session. -/
inductive Worked {σ α : Type} (number : Nat) (session : Session)
    (script : Script (Outcome α)) (outside : Outside diary σ)
    (run : Run diary σ (Option α)) : Prop where
  /-- It failed before it began, and the work did not run. -/
  | refused (fault : Fault) :
      run.outcome = .error fault →
      Unasked run.trace → Pool.Refuses (exchanges run.trace) →
      Worked number session script outside run
  /-- The work ran once, in the scope of the transaction and between the calls that
  begin it and those that clean up. -/
  | ran (connection : Connection) (scope : Nat) (entered : World) (state : σ)
      (before after : List (Entry diary)) (inner : Run diary σ (Outcome α))
      (answer restored : Except Fault Unit) (closing : Option (Except Fault Unit)) :
      inner = (script.routine number).run outside entered state →
      entered.sessions number = Session.enterScope (.scope scope) session →
      run.trace = before ++ inner.trace ++ after →
      Unasked before → Unasked after →
      ⟨.autocommit connection false, .ok ()⟩ ∈ exchanges before →
      exchanges after =
        Pool.cleanup connection inner.outcome.isOk answer restored closing →
      (∀ outcome, inner.outcome = .ok outcome →
        run.outcome = .ok (some outcome.value) ∨
          ∃ raised ∈ faults (exchanges after), run.outcome = .error raised) →
      (∀ fault, inner.outcome = .error fault →
        run.outcome = .error fault ∨
          ∃ raised ∈ faults (exchanges after), raised.isOrdinary = false ∧
            run.outcome = .error raised) →
      Worked number session script outside run

/-- What a transaction leaves behind. -/
structure Restored {σ α : Type} (number : Nat) (session : Session)
    (work : Option (Script (Outcome α))) (outside : Outside diary σ)
    (run : Run diary σ (Option α)) : Prop where
  /-- A session that was not closed is the one that began. -/
  kept : Unasked run.trace → run.world.sessions number = session
  /-- A session that was closed has no connection. -/
  closed : ¬Unasked run.trace →
    (run.world.sessions number).connection = none ∧
      (run.world.sessions number).prior = none ∧
      (run.world.sessions number).state = .disconnected
  bare : work = none → ∀ value, run.outcome = .ok value → value = none
  worked : ∀ script, work = some script → Worked number session script outside run

namespace Restored

variable {σ α : Type} {number : Nat} {session : Session} {outside : Outside diary σ}
  {final : World} {last : σ} {before after : List (Entry diary)}
  {connection : Connection} {handle : Handle} {scope : Nat}
  {answer restored : Except Fault Unit} {closing : Option (Except Fault Unit)}

theorem refused {work : Option (Script (Outcome α))} {fault : Fault}
    (same : final.sessions number = session) (unasked : Unasked after)
    (refuses : Pool.Refuses (exchanges after)) :
    Restored number session work outside ⟨.error fault, final, last, after⟩ where
  kept := fun _ => same
  closed := fun asked => (asked unasked).elim
  bare := by
    intro _ value ended
    cases ended
  worked := fun _ _ => .refused fault rfl unasked refuses

theorem ran {script : Script (Outcome α)} {entered : World} {state : σ}
    {inner : Run diary σ (Outcome α)} (rests : session.AtRest)
    (connected : session.connection = some handle)
    (now : entered.sessions number = Session.enterScope (.scope scope) session)
    (here : inner = (script.routine number).run outside entered state)
    (left : final.sessions number = Session.leaveScope (inner.world.sessions number))
    (unasked : Unasked before) (unasked' : Unasked after)
    (began : ⟨.autocommit connection false, .ok ()⟩ ∈ exchanges before)
    (cleanup : exchanges after =
      Pool.cleanup connection inner.outcome.isOk answer restored closing) :
    Restored number session (some script) outside
      ⟨Pool.cleaned (inner.outcome.map fun outcome => some outcome.value) answer restored
        closing, final, last, before ++ inner.trace ++ after⟩ := by
  have goes := (Script.routine_keeps number script).reaches outside entered state
  rw [Routine.Reaches, Script.Kept, now, ← here] at goes
  obtain ⟨stays, ends⟩ := goes.leaveScope rests connected
  have whole : Unasked (before ++ inner.trace ++ after) ↔ Unasked inner.trace := by
    simp [unasked, unasked']
  constructor
  · intro unclosed
    exact left.trans (stays (whole.mp unclosed))
  · intro asked
    rw [left, ends (mt whole.mpr asked)]
    exact ⟨rfl, rfl, rfl⟩
  · intro without
    cases without
  · rintro _ ⟨⟩
    apply Worked.ran connection scope entered state before after inner answer restored
      closing here now rfl unasked unasked' began cleanup
    · intro outcome returned
      rw [cleanup, returned]
      exact Pool.cleaned_of_ok connection answer restored closing _
    · intro fault raised
      rw [cleanup, raised]
      exact Pool.cleaned_of_error connection answer restored closing fault

end Restored

/-- A rehearsed driver as the outside of scripts. -/
def rehearsed : Outside diary Rehearsal where
  answer := Rehearsal.answer
  reply := fun _ rehearsal => ((), rehearsal)

/-- A world whose sessions are connected to its first pool. -/
def connectedWorld : World :=
  { sessions := fun _ => { connection := some (.pool 0), state := .connected } }

theorem connectedWorld_sound (number : Nat) :
    (connectedWorld.sessions number).Sound := .inl ⟨rfl, rfl⟩

end Midrange
