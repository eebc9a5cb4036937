import Midrange.Proofs.Crew.Accord

/-!
# Coherent sessions

Whatever programs run on the sessions of a crew, and wherever they are in between, no
session is ever found in a state that its connections do not bear out.
-/

namespace Midrange.Crew

/-- Every session is disconnected and without any connection, or connected and without
an earlier connection, or in a transaction and with both.  It is in a transaction only
while a task is that has not come to its end, and its data source is that of its last
successful connect. -/
structure Coherent (crew : Crew) : Prop where
  sessions : ∀ number, (crew.world.sessions number).Coherent
  transaction : ∀ number, (crew.world.sessions number).isInTransaction = true →
    ∃ task ∈ crew.begun number, ∃ routine : Routine errands Unit,
      crew.tasks[task]? = some routine ∧ isOver routine = false
  source : ∀ number, (crew.world.sessions number).dsn = crew.sources number

/-- The sessions of a crew are coherent at every point of a run. -/
theorem play_coherent (home : Nat → Nat) (factories : Nat → Factory) (moves : List Move) :
    ((start home factories).play moves).Coherent := by
  obtain ⟨duties, accords⟩ := play_accords home factories moves
  generalize (start home factories).play moves = crew at accords
  have attended := accords.attended
  refine ⟨attended.coherent, fun number running => ?_, attended.source⟩
  obtain ⟨task, member⟩ : ∃ task, task ∈ crew.begun number := by
    apply List.exists_mem_of_ne_nil
    intro nobody
    rw [attended.idle number nobody] at running
    cases running
  refine ⟨task, member, ?_⟩
  -- A task without a step left to take would be in no transaction.
  by_contra nothing
  have idle : (duties task).Idle := by
    apply accords.idle
    intro routine present
    by_contra working
    exact nothing ⟨routine, present, Bool.eq_false_iff.mpr working⟩
  have held := attended.mem.mpr member
  rw [idle.depth number] at held
  exact Nat.lt_irrefl 0 held

/-- A session is in a transaction after the step that enters the scope. -/
example : (((start (fun _ => 0) fun _ => .guest).play
    (.join (.bind (.connect 0 (some "a") {}) fun _ =>
        .bind (.transaction 0 (.done (.plain ()))) fun _ => .done ()) ::
      List.replicate 7 (.advance 0 fun
        | .makeGuest _ | .guest _ _ .begin => .ok ()
        | _ => .error (.outside .cancelled "stop")))).world.sessions 0).state =
      .inTransaction := by
  decide

end Midrange.Crew
