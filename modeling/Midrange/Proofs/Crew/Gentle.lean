import Midrange.Proofs.Crew.Accord

/-!
# Tasks that tear nothing down

Handles are removed from registries and closed by teardowns alone.  With each step of a
task whose program has no teardown, every registry keeps what it holds, and nothing is
shut that was not shut before.
-/

namespace Midrange

variable {α β : Type}

/-- Holds of a program without a teardown. -/
def Program.Gentle : {α : Type} → Program α → Prop
  | _, .bind first second => first.Gentle ∧ ∀ value, (second value).Gentle
  | _, .attempt body => body.Gentle
  | _, .transaction _ work => work.Gentle
  | _, .tearDown _ | _, .globalClose _ => False
  | _, _ => True

def Errand.isClear : Errand → Bool
  | .clear _ => true
  | _ => false

namespace Routine

/-- Never asks for a registry to be cleared, whatever happens. -/
def Gentle : Routine errands α → Prop
  | .done _ | .fail _ => True
  | .step _ next => ∀ world, (next world).Gentle
  | .emit _ next => next.Gentle
  | .call _ next => ∀ answer, (next answer).Gentle
  | .aside errand next => errand.isClear = false ∧ ∀ reply, (next reply).Gentle

namespace Gentle

theorem bind {first : Routine errands β} {second : β → Routine errands α}
    (before : first.Gentle) (after : ∀ value, (second value).Gentle) :
    (first.bind second).Gentle := by
  induction first with
  | done value => exact after value
  | fail => trivial
  | step update next induction => exact fun world => induction world (before world)
  | emit event next induction => exact induction before
  | call request next induction => exact fun answer => induction answer (before answer)
  | aside errand next induction =>
      exact ⟨before.1, fun reply => induction reply (before.2 reply)⟩

theorem attempt {routine : Routine errands α} (gentle : routine.Gentle) :
    routine.attempt.Gentle := by
  induction routine with
  | done | fail => trivial
  | step update next induction => exact fun world => induction world (gentle world)
  | emit event next induction => exact induction gentle
  | call request next induction => exact fun answer => induction answer (gentle answer)
  | aside errand next induction =>
      exact ⟨gentle.1, fun reply => induction reply (gentle.2 reply)⟩

theorem of_tends {routine : Routine errands α} (tends : routine.Tends) :
    routine.Gentle := by
  induction routine with
  | done | fail => trivial
  | step update next induction => exact fun world => induction world (tends world).2
  | emit event next induction => exact induction tends
  | call request next induction => exact fun answer => induction answer (tends.2 answer)
  | aside => exact tends.elim

theorem ofExcept (outcome : Except Fault α) :
    (Routine.ofExcept outcome : Routine errands α).Gentle :=
  .of_tends (.ofExcept outcome)

theorem order {errand : Errand} (other : errand.isClear = false) : errand.order.Gentle :=
  ⟨other, ofExcept⟩

end Gentle

end Routine

/-! ## Programs -/

theorem Pool.transaction_gentle (pool : Nat) {body : Handle → Routine errands α}
    (gentle : ∀ inner, (body inner).Gentle) : (transaction pool body).Gentle := by
  refine .bind (.of_tends (checkout_tends pool)) fun connection => .bind (.attempt ?_) ?_
  · refine .bind (.of_tends (.drive _)) fun _ => .bind (fun _ => trivial) fun scope => ?_
    refine .bind (gentle _).attempt fun outcome => .bind (fun _ => trivial) fun _ => ?_
    cases outcome with
    | ok value => exact .bind (.of_tends connection.commit_tends) fun _ => trivial
    | error fault => exact .bind (.of_tends connection.rollbackQuietly_tends) fun _ => trivial
  · intro outcome
    cases outcome with
    | ok value => exact .bind (.of_tends (checkin_tends pool connection)) fun _ => trivial
    | error fault => exact .bind (.of_tends connection.closeQuietly_tends) fun _ => trivial

theorem Handle.transaction_gentle (handle : Handle) {body : Handle → Routine errands α}
    (gentle : ∀ inner, (body inner).Gentle) : (handle.transaction body).Gentle := by
  cases handle with
  | pool number => exact Pool.transaction_gentle number gentle
  | scope number => trivial
  | guest number dedicated =>
      refine .bind (.of_tends (.perform rfl)) fun _ => .bind (fun _ => trivial) fun inner => ?_
      refine .bind (gentle _).attempt fun outcome => ?_
      cases outcome with
      | ok value => exact .bind (.of_tends (.perform rfl)) fun _ => trivial
      | error fault => exact .bind (.of_tends (.perform rfl)) fun _ => trivial

theorem Session.transaction_gentle {number : Nat}
    {work : Option (Routine errands (Outcome α))}
    (gentle : ∀ routine, work = some routine → routine.Gentle) :
    (transaction number work).Gentle := by
  have leaves (outcome : Except Fault (Option α)) :
      ((change number leaveScope).bind fun _ => Routine.ofExcept outcome).Gentle :=
    .bind (fun _ => trivial) fun _ => .ofExcept outcome
  have scope_gentle (inner : Handle) : (scope number work inner).Gentle := by
    refine .bind (fun _ => trivial) fun _ => .bind (.of_tends (report_tends number _)) ?_
    intro _
    cases work with
    | none => exact leaves _
    | some routine =>
        exact .bind (gentle routine rfl).attempt fun _ => leaves _
  refine .bind (.of_tends (requireConnection_tends number)) fun handle => ?_
  refine .bind (fun _ => trivial) fun session => ?_
  by_cases running : session.isInTransaction = true
  · rw [if_pos running]
    trivial
  · rw [if_neg running]
    refine .bind (handle.transaction_gentle scope_gentle).attempt fun outcome => .of_tends ?_
    cases outcome with
    | ok value => exact .bind (report_tends number _) fun _ => trivial
    | error fault =>
        by_cases ordinary : fault.isOrdinary = true
        · simp only [ordinary, if_true]
          exact .bind (report_tends number _) fun _ => trivial
        · simp only [ordinary]
          trivial

theorem Errand.during_gentle (number : Nat) {routine : Routine errands α}
    (gentle : routine.Gentle) : (during number routine).Gentle :=
  .bind (.order rfl) fun _ => .bind gentle.attempt fun outcome =>
    .bind (.order rfl) fun _ => .ofExcept outcome

/-- A program without a teardown never asks for a registry to be cleared. -/
theorem Program.routine_gentle {program : Program α} (gentle : program.Gentle) :
    program.routine.Gentle := by
  induction program with
  | done | fail | commit | rollback => trivial
  | bind first second before after =>
      exact .bind (before gentle.1) fun value => after value (gentle.2 value)
  | attempt body induction => exact .attempt (induction gentle)
  | tearDown | globalClose => exact gentle.elim
  | acquire | connect | close | release => exact .order rfl
  | dispatch session command sql bindings =>
      exact .of_tends (Session.dispatch_tends session command sql bindings)
  | execute session sql bindings => exact .of_tends (Session.execute_tends session sql bindings)
  | createTable session table => exact .of_tends (Session.createTable_tends session table)
  | select session query bindings => exact .of_tends (Session.select_tends session query bindings)
  | transaction session work induction =>
      refine Errand.during_gentle session (Session.transaction_gentle ?_)
      rintro _ ⟨⟩
      exact induction gentle
  | emptyTransaction session =>
      exact Errand.during_gentle session (Session.transaction_gentle nofun)

/-! ## Steps that retain -/

/-- Whatever a registry held before, it holds afterwards, and nothing more is shut. -/
structure Crew.Retains (before after : Crew) : Prop where
  entries : ∀ registry, (before.world.registries registry).handles.entries <+:
    (after.world.registries registry).handles.entries
  shut : ∀ handle, Shut after.world after.dismissed handle →
    Shut before.world before.dismissed handle

namespace Crew.Retains

variable (crew : Crew) {after : World}

theorem refl : crew.Retains crew :=
  ⟨fun _ => List.prefix_rfl, fun _ shut => shut⟩

theorem leaves (leaves : crew.world.Leaves after) :
    crew.Retains { crew with world := after } := by
  refine ⟨fun registry => ?_, fun handle shut => ?_⟩
  · simp only [leaves.registries, List.prefix_rfl]
  · exact (shut_congr leaves.closed crew.dismissed handle).mp shut

theorem acquires {registry : Nat} {dsn : String} {verdict : Except Fault Unit}
    {outcome : Except Fault Handle}
    (acquired : Registry.Acquired crew.world registry dsn verdict outcome after) :
    crew.Retains { crew with world := after } := by
  refine ⟨fun other => ?_, fun _ => acquired.shut⟩
  cases acquired with
  | reused | failed => exact List.prefix_rfl
  | pool absent | guest absent => exact World.prefix_keep absent other

theorem connects {number : Nat} {source : String} {outcome : Except Fault Unit}
    (connected : Session.Connected crew.world number source outcome after) :
    crew.Retains { crew with world := after } := by
  cases connected with
  | failed => exact refl crew
  | connected free acquired =>
      have retains := acquires crew acquired
      exact ⟨retains.entries, fun _ shut => acquired.shut shut⟩

end Crew.Retains

namespace Crew

variable {crew : Crew} {duties : Nat → Duty} {task : Nat}

/-- Only the errand that clears a registry takes something from one. -/
theorem errand_retains {errand : Errand} (other : errand.isClear = false)
    (answers : Answers) (crew : Crew) :
    crew.Retains
      { crew with world := (errand.routine.run answers.outside crew.world ()).world } := by
  cases errand with
  | clear => cases other
  | note => exact .refl crew
  | acquire registry dsn options =>
      have acquired : Registry.Acquired crew.world registry dsn _ _
          ((Registry.acquire registry dsn options).run answers.outside crew.world ()).world :=
        Registry.acquire_reaches
      exact .acquires crew acquired
  | connect number dsn target =>
      exact .connects crew (Session.connect_connects dsn target)
  | close number =>
      have closed : _ ∧ (((Session.close number).run answers.outside crew.world ()).world =
          crew.world ∨ ((Session.close number).run answers.outside crew.world ()).world =
          crew.world.changeSession number Session.disconnected) := Session.close_closes
      dsimp only [Errand.routine]
      rcases closed.2 with same | same <;> rw [same]
      · exact .refl crew
      · exact .leaves crew (crew.world.leaves_changeSession _ _)

namespace Accords

/-- A task that has nothing to tear down is about to close nothing. -/
theorem closing (accords : crew.Accords duties) (calm : crew.tearing task = none) :
    (duties task).closing = none := by
  cases busy : (duties task).closing with
  | none => rfl
  | some handle =>
      obtain ⟨period, torn, _⟩ := accords.locked.closing task handle busy
      rw [calm] at torn
      cases torn

/-- A step outside a teardown, which does not begin one, retains everything. -/
theorem retains (accords : crew.Accords duties) {routine : Routine errands Unit}
    (present : crew.tasks[task]? = some routine) (gentle : routine.Gentle)
    (calm : crew.tearing task = none) (answers : Answers) :
    crew.Retains (crew.advance task answers routine) := by
  have behaves := accords.tasks task routine present
  have free := accords.closing calm
  cases routine with
  | done | fail => exact .refl crew
  | emit event next => exact ⟨fun _ => List.prefix_rfl, fun _ shut => shut⟩
  | step update next =>
      obtain ⟨duty, changes, _⟩ := behaves crew.world (accords.attended.fits task)
      have leaves : crew.world.Leaves (update crew.world) := by
        generalize update crew.world = after at changes
        cases changes with
        | tend tends => exact tends.leaves
        | session => exact crew.world.leaves_changeSession _ _
        | shut busy =>
            rw [free] at busy
            cases busy
      have retains := Retains.leaves crew leaves
      exact ⟨retains.entries, retains.shut⟩
  | call request next =>
      obtain ⟨duty, hears, _⟩ := behaves
      refine ⟨fun registry => List.prefix_rfl, fun handle shut => ?_⟩
      change Shut crew.world (crew.dismissed ++ (dismissed? request).toList) handle at shut
      cases hears with
      | other silent =>
          rw [silent] at shut
          simpa using shut
      | dismiss busy =>
          rw [free] at busy
          cases busy
  | aside errand next =>
      rw [Crew.advance]
      split
      · have retains := crew.errand_retains gentle.1 answers
        refine ⟨retains.entries, fun handle shut => retains.shut handle ?_⟩
        change Shut _ (crew.follow task _ errand _).dismissed handle at shut
        rw [(crew.follow_stays ..).2] at shut
        exact shut
      · exact .refl crew

end Accords

/-! ## Crews of gentle programs -/

/-- The program that joins with a move. -/
def Move.program? : Move → Option (Program Unit)
  | .join program => some program
  | .advance .. => none

/-- The tasks with gentle programs have gentle routines and no teardown. -/
structure Peaceful (crew : Crew) (programs : List (Program Unit)) : Prop where
  length : crew.tasks.length = programs.length
  gentle : ∀ task program, programs[task]? = some program → program.Gentle →
    crew.tearing task = none ∧
      ∀ routine : Routine errands Unit, crew.tasks[task]? = some routine → routine.Gentle

theorem follow_tearing (crew : Crew) (task : Nat) (after : World) {errand : Errand}
    (outcome : Except Fault errand.Answer) {other : Nat}
    (calm : errand.isClear = false ∨ other ≠ task) (free : crew.tearing other = none) :
    (crew.follow task after errand outcome).tearing other = none := by
  cases errand with
  | acquire | close => exact free
  | connect => cases outcome <;> exact free
  | clear registry =>
      have different : other ≠ task := calm.resolve_left nofun
      rw [← free]
      exact assign_of_ne _ _ different
  | note remark =>
      cases remark with
      | began | ended => exact free
      | closing | closed =>
          simp only [follow, observe, amendTorn]
          split <;> exact free
      | finished =>
          simp only [follow, observe, amendTorn]
          by_cases here : other = task
          · rw [here, assign_self]
          · rw [assign_of_ne _ _ here]
            exact free

namespace Peaceful

variable {programs : List (Program Unit)}

/-- The task that goes on stays gentle if it was, and the others go on as they are. -/
theorem resumes (peaceful : crew.Peaceful programs) {routine rest : Routine errands Unit}
    (present : crew.tasks[task]? = some routine) {later : Crew}
    (tasks : later.tasks = crew.tasks)
    (tearing : ∀ other, (other = task → routine.Gentle) → crew.tearing other = none →
      later.tearing other = none)
    (goes : routine.Gentle → rest.Gentle) : (later.resume task rest).Peaceful programs := by
  have bound : task < crew.tasks.length := (List.getElem?_eq_some_iff.mp present).1
  refine ⟨?_, fun other program joined gentle => ?_⟩
  · rw [← peaceful.length, resume, tasks]
    exact List.length_set
  obtain ⟨calm, gentle⟩ := peaceful.gentle other program joined gentle
  refine ⟨tearing other (fun here => gentle routine (here ▸ present)) calm, ?_⟩
  intro routine' present'
  rw [resume, tasks] at present'
  by_cases here : other = task
  · rw [here, List.getElem?_set_self bound] at present'
    rw [← Option.some.inj present']
    exact goes (gentle routine (here ▸ present))
  · rw [List.getElem?_set_ne (Ne.symm here)] at present'
    exact gentle routine' present'

theorem advance (peaceful : crew.Peaceful programs) {routine : Routine errands Unit}
    (present : crew.tasks[task]? = some routine) (answers : Answers) :
    (crew.advance task answers routine).Peaceful programs := by
  cases routine with
  | done | fail => exact peaceful
  | step update next =>
      have later : (resume task (next crew.world)
          { crew with world := update crew.world }).Peaceful programs :=
        peaceful.resumes present rfl (fun _ _ calm => calm) fun gentle => gentle _
      exact later
  | emit event next =>
      exact peaceful.resumes present rfl (fun _ _ calm => calm) fun gentle => gentle
  | call request next =>
      have later : (resume task (next (answers request))
          { crew with dismissed := crew.dismissed ++ (dismissed? request).toList }).Peaceful
            programs :=
        peaceful.resumes present rfl (fun _ _ calm => calm) fun gentle => gentle _
      exact later
  | aside errand next =>
      rw [Crew.advance]
      split
      · let run := errand.routine.run answers.outside crew.world ()
        have later : (resume task (next run.outcome)
            { crew.follow task run.world errand run.outcome with world := run.world }).Peaceful
              programs := by
          refine peaceful.resumes present (crew.follow_stays ..).1 ?_ fun gentle => gentle.2 _
          intro other gentle calm
          apply crew.follow_tearing task _ _ _ calm
          by_cases here : other = task
          · exact .inl (gentle here).1
          · exact .inr here
        exact later
      · exact peaceful

theorem join (peaceful : crew.Peaceful programs) (calm : ∀ task, crew.tasks.length ≤ task →
      crew.tearing task = none) (program : Program Unit) :
    (crew.move (.join program)).Peaceful (programs ++ [program]) := by
  refine ⟨by simp [Crew.move, peaceful.length], fun task program' joined gentle => ?_⟩
  by_cases earlier : task < programs.length
  · rw [List.getElem?_append_left earlier] at joined
    rw [Crew.move, List.getElem?_append_left (by rw [peaceful.length]; exact earlier)]
    exact peaceful.gentle task program' joined gentle
  · have later := Nat.le_of_not_lt earlier
    rw [List.getElem?_append_right later] at joined
    obtain rfl := List.mem_singleton.mp (List.mem_of_getElem? joined)
    refine ⟨calm task (by rw [peaceful.length]; exact later), fun routine present => ?_⟩
    rw [Crew.move, List.getElem?_append_right (by rw [peaceful.length]; exact later)] at present
    obtain rfl := List.mem_singleton.mp (List.mem_of_getElem? present)
    exact Program.routine_gentle gentle

theorem play (peaceful : crew.Peaceful programs) (accords : crew.Accords duties)
    (moves : List Move) :
    (crew.play moves).Peaceful (programs ++ moves.filterMap Move.program?) := by
  induction moves generalizing crew duties programs with
  | nil =>
      rw [List.filterMap_nil, List.append_nil]
      exact peaceful
  | cons move moves induction =>
      obtain ⟨_, moved⟩ := accords.move move
      cases move with
      | join program =>
          have calm (task : Nat) (absent : crew.tasks.length ≤ task) :
              crew.tearing task = none := by
            cases torn : crew.tearing task with
            | none => rfl
            | some period =>
                obtain ⟨_, _, _, busy, _⟩ := accords.down.torn task period torn
                rw [(accords.absent task (List.getElem?_eq_none absent)).tearing] at busy
                cases busy
          have rest := induction (peaceful.join calm program) moved
          rw [List.append_assoc] at rest
          exact rest
      | advance task answers =>
          refine induction ?_ moved
          cases present : crew.tasks[task]? with
          | none =>
              rw [Crew.move, present]
              exact peaceful
          | some routine =>
              rw [Crew.move, present]
              exact peaceful.advance present answers

end Peaceful

theorem start_peaceful (home : Nat → Nat) (factories : Nat → Factory) :
    (start home factories).Peaceful [] :=
  ⟨rfl, nofun⟩

end Crew

end Midrange
