import Midrange.Proofs.Tending

/-!
# Duties

What one task of a crew has begun and not yet ended: its transactions, its teardown, and
the closing of a handle.  `Duty.Changes`, `Duty.Hears` and `Duty.Asks` say all that a
task may do to the shared state, which calls it may make and what it may ask of its
surroundings, and what its duties are afterwards.  `Routine.Behaves` holds of a routine
that does nothing else, whatever the other tasks do in between.
-/

namespace Midrange

/-- The state of a session agrees with its connection and the earlier one. -/
def Session.Coherent (session : Session) : Prop :=
  match session.state with
  | .disconnected => session.connection = none ∧ session.prior = none
  | .connected => session.connection.isSome = true ∧ session.prior = none
  | .inTransaction => session.connection.isSome = true ∧ session.prior.isSome = true

/-- What a task knows of a session: how many of its transactions it is in, and, while it
is in one, the session. -/
structure Grip where
  depth : Nat := 0
  session : Session := {}

/-- A teardown under way: what it has still to close, whether it waits for the answer to
a closing, and the cancellation that stops it. -/
structure Tearing where
  remaining : List (String × Handle)
  owed : Bool := false
  stopped : Option Fault := none

def Tearing.outcome (tearing : Tearing) : Except Fault Unit :=
  match tearing.stopped with
  | none => .ok ()
  | some fault => .error fault

/-- The fault that stops a teardown, if an answer does. -/
def cancellation? : Except Fault Unit → Option Fault
  | .ok () => none
  | .error fault => if fault.isOrdinary then none else some fault

/-- A handle that a factory made. -/
def Handle.isMade : Handle → Bool
  | .pool _ => true
  | .guest _ dedicated => !dedicated
  | .scope _ => false

/-- What a task has begun. -/
structure Duty where
  grips : Nat → Grip := fun _ => {}
  tearing : Option Tearing := none
  closing : Option Handle := none

namespace Duty

/-- Nothing is left to do. -/
structure Idle (duty : Duty) : Prop where
  depth : ∀ number, (duty.grips number).depth = 0
  tearing : duty.tearing = none
  closing : duty.closing = none

def grasp (number depth : Nat) (session : Session) (duty : Duty) : Duty :=
  { duty with grips := assign duty.grips number ⟨depth, session⟩ }

section

variable (duty : Duty) {number other depth : Nat} {session : Session}

@[simp] theorem grasp_self :
    (duty.grasp number depth session).grips number = ⟨depth, session⟩ :=
  assign_self _ _ _

theorem grasp_of_ne (different : other ≠ number) :
    (duty.grasp number depth session).grips other = duty.grips other :=
  assign_of_ne _ _ different

@[simp] theorem grasp_tearing : (duty.grasp number depth session).tearing = duty.tearing := rfl

@[simp] theorem grasp_closing : (duty.grasp number depth session).closing = duty.closing := rfl

end

/-- Sees a session change. -/
def see (number : Nat) (session : Session) (duty : Duty) : Duty :=
  duty.grasp number (duty.grips number).depth session

/-- What a task may take the shared state to be like. -/
def Fits (world : World) (duty : Duty) : Prop :=
  ∀ number, 0 < (duty.grips number).depth →
    world.sessions number = (duty.grips number).session

/-- The changes of the shared state that a task may make. -/
inductive Changes : World → Duty → World → Duty → Prop where
  | tend {world after : World} {duty : Duty} :
      world.Tends after → Changes world duty after duty
  | session {world : World} {duty : Duty} {number : Nat} {change : Session → Session} :
      0 < (duty.grips number).depth →
      (change (world.sessions number)).Coherent →
      (change (world.sessions number)).dsn = (world.sessions number).dsn →
      Changes world duty (world.changeSession number change)
        (duty.see number (change (world.sessions number)))
  | shut {world : World} {duty : Duty} {pool : Nat} :
      duty.closing = some (.pool pool) →
      Changes world duty (Pool.shut pool world).2 { duty with closing := none }

/-- The calls that a task may make. -/
inductive Hears : Duty → Call → Duty → Prop where
  | other {duty : Duty} {request : Call} :
      Crew.dismissed? request = none → Hears duty request duty
  | dismiss {duty : Duty} {number : Nat} {dedicated : Bool} :
      duty.closing = some (.guest number dedicated) →
      Hears duty (.guest number dedicated .close) { duty with closing := none }

/-- What a task may note, and what holds of its duties afterwards. -/
def Notes (duty : Duty) (after : Duty → Prop) : Remark → Prop
  | .began number =>
      ∀ session : Session, session.Coherent →
        ((duty.grips number).depth = 0 → session.isInTransaction = false) →
        (0 < (duty.grips number).depth → session = (duty.grips number).session) →
        after (duty.grasp number ((duty.grips number).depth + 1) session)
  | .ended number =>
      0 < (duty.grips number).depth ∧
        ((duty.grips number).depth = 1 →
          (duty.grips number).session.isInTransaction = false) ∧
        after (duty.grasp number ((duty.grips number).depth - 1)
          (duty.grips number).session)
  | .closing handle =>
      ∃ dsn remaining, duty.tearing = some { remaining := (dsn, handle) :: remaining } ∧
        duty.closing = none ∧
        after { duty with
          tearing := some { remaining, owed := true }
          closing := some handle }
  | .closed answer =>
      ∃ remaining, duty.tearing = some { remaining, owed := true } ∧
        duty.closing = none ∧
        after { duty with tearing := some { remaining, stopped := cancellation? answer } }
  | .finished outcome =>
      ∃ tearing, duty.tearing = some tearing ∧ tearing.owed = false ∧
        duty.closing = none ∧ outcome = tearing.outcome ∧
        (tearing.stopped = none → tearing.remaining = []) ∧
        after { duty with tearing := none }

/-- What a task may ask of its surroundings, and what holds of the reply and of its
duties afterwards. -/
def Asks (duty : Duty) : (errand : Errand) →
    (Except Fault errand.Answer → Duty → Prop) → Prop
  | .acquire .., after => ∀ outcome, after outcome duty
  | .connect number .., after | .close number, after =>
      ∀ outcome, ∀ session : Session, session.Coherent → after outcome (duty.see number session)
  | .clear _, after =>
      duty.tearing = none ∧ duty.closing = none ∧
        ∀ entries : List (String × Handle), (∀ entry ∈ entries, entry.2.isMade = true) →
          after (.ok entries) { duty with tearing := some { remaining := entries } }
  | .note remark, after => duty.Notes (after (.ok ())) remark

theorem Notes.mono {duty : Duty} {after weaker : Duty → Prop} {remark : Remark}
    (notes : duty.Notes after remark) (implies : ∀ duty, after duty → weaker duty) :
    duty.Notes weaker remark := by
  cases remark with
  | began number =>
      intro session coherent idle known
      exact implies _ (notes session coherent idle known)
  | ended number => exact ⟨notes.1, notes.2.1, implies _ notes.2.2⟩
  | closing handle =>
      obtain ⟨dsn, remaining, torn, free, rest⟩ := notes
      exact ⟨dsn, remaining, torn, free, implies _ rest⟩
  | closed answer =>
      obtain ⟨remaining, torn, free, rest⟩ := notes
      exact ⟨remaining, torn, free, implies _ rest⟩
  | finished outcome =>
      obtain ⟨tearing, torn, paid, free, same, empty, rest⟩ := notes
      exact ⟨tearing, torn, paid, free, same, empty, implies _ rest⟩

theorem Asks.mono {duty : Duty} {errand : Errand}
    {after weaker : Except Fault errand.Answer → Duty → Prop}
    (asks : duty.Asks errand after)
    (implies : ∀ reply duty, after reply duty → weaker reply duty) :
    duty.Asks errand weaker := by
  cases errand with
  | acquire registry dsn options => exact fun outcome => implies _ _ (asks outcome)
  | connect number | close number =>
      intro outcome session coherent
      exact implies _ _ (asks outcome session coherent)
  | clear registry =>
      obtain ⟨calm, free, rest⟩ := asks
      exact ⟨calm, free, fun entries made => implies _ _ (rest entries made)⟩
  | note remark => exact Notes.mono asks fun duty => implies _ duty

end Duty

/-! ## Routines that behave -/

namespace Routine

variable {α β : Type}

/-- Does only what a task with its duties may do, whatever the other tasks do in
between.  The condition relates the outcome and the duties at the end. -/
def Behaves (post : Except Fault α → Duty → Prop) : Duty → Routine errands α → Prop
  | duty, .done value => post (.ok value) duty
  | duty, .fail fault => post (.error fault) duty
  | duty, .step update next =>
      ∀ world, duty.Fits world →
        ∃ after, duty.Changes world (update world) after ∧ Behaves post after (next world)
  | duty, .emit _ next => Behaves post duty next
  | duty, .call request next =>
      ∃ after, duty.Hears request after ∧ ∀ answer, Behaves post after (next answer)
  | duty, .aside errand next =>
      duty.Asks errand fun reply after => Behaves post after (next reply)

variable {post : Except Fault α → Duty → Prop} {duty : Duty}

@[simp] theorem behaves_done {value : α} :
    (done value : Routine errands α).Behaves post duty ↔ post (.ok value) duty := by
  simp [Behaves]

@[simp] theorem behaves_fail {fault : Fault} :
    (fail fault : Routine errands α).Behaves post duty ↔ post (.error fault) duty := by
  simp [Behaves]

@[simp] theorem behaves_ofExcept {outcome : Except Fault α} :
    (ofExcept outcome : Routine errands α).Behaves post duty ↔ post outcome duty := by
  cases outcome <;> simp [ofExcept]

/-- A second routine behaves where the first one ended. -/
theorem behaves_bind {first : Routine errands β} {second : β → Routine errands α} :
    (first.bind second).Behaves post duty ↔
      first.Behaves (fun outcome after =>
        Ends (fun value => (second value).Behaves post after)
          (fun fault => post (.error fault) after) outcome) duty := by
  induction first generalizing duty with
  | done | fail => simp [Routine.bind]
  | step update next induction => simp only [Routine.bind, Behaves, induction]
  | emit event next induction => simp only [Routine.bind, Behaves, induction]
  | call request next induction => simp only [Routine.bind, Behaves, induction]
  | aside errand next induction => simp only [Routine.bind, Behaves, induction]

theorem behaves_attempt {routine : Routine errands β}
    {post : Except Fault (Except Fault β) → Duty → Prop} :
    routine.attempt.Behaves post duty ↔
      routine.Behaves (fun outcome after => post (.ok outcome) after) duty := by
  induction routine generalizing duty with
  | done | fail => simp [attempt]
  | step update next induction => simp only [attempt, Behaves, induction]
  | emit event next induction => simp only [attempt, Behaves, induction]
  | call request next induction => simp only [attempt, Behaves, induction]
  | aside errand next induction => simp only [attempt, Behaves, induction]

theorem Behaves.mono {routine : Routine errands α} {weaker : Except Fault α → Duty → Prop}
    (behaves : routine.Behaves post duty)
    (implies : ∀ outcome after, post outcome after → weaker outcome after) :
    routine.Behaves weaker duty := by
  induction routine generalizing duty with
  | done value => exact implies _ _ behaves
  | fail fault => exact implies _ _ behaves
  | step update next induction =>
      intro world fits
      obtain ⟨after, changes, rest⟩ := behaves world fits
      exact ⟨after, changes, induction world rest⟩
  | emit event next induction => exact induction behaves
  | call request next induction =>
      obtain ⟨after, hears, rest⟩ := behaves
      exact ⟨after, hears, fun answer => induction answer (rest answer)⟩
  | aside errand next induction =>
      exact Duty.Asks.mono behaves fun reply after rest => induction reply rest

theorem behaves_look {read : World → α}
    (holds : ∀ world, duty.Fits world → post (.ok (read world)) duty) :
    (look read : Routine errands α).Behaves post duty :=
  fun world fits => ⟨duty, .tend (.refl world), holds world fits⟩

@[simp] theorem behaves_order {errand : Errand}
    {post : Except Fault errand.Answer → Duty → Prop} :
    errand.order.Behaves post duty ↔ duty.Asks errand post := by
  simp [Errand.order, ask, Behaves, Routine.bind]

theorem behaves_make {remark : Remark} {post : Except Fault Unit → Duty → Prop} :
    remark.make.Behaves post duty ↔ duty.Notes (post (.ok ())) remark :=
  behaves_order

/-- A routine that tends leaves the duties of its task as they are. -/
theorem Tends.behaves {routine : Routine errands α} (tends : routine.Tends)
    (holds : ∀ outcome, post outcome duty) : routine.Behaves post duty := by
  induction routine with
  | done | fail => exact holds _
  | step update next induction =>
      intro world _
      obtain ⟨stays, rest⟩ := tends world
      exact ⟨duty, .tend stays, induction world rest⟩
  | emit event next induction => exact induction tends
  | call request next induction =>
      exact ⟨duty, .other tends.1, fun answer => induction answer (tends.2 answer)⟩
  | aside => exact tends.elim

theorem Behaves.after_tending {first : Routine errands β} {second : β → Routine errands α}
    (tends : first.Tends) (fails : ∀ fault, post (.error fault) duty)
    (rest : ∀ value, (second value).Behaves post duty) :
    (first.bind second).Behaves post duty := by
  refine behaves_bind.mpr (tends.behaves fun outcome => ?_)
  cases outcome with
  | error fault => exact fails fault
  | ok value => exact rest value

end Routine

end Midrange
