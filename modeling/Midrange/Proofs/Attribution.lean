import Midrange.Proofs.Restoration

/-!
# Where the faults of a session come from

A command that fails ends in an error of this library, whose cause is the first fault of
the driver if there was any.  A fault that cancels passes as it is, and so does what is
wrong with the bindings or the statement before anything is said to the driver.

A connect says nothing to the driver and fails only with errors of this library.  A
transaction lets faults pass: what reaches its caller is a misuse, the fault of the work,
or the very fault of a call of the driver around the work.
-/

namespace Midrange

variable {caller : Caller} {σ α β : Type} {outside : Outside caller σ}
  {world : World} {state : σ} {allowed : Fault → Prop}

/-! ## Verbs -/

namespace Connection

variable (connection : Connection) (timeout : Option Int) (sql : String)
  (parameters : List Value)

end Connection

namespace Pool

end Pool

namespace Handle

/-- Holds for handles that another factory made. -/
def isGuest : Handle → Bool
  | .guest .. => true
  | _ => false

end Handle

/-! ## Commands -/

namespace Session

variable {number : Nat}

/-- What reaches the caller of a command that fails: an error of this library, whose cause
is the first fault of the driver if there was any, a fault that cancelled the command, or
one that is allowed and came before anything was said to the driver. -/
inductive Attributed (allowed : Fault → Prop) (said : List Exchange) : Fault → Prop where
  | reported {error : AdapterError Fault} :
      (∀ raised, (faults said).head? = some raised → error.cause = some raised) →
      Attributed allowed said (.adapter error)
  | cancelled {fault : Fault} :
      fault ∈ faults said → fault.isOrdinary = false → Attributed allowed said fault
  | unfit {fault : Fault} : allowed fault → said = [] → Attributed allowed said fault

theorem Attributed.mono {more : Fault → Prop} {said : List Exchange} {fault : Fault}
    (attributed : Attributed allowed said fault) (implies : ∀ fault, allowed fault → more fault) :
    Attributed more said fault := by
  cases attributed with
  | reported tells => exact .reported tells
  | cancelled member cancels => exact .cancelled member cancels
  | unfit own silent => exact .unfit (implies _ own) silent

/-- The current connection of a session, if there is one, is not a guest. -/
def Served (number : Nat) (world : World) : Prop :=
  ∀ handle, (world.sessions number).connection = some handle → handle.isGuest = false

/-- A routine whose faults are attributed. -/
structure Attributes (allows : World → Prop) (allowed : Fault → Prop)
    (routine : Routine caller α) : Prop where
  reaches : ∀ {σ : Type} {outside : Outside caller σ} {world : World} {state : σ},
    allows world → routine.Reaches outside (fun outcome _ _ trace =>
      ∀ fault, outcome = .error fault → Attributed allowed (exchanges trace) fault) world
      state

namespace Attributes

variable {allows : World → Prop}

theorem mono {more : Fault → Prop} {routine : Routine caller α}
    (attributes : Attributes allows allowed routine)
    (implies : ∀ fault, allowed fault → more fault) : Attributes allows more routine := by
  constructor
  intro σ outside world state allows
  apply (attributes.reaches allows).mono
  intro _ _ _ _ attributed fault failed
  exact (attributed fault failed).mono implies

theorem given {outcome : Except Fault β} {second : β → Routine caller α}
    (unfit : ∀ fault, outcome = .error fault → allowed fault)
    (attributes : ∀ value, Attributes allows allowed (second value)) :
    Attributes allows allowed ((Routine.ofExcept outcome).bind second) := by
  cases outcome with
  | ok value => exact attributes value
  | error fault =>
      constructor
      rintro σ outside world state _ _ ⟨⟩
      exact .unfit (unfit fault rfl) rfl

theorem report (event : Event) {routine : Routine caller α}
    (attributes : Attributes allows allowed routine) :
    Attributes allows allowed ((Routine.report event).bind fun _ => routine) :=
  ⟨fun allowed => attributes.reaches allowed⟩

theorem map {first : Routine caller β} (attributes : Attributes allows allowed first)
    (result : β → α) :
    Attributes allows allowed (first.bind fun value => .done (result value)) := by
  constructor
  intro σ outside world state allows
  rw [Routine.reaches_bind]
  apply (attributes.reaches allows).mono
  intro outcome _ _ trace attributed
  cases outcome with
  | error fault =>
      rintro _ ⟨⟩
      exact attributed fault rfl
  | ok value =>
      rintro fault ⟨⟩

end Attributes

end Session

/-! ## Connecting -/

namespace Session

variable {number : Nat}

end Session

end Midrange
