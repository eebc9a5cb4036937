import Midrange.Proofs.Crew
import Midrange.Proofs.Reach.Session

/-!
# What errands do

An acquisition finds a handle or makes one, and makes one only if there is none.  A
connect changes the registry of its session as an acquisition does, and otherwise its
session alone.
-/

namespace Midrange

variable {caller : Caller} {σ : Type}

/-- The state with a handle in a registry. -/
def World.keep (world : World) (number : Nat) (dsn : String) (handle : Handle) : World :=
  world.changeRegistry number fun registry =>
    { registry with handles := registry.handles.insert dsn handle }

namespace Registry

variable {outside : Outside caller σ} {world : World} {state : σ} {number : Nat}
  {dsn : String} {options : Fields Value}

/-- What a factory says to options, by the answer of a guest to them. -/
def verdict (options : Fields Value) (answer : Except Fault Unit) :
    Factory → Except Fault Unit
  | .driver => (Pool.ofOptions options).map fun _ => ()
  | .guest => answer

/-- The outcome of an acquisition and the state after it: the handle that is there, the
fault of the factory, or a new handle of it. -/
inductive Acquired (world : World) (number : Nat) (dsn : String)
    (verdict : Except Fault Unit) : Except Fault Handle → World → Prop where
  | reused {handle : Handle} :
      (world.registries number).handles.get? dsn = some handle →
      Acquired world number dsn verdict (.ok handle) world
  | failed {fault : Fault} :
      (world.registries number).handles.get? dsn = none → verdict = .error fault →
      Acquired world number dsn verdict (.error fault) world
  | pool {pool : Pool} :
      (world.registries number).handles.get? dsn = none → verdict = .ok () →
      pool.closed = false →
      Acquired world number dsn verdict (.ok (.pool world.poolCount))
        ((world.addPool pool).2.keep number dsn (.pool world.poolCount))
  | guest :
      (world.registries number).handles.get? dsn = none → verdict = .ok () →
      Acquired world number dsn verdict (.ok (.guest world.guestCount false))
        (world.addGuest.2.keep number dsn (.guest world.guestCount false))

theorem Acquired.sessions {verdict : Except Fault Unit} {outcome : Except Fault Handle}
    {after : World} (acquired : Acquired world number dsn verdict outcome after) :
    after.sessions = world.sessions := by
  cases acquired <;> rfl

theorem closed_ofOptions {pool : Pool} (made : Pool.ofOptions options = .ok pool) :
    pool.closed = false := by
  simp only [Pool.ofOptions, bind, Except.bind] at made
  split at made
  · cases made
  · cases made
    rfl

theorem acquire_reaches :
    (acquire number dsn options : Routine caller Handle).Reaches outside
      (fun outcome final _ _ => Acquired world number dsn
        (verdict options (outside.answer (.makeGuest options) state).1
          (world.registries number).factory) outcome final) world state := by
  rw [acquire, Routine.bind_eq, Routine.reaches_bind, Routine.reaches_look, Routine.ends_ok]
  cases absent : (world.registries number).handles.get? dsn with
  | some handle => exact .reused absent
  | none =>
      rw [Routine.bind_eq, Routine.reaches_bind, make, Routine.bind_eq, Routine.reaches_bind,
        Routine.reaches_look, Routine.ends_ok]
      cases (world.registries number).factory with
      | driver =>
          cases made : Pool.ofOptions options with
          | error fault => exact .failed absent (by rw [verdict, made]; rfl)
          | ok pool =>
              exact .pool absent (by rw [verdict, made]; rfl) (closed_ofOptions made)
      | guest =>
          simp only [Routine.bind_eq, Routine.reaches_bind, Routine.perform,
            Routine.reaches_call, Routine.reaches_ofExcept]
          cases made : (outside.answer (.makeGuest options) state).1 with
          | error fault => exact .failed absent rfl
          | ok => exact .guest absent rfl

end Registry

namespace Session

variable {outside : Outside caller σ} {world : World} {state : σ} {number : Nat}

/-- The outcome of a connect and the state after it: a fault and no change, or an
acquisition and a change of the session. -/
inductive Connected (world : World) (number : Nat) (source : String) :
    Except Fault Unit → World → Prop where
  | failed (fault : Fault) : Connected world number source (.error fault) world
  | connected {verdict : Except Fault Unit} {handle : Handle} {middle : World} :
      (world.sessions number).isInTransaction = false →
      Registry.Acquired world (world.sessions number).registry source verdict (.ok handle)
        middle →
      Connected world number source (.ok ())
        (middle.changeSession number (connectedTo handle source))

theorem connect_connects (dsn : Option String) (target : Target) :
    (connect number dsn target : Routine caller Unit).Reaches outside
      (fun outcome final _ _ =>
        Connected world number (chooseSource dsn target) outcome final) world state := by
  rw [connect, Routine.bind_eq, Routine.reaches_bind, reaches_get, Routine.ends_ok]
  by_cases running : (world.sessions number).isInTransaction = true
  · rw [if_pos running]
    exact .failed _
  · rw [if_neg running, Routine.bind_eq, Routine.reaches_bind, Routine.reaches_attempt]
    refine Registry.acquire_reaches.mono ?_
    intro outcome middle state trace acquired
    rw [Routine.ends_ok]
    cases outcome with
    | ok handle => exact .connected (Bool.eq_false_iff.mpr running) acquired
    | error fault =>
        -- A factory that fails leaves everything as it is.
        have same : middle = world := by cases acquired; rfl
        subst same
        by_cases ordinary : fault.isOrdinary = true
        · simp only [ordinary, if_true]
          exact .failed _
        · simp only [ordinary]
          exact .failed _

theorem close_closes :
    (close number : Routine caller Unit).Reaches outside
      (fun outcome final _ _ => outcome = .ok () ∧
        (final = world ∨ final = world.changeSession number disconnected)) world state := by
  apply close_reaches
  · exact fun _ _ => ⟨rfl, .inl rfl⟩
  · exact fun _ _ => ⟨rfl, .inr rfl⟩

end Session

end Midrange
