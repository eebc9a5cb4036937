import Midrange.Proofs.Traffic

/-!
# Charge of connections

The connections that a task has in use, each with the exchanges of its use that control
a transaction.  A connection comes into use when it is taken from the idle ones or
opened, and goes back to them only after whole rounds.  `Routine.Minds` holds of a
routine that minds these rules, whatever the calls are answered and whatever the other
tasks do in between.
-/

namespace Midrange

/-- What a task has in charge: the connections that it uses, and what its calls are
marked with. -/
structure Charge where
  uses : Connection → Option (List Exchange) := fun _ => none
  demand : Option Demand := none
  made : Made := none

namespace Charge

/-- Holds while the task is at a verb of a pool. -/
def isPlain (charge : Charge) : Bool :=
  charge.demand.any Demand.isPlain

/-- Takes a connection into use. -/
def take (connection : Connection) (charge : Charge) : Charge :=
  { charge with uses := Function.update charge.uses connection (some []) }

/-- Gives a connection out of use. -/
def drop (connection : Connection) (charge : Charge) : Charge :=
  { charge with uses := Function.update charge.uses connection none }

/-- What is in use after an exchange. -/
def usesAfter (uses : Connection → Option (List Exchange)) (said : Exchange) :
    Connection → Option (List Exchange) :=
  match said.call with
  | .close connection => Function.update uses connection none
  | call =>
      match call.controlled? with
      | none => uses
      | some connection =>
          Function.update uses connection ((uses connection).map (· ++ [said]))

def hear (said : Exchange) (charge : Charge) : Charge :=
  { charge with
    uses := usesAfter charge.uses said
    made := said.call.madeAfter charge.made said.answer }

def write (entry : Note) (charge : Charge) : Charge :=
  { charge with demand := Fleet.demandOf entry }

section Hear

variable {charge : Charge} {said : Exchange} {connection : Connection}

theorem hear_of_control (controls : said.call.controlled? = some connection) :
    (charge.hear said).uses =
      Function.update charge.uses connection
        ((charge.uses connection).map (· ++ [said])) := by
  obtain ⟨call, answer⟩ := said
  cases call <;> cases controls <;> rfl

theorem hear_of_quiet (quiet : said.isControl = false)
    (notClose : said.call.isClose = false) :
    charge.hear said =
      { charge with made := said.call.madeAfter charge.made said.answer } := by
  obtain ⟨call, answer⟩ := said
  cases call with
  | autocommit | commit | rollback => cases quiet
  | close => cases notClose
  | _ => rfl

theorem uses_of_hear {later : List Exchange}
    (other : said.call.controlled? ≠ some connection)
    (used : (charge.hear said).uses connection = some later) :
    charge.uses connection = some later := by
  obtain ⟨call, answer⟩ := said
  cases call with
  | autocommit there | commit there | rollback there | close there =>
      have different : connection ≠ there := by
        rintro rfl
        simp [DriverCall.controlled?, hear, usesAfter] at other used
      simpa [hear, usesAfter, DriverCall.controlled?, different] using used
  | _ => exact used

end Hear

/-- What a task may take the shared state to be like. -/
structure Fits (world : World) (charge : Charge) : Prop where
  idle : ∀ number, ∀ connection ∈ Fleet.idle number world,
    charge.uses connection = none
  fresh : charge.uses ⟨world.openedCount + 1⟩ = none

/-- The changes of the shared state that a task may make. -/
inductive Changes : World → Charge → World → Charge → Prop where
  | other {world after : World} {charge : Charge} :
      after.pools = world.pools → after.openedCount = world.openedCount →
      Changes world charge after charge
  | take {world : World} {charge : Charge} {number : Nat} {connection : Connection}
      {rest : List Connection} :
      (world.pools number).idle = connection :: rest →
      Changes world charge
        (world.changePool number fun pool => { pool with idle := rest })
        (charge.take connection)
  | put {world : World} {charge : Charge} {connection : Connection}
      {said : List Exchange} (number : Nat) :
      charge.uses connection = some said → Rounds connection said →
      Changes world charge
        (world.changePool number fun pool =>
          { pool with idle := connection :: pool.idle })
        (charge.drop connection)
  | opened {world : World} {charge : Charge} :
      Changes world charge world.addConnection.2 (charge.take world.addConnection.1)
  | shut {world : World} {charge : Charge} (number : Nat) :
      Changes world charge (Pool.shut number world).2 charge

/-- A change of the shared state leaves the marks of the calls as they are. -/
theorem Changes.marks {world after : World} {charge charge' : Charge}
    (changes : charge.Changes world after charge') :
    charge' = { charge with uses := charge'.uses } := by
  cases changes <;> rfl

/-- The calls of the driver that a task may make.  It controls transactions only on
connections that it uses, and a verb of a pool is only at a connection on which no
transaction began; so is the beginning of a transaction. -/
structure Permits (charge : Charge) (request : DriverCall) : Prop where
  controls : ∀ connection, request.controlled? = some connection →
    charge.uses connection ≠ none
  begins : ∀ connection, request = .autocommit connection false →
    charge.uses connection = some []
  plain : charge.isPlain = true → request.isOpening = true ∨
    ∃ connection, request.connection? charge.made = some connection ∧
      charge.uses connection = some []

end Charge

namespace Routine

variable {α β : Type}

/-- Does only what a task may do with what it has in charge, whatever the other tasks
do in between.  The condition relates the outcome and the charge at the end. -/
def Minds (post : Except Fault α → Charge → Prop) :
    Charge → Routine journal α → Prop
  | charge, .done value => post (.ok value) charge
  | charge, .fail fault => post (.error fault) charge
  | charge, .step update next =>
      ∀ world, charge.Fits world →
        ∃ after, charge.Changes world (update world) after ∧
          Minds post after (next world)
  | charge, .emit _ next => Minds post charge next
  | charge, .call (.driver request) next =>
      charge.Permits request ∧
        ∀ answer, Minds post (charge.hear ⟨request, answer⟩) (next answer)
  | charge, .call _ next => ∀ answer, Minds post charge (next answer)
  | charge, .aside entry next => Minds post (charge.write entry) (next ())

variable {post : Except Fault α → Charge → Prop} {charge : Charge}

@[simp] theorem minds_done {value : α} :
    (done value : Routine journal α).Minds post charge ↔ post (.ok value) charge := by
  simp [Minds]

@[simp] theorem minds_fail {fault : Fault} :
    (fail fault : Routine journal α).Minds post charge ↔
      post (.error fault) charge := by
  simp [Minds]

/-- A second routine goes on with the charge of the first one. -/
theorem minds_bind {first : Routine journal β} {second : β → Routine journal α} :
    (first.bind second).Minds post charge ↔
      first.Minds (fun outcome after =>
        Ends (fun value => (second value).Minds post after)
          (fun fault => post (.error fault) after) outcome) charge := by
  induction first generalizing charge with
  | done | fail => simp [Routine.bind]
  | step update next induction => simp only [Routine.bind, Minds, induction]
  | emit event next induction => simp only [Routine.bind, Minds, induction]
  | call request next induction =>
      cases request <;> simp only [Routine.bind, Minds, induction]
  | aside entry next induction => simp only [Routine.bind, Minds, induction]

theorem minds_attempt {routine : Routine journal β}
    {post : Except Fault (Except Fault β) → Charge → Prop} :
    routine.attempt.Minds post charge ↔
      routine.Minds (fun outcome after => post (.ok outcome) after) charge := by
  induction routine generalizing charge with
  | done | fail => simp [attempt]
  | step update next induction => simp only [attempt, Minds, induction]
  | emit event next induction => simp only [attempt, Minds, induction]
  | call request next induction =>
      cases request <;> simp only [attempt, Minds, induction]
  | aside entry next induction => simp only [attempt, Minds, induction]

@[simp] theorem minds_ofExcept {outcome : Except Fault α} :
    (ofExcept outcome : Routine journal α).Minds post charge ↔
      post outcome charge := by
  cases outcome <;> simp [ofExcept]

theorem minds_drive {request : DriverCall}
    {post : Except Fault request.Answer → Charge → Prop} :
    (drive request : Routine journal request.Answer).Minds post charge ↔
      charge.Permits request ∧
        ∀ answer, post answer (charge.hear ⟨request, answer⟩) := by
  simp only [drive, perform, Minds, minds_ofExcept]

theorem Minds.mono {routine : Routine journal α}
    {weaker : Except Fault α → Charge → Prop} (minds : routine.Minds post charge)
    (implies : ∀ outcome after, post outcome after → weaker outcome after) :
    routine.Minds weaker charge := by
  induction routine generalizing charge with
  | done value => exact implies _ _ minds
  | fail fault => exact implies _ _ minds
  | step update next induction =>
      intro world fits
      obtain ⟨after, changes, rest⟩ := minds world fits
      exact ⟨after, changes, induction world rest⟩
  | emit event next induction => exact induction minds
  | call request next induction =>
      cases request with
      | driver =>
          obtain ⟨permits, rest⟩ := minds
          exact ⟨permits, fun answer => induction answer (rest answer)⟩
      | makeGuest | guest => exact fun answer => induction answer (minds answer)
  | aside entry next induction => exact induction () minds

theorem minds_look {read : World → α}
    (holds : ∀ world, charge.Fits world → post (.ok (read world)) charge) :
    (look read : Routine journal α).Minds post charge :=
  fun world fits => ⟨charge, .other rfl rfl, holds world fits⟩

end Routine

end Midrange
