import Mathlib.Logic.Function.Basic
import Midrange.Proofs.Bracket
import Midrange.Rehearsal

/-!
# Fleets

A fleet is any number of clients of one pool at work at the same time.  A move
lets a new client join, or advances one of them by a single step, which is one
reading or change of the shared state or one call of the driver with any answer,
but a close is not cancelled; a run is any list of moves.

Beside the state a fleet keeps what has been observed: the trail of every
connection, its whereabouts, and who runs which scope.  A connection is held by
the task that took it out of the idle ones or opened it.

Any task may ask verbs of any scope.  Such a verb is in flight from the reading that
finds the scope active to its last call, and nothing holds the end of the scope back
for it: `isAttended` says that the body of the scope is still running.
-/

namespace Midrange

/-- What is observed of one task: the demand of the verb that it is at, the
statement that it made last, and how many connections it has opened that have no
number yet. -/
structure Pen where
  demand : Option Demand := none
  made : Made := none
  arriving : Nat := 0

/-- Where a connection is: not opened yet, idle, held by a task, among those that
a task closes with the pool, or given to the driver for closing. -/
inductive Whereabouts where
  | unopened
  | idle
  | held (task : Nat)
  | leaving (task : Nat)
  | closed
  deriving DecidableEq, Repr

/-- Clients of one pool at work, and what has been observed of them. -/
structure Fleet where
  world : World
  tasks : List (Routine journal Unit) := []
  pens : Nat → Pen := fun _ => {}
  trail : Connection → List Signal := fun _ => []
  place : Connection → Whereabouts := fun _ => .unopened
  runner : Nat → Option Nat := fun _ => none

/-- Answers to every call; a close is not cancelled. -/
structure Replies where
  answer : (request : Call) → Except Fault request.Answer
  closes : ∀ connection fault, answer (.driver (.close connection)) = .error fault →
    fault.isOrdinary = true

/-- A move: a client of the pool joins, or a task takes its next step; if that is a
call, the replies answer it. -/
inductive Move (pool : Nat) where
  | join (client : Client Unit) (within : client.Within pool)
  | advance (task : Nat) (replies : Replies)

/-- Replies of a driver that refuses nothing. -/
def Replies.smooth : Replies where
  answer := fun request => (Rehearsal.answer request {}).1
  closes := by rintro _ _ ⟨⟩

/-- The scope whose verb a task is at. -/
def Pen.scope? (pen : Pen) : Option Nat :=
  match pen.demand with
  | some ⟨.scope scope, _, _, _⟩ => some scope
  | _ => none

/-- What an exchange of a task looks like in a trail. -/
def Pen.signal (pen : Pen) (task : Nat) (said : Exchange) : Signal :=
  match pen.demand with
  | some ⟨.scope scope, verb, sql, bindings⟩ =>
      .statement task ⟨.scope scope, verb, sql, bindings⟩ said
  | demand => .exchange demand said

namespace Pen

variable {pen : Pen} {demand : Demand} {scope : Nat}

theorem scope?_of_demand (asked : pen.demand = some demand)
    (own : demand.handle = .scope scope) : pen.scope? = some scope := by
  obtain ⟨_, verb, sql, bindings⟩ := demand
  cases own
  simp [scope?, asked]

theorem signal_of_demand (asked : pen.demand = some demand)
    (own : demand.handle = .scope scope) (task : Nat) (said : Exchange) :
    pen.signal task said = .statement task demand said := by
  obtain ⟨_, verb, sql, bindings⟩ := demand
  cases own
  simp [signal, asked]

theorem signal_of_unscoped (unscoped : pen.scope? = none) (task : Nat) (said : Exchange) :
    pen.signal task said = .exchange pen.demand said := by
  rw [scope?] at unscoped
  rw [signal]
  split at unscoped
  · cases unscoped
  · rfl

theorem isClose_signal (pen : Pen) (task : Nat) (said : Exchange) :
    (pen.signal task said).isClose = said.call.isClose := by
  rw [signal]
  split <;> rfl

end Pen

namespace Fleet

/-- The fleet before any client has joined; the pool is open and has no
connections. -/
def start (pool : Nat) (settings : Pool) : Fleet :=
  { world :=
      { pools := assign (fun _ => {}) pool
          { settings with idle := [], closed := false } } }

def idle (pool : Nat) (world : World) : List Connection :=
  (world.pools pool).idle

/-- Where a connection is after a task has changed the state. -/
def locate (pool task : Nat) (before after : World)
    (place : Connection → Whereabouts) (connection : Connection) : Whereabouts :=
  if connection ∈ idle pool after then .idle
  else if connection ∈ idle pool before then
    if (after.pools pool).closed then .leaving task else .held task
  else if before.openedCount < connection.number ∧
      connection.number ≤ after.openedCount then .held task
  else place connection

/-- Where the connections are after a call. -/
def locateAfter (place : Connection → Whereabouts) :
    DriverCall → Connection → Whereabouts
  | .close connection => Function.update place connection .closed
  | _ => place

/-- The trails after a call: an exchange is part of the trail of its
connection. -/
def trailAfter (task : Nat) (pen : Pen) (request : DriverCall)
    (answer : Except Fault request.Answer) (trail : Connection → List Signal) :
    Connection → List Signal :=
  match request.connection? pen.made with
  | none => trail
  | some connection => Function.update trail connection
      (trail connection ++ [pen.signal task ⟨request, answer⟩])

/-- How many connections arrive after a call. -/
def arrivingAfter (arriving : Nat) :
    (request : DriverCall) → Except Fault request.Answer → Nat
  | .connect _, .ok () => arriving + 1
  | _, _ => arriving

/-- Records a call of the driver by a task. -/
def hear (task : Nat) (request : DriverCall) (answer : Except Fault request.Answer)
    (fleet : Fleet) : Fleet :=
  let pen := fleet.pens task
  { fleet with
    pens := assign fleet.pens task
      { pen with
        made := request.madeAfter pen.made answer
        arriving := arrivingAfter pen.arriving request answer }
    place := locateAfter fleet.place request
    trail := trailAfter task pen request answer fleet.trail }

/-- The demand that the calls after an entry are marked with. -/
def demandOf : Note → Option Demand
  | .verb demand => some demand
  | _ => none

/-- The mark that an entry makes in the trail of the connection of a scope. -/
def markOf : Note → Option (Nat × Signal)
  | .entered (.scope number) => some (number, .entered number)
  | .left (.scope number) returned => some (number, .left number returned)
  | _ => none

def trailNoted (world : World) (entry : Note) (trail : Connection → List Signal) :
    Connection → List Signal :=
  match markOf entry with
  | none => trail
  | some (scope, signal) =>
      let connection := (world.scopes scope).connection
      Function.update trail connection (trail connection ++ [signal])

/-- Who runs which scope after an entry: a scope runs from its being entered to its
being left. -/
def runnerNoted (task : Nat) (runner : Nat → Option Nat) : Note → Nat → Option Nat
  | .entered (.scope number) => assign runner number (some task)
  | .left (.scope number) _ => assign runner number none
  | _ => runner

/-- Records an entry of the journal of a task. -/
def write (task : Nat) (entry : Note) (fleet : Fleet) : Fleet :=
  { fleet with
    pens := assign fleet.pens task
      { fleet.pens task with demand := demandOf entry }
    trail := trailNoted fleet.world entry fleet.trail
    runner := runnerNoted task fleet.runner entry }

def resume (task : Nat) (rest : Routine journal Unit) (fleet : Fleet) : Fleet :=
  { fleet with tasks := fleet.tasks.set task rest }

/-- The fleet after the next step of one of its tasks. -/
def advance (pool task : Nat) (replies : Replies) (fleet : Fleet) :
    Routine journal Unit → Fleet
  | .done _ | .fail _ => fleet
  | .step update next =>
      let pen := fleet.pens task
      let opened := (update fleet.world).openedCount - fleet.world.openedCount
      { fleet.resume task (next fleet.world) with
        world := update fleet.world
        pens := assign fleet.pens task { pen with arriving := pen.arriving - opened }
        place := locate pool task fleet.world (update fleet.world) fleet.place }
  | .emit _ next => fleet.resume task next
  | .call (.driver request) next =>
      let answer := replies.answer (.driver request)
      (fleet.hear task request answer).resume task (next answer)
  | .call request next => fleet.resume task (next (replies.answer request))
  | .aside entry next => (fleet.write task entry).resume task (next ())

def move (pool : Nat) (fleet : Fleet) : Move pool → Fleet
  | .join client _ => { fleet with tasks := fleet.tasks ++ [client.routine] }
  | .advance task replies =>
      match fleet.tasks[task]? with
      | none => fleet
      | some routine => fleet.advance pool task replies routine

def play (pool : Nat) (fleet : Fleet) (moves : List (Move pool)) : Fleet :=
  moves.foldl (move pool) fleet

/-- A task takes its next steps, and the driver refuses nothing. -/
def steps (pool task count : Nat) : List (Move pool) :=
  List.replicate count (.advance task .smooth)

/-- A task asks a verb of a scope, and the scope ends before the verb has made its first
call. -/
def latecomer : List (Move 0) :=
  [.join (.transaction (.pool 0) fun _ => .done ()) ⟨rfl, fun _ => trivial⟩,
    .join (.perform ⟨.scope 0, .execute, "late", .null⟩) rfl] ++
    steps 0 0 9 ++ steps 0 1 2 ++ steps 0 0 5

/-- The scope whose verb a task is in the middle of: it has found the scope active and
has a call to make. -/
def inFlight? (fleet : Fleet) (task : Nat) : Option Nat :=
  match fleet.tasks[task]? with
  | some (.call (.driver _) _) => (fleet.pens task).scope?
  | _ => none

/-- Holds if the body of a scope is running while a verb of the scope is in flight. -/
def isAttended (fleet : Fleet) : Bool :=
  (List.range fleet.tasks.length).all fun task =>
    match fleet.inFlight? task with
    | some scope => (fleet.runner scope).isSome
    | none => true

/-- Holds if no verb of a scope is in flight when the body of the scope ends, nor
afterwards.  Before the body begins, nobody has been given the scope. -/
def isAttendedThroughout (pool : Nat) (fleet : Fleet) : List (Move pool) → Bool
  | [] => fleet.isAttended
  | move :: moves =>
      fleet.isAttended && (fleet.move pool move).isAttendedThroughout pool moves

/-- Holds of a task that has come to its end. -/
def isOver : Routine journal Unit → Bool
  | .done _ | .fail _ => true
  | _ => false

/-- Holds if every task has come to its end. -/
def isOverAll (fleet : Fleet) : Bool :=
  fleet.tasks.all isOver

end Fleet

end Midrange
