import Mathlib.Logic.Function.Basic
import Midrange.Proofs.Program

/-!
# Crews

A crew is any number of programs at work at the same time, over the same sessions and
registries.  A move lets a new program join, or advances one of them by a single step:
one reading or change of the shared state, one call with any answer, or one errand.

Beside the state a crew keeps what has been observed: who is in a transaction of which
session, where each session was last connected to, and a record of each period of a
registry, from one clearing to the next.
-/

namespace Midrange

/-- A caller that asks for nothing. -/
@[reducible] def noCaller : Caller :=
  ⟨Empty, fun _ => Empty⟩

/-- Answers to every call. -/
abbrev Answers := (request : Call) → Except Fault request.Answer

def Answers.outside (answers : Answers) : Outside noCaller Unit where
  answer := fun request _ => (answers request, ())
  reply := fun request _ => request.elim

/-- A time of a registry, by the number of its clearings before. -/
structure Period where
  registry : Nat
  number : Nat
  deriving DecidableEq, Repr

/-- What is observed of a teardown: the handles that there were, those that it closed with
the answers to that, and how it ended. -/
structure Teardown where
  held : List (String × Handle) := []
  closings : List Handle := []
  answers : List (Except Fault Unit) := []
  finished : Option (Except Fault Unit) := none

/-- What is on record about a period: what the factory made and what was acquired, under
the names of the data sources, and the teardown that cleared the registry at the end. -/
structure Record where
  made : List (String × Handle) := []
  given : List (String × Handle) := []
  teardown : Teardown := {}

/-- The record with what was made and what was acquired for a data source. -/
def Record.enroll (dsn : String) (made given : Option Handle) (record : Record) : Record :=
  { record with
    made := record.made ++ made.toList.map (dsn, ·)
    given := record.given ++ given.toList.map (dsn, ·) }

/-- The handle that was made between two states, by the next number of its kind. -/
def World.newHandle? (before after : World) : Option Handle :=
  if before.poolCount < after.poolCount then some (.pool before.poolCount)
  else if before.guestCount < after.guestCount then some (.guest before.guestCount false)
  else none

/-- Programs at work, and what has been observed of them: the tasks in a transaction of
each session, the data source of its last successful connect, the clearings of each
registry, the records of its periods, the period that each task tears down, and the
guests that were asked to close. -/
structure Crew where
  world : World
  tasks : List (Routine errands Unit) := []
  begun : Nat → List Nat := fun _ => []
  sources : Nat → Option String := fun _ => none
  clock : Nat → Nat := fun _ => 0
  records : Period → Record := fun _ => {}
  tearing : Nat → Option Period := fun _ => none
  dismissed : List (Nat × Bool) := []

namespace Crew

/-- A move: a program joins, or a task takes its next step, with the answers to the
calls in it. -/
inductive Move where
  | join (program : Program Unit)
  | advance (task : Nat) (answers : Answers)

/-- The crew before any program has joined.  The sessions are new, each over a registry
of its own choice; the registries are empty. -/
def start (home : Nat → Nat) (factories : Nat → Factory) : Crew where
  world :=
    { sessions := fun number => { registry := home number }
      registries := fun number => { factory := factories number } }

def now (crew : Crew) (registry : Nat) : Period :=
  ⟨registry, crew.clock registry⟩

def amend (crew : Crew) (period : Period) (change : Record → Record) : Crew :=
  { crew with records := Function.update crew.records period (change (crew.records period)) }

/-- Puts on record what was made for a data source and what was acquired. -/
def enroll (registry : Nat) (dsn : String) (after : World) (given : Option Handle)
    (crew : Crew) : Crew :=
  crew.amend (crew.now registry) (Record.enroll dsn (crew.world.newHandle? after) given)

/-- Puts on record what a task says of its teardown. -/
def amendTorn (task : Nat) (change : Teardown → Teardown) (crew : Crew) : Crew :=
  match crew.tearing task with
  | none => crew
  | some period =>
      crew.amend period fun record => { record with teardown := change record.teardown }

def observe (task : Nat) (crew : Crew) : Remark → Crew
  | .began session =>
      { crew with begun := assign crew.begun session (task :: crew.begun session) }
  | .ended session =>
      { crew with begun := assign crew.begun session ((crew.begun session).erase task) }
  | .closing handle =>
      crew.amendTorn task fun teardown =>
        { teardown with closings := teardown.closings ++ [handle] }
  | .closed answer =>
      crew.amendTorn task fun teardown =>
        { teardown with answers := teardown.answers ++ [answer] }
  | .finished outcome =>
      { crew.amendTorn task fun teardown => { teardown with finished := some outcome } with
        tearing := assign crew.tearing task none }

/-- Observes an errand by its outcome and the state after it. -/
def follow (task : Nat) (crew : Crew) (after : World) :
    (errand : Errand) → Except Fault errand.Answer → Crew
  | .acquire registry dsn _, outcome =>
      crew.enroll registry dsn after outcome.toOption
  | .connect session dsn target, outcome =>
      let registry := (crew.world.sessions session).registry
      let source := Session.chooseSource dsn target
      match outcome with
      | .error _ => crew.enroll registry source after none
      | .ok () =>
          { crew.enroll registry source after (after.sessions session).connection with
            sources := assign crew.sources session (some source) }
  | .close _, _ => crew
  | .clear registry, outcome =>
      { crew.amend (crew.now registry) fun record =>
          { record with teardown := { held := outcome.toOption.getD [] } } with
        clock := assign crew.clock registry (crew.clock registry + 1)
        tearing := assign crew.tearing task (some (crew.now registry)) }
  | .note remark, _ => crew.observe task remark

/-- Says whether a task may do an errand.  A session in a transaction of one task is not
connected, closed or taken into a transaction by another. -/
def admits (task : Nat) (crew : Crew) : Errand → Bool
  | .connect session .. | .close session | .note (.began session) =>
      (crew.begun session).all (· = task)
  | _ => true

def resume (task : Nat) (rest : Routine errands Unit) (crew : Crew) : Crew :=
  { crew with tasks := crew.tasks.set task rest }

/-- The guest that a call asks to close. -/
def dismissed? : Call → Option (Nat × Bool)
  | .guest number dedicated .close => some (number, dedicated)
  | _ => none

/-- The crew after the next step of one of its tasks. -/
def advance (task : Nat) (answers : Answers) (crew : Crew) : Routine errands Unit → Crew
  | .done _ | .fail _ => crew
  | .step update next =>
      { crew.resume task (next crew.world) with world := update crew.world }
  | .emit _ next => crew.resume task next
  | .call request next =>
      { crew.resume task (next (answers request)) with
        dismissed := crew.dismissed ++ (dismissed? request).toList }
  | .aside errand next =>
      if crew.admits task errand then
        let run := errand.routine.run answers.outside crew.world ()
        { (crew.follow task run.world errand run.outcome).resume task
            (next run.outcome) with world := run.world }
      else
        crew

def move (crew : Crew) : Move → Crew
  | .join program => { crew with tasks := crew.tasks ++ [program.routine] }
  | .advance task answers =>
      match crew.tasks[task]? with
      | none => crew
      | some routine => crew.advance task answers routine

def play (crew : Crew) (moves : List Move) : Crew :=
  moves.foldl move crew

/-- Holds of a task that has come to its end. -/
def isOver : Routine errands Unit → Bool
  | .done _ | .fail _ => true
  | _ => false

end Crew

end Midrange
