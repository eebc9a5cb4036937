import Mathlib.Tactic.Simps.Basic
import Midrange.Proofs.Fleet

/-!
# Custody

What one task of a fleet has in hand: the connections that it holds, each with
the stage that it has come to there, those that it closes with the pool, the scopes
that it runs, and what it has said in a verb of a scope.  `Hand.Changes`, `Hand.Hears`
and `Hand.Notes` say all that a task may do to the shared state, to the driver and in
its journal, and what it has in hand afterwards.  `Routine.Keeps` holds of a routine that does
nothing else, whatever the other tasks do in between.

While a scope is running, its connection is at rest in the hand of the task that runs
it: the verbs of the scope are said by any task, and what they have said joins the block
of the transaction when the scope is left.
-/

namespace Midrange

/-- What a task has come to on a connection that it holds: the signals of its block so
far, a scope that is to be entered, or the scope that is running. -/
inductive Stage where
  | said (signals : List Signal)
  | entering (scope : Nat)
  | running (scope : Nat)

/-- The scope of a stage, if it has one that was not left yet. -/
def Stage.scope? : Stage → Option Nat
  | .said _ => none
  | .entering scope | .running scope => some scope

/-- What a task has said in the verb of a scope that it asked last. -/
structure Speech where
  demand : Demand
  scope : Nat
  connection : Connection
  past : List Exchange := []

namespace Speech

/-- Says one thing more. -/
def say (said : Exchange) (speech : Speech) : Speech :=
  { speech with past := speech.past ++ [said] }

/-- The verb has been said to its end. -/
def IsWhole (speech : Speech) : Prop :=
  speech.demand.handle = .scope speech.scope ∧
    ∃ returned, VerbCalls speech.connection speech.demand.sql speech.demand.bindings
      speech.demand.verb returned speech.past

/-- The verb can be said to its end. -/
def Begins (speech : Speech) : Prop :=
  ∃ rest, { speech with past := speech.past ++ rest : Speech }.IsWhole

theorem Begins.own {speech : Speech} (begins : speech.Begins) :
    speech.demand.handle = .scope speech.scope := by
  obtain ⟨_, own, _⟩ := begins
  exact own

/-- A verb of a scope of which nothing has been said can be said. -/
theorem begins_of_own {demand : Demand} {scope : Nat} {connection : Connection}
    (own : demand.handle = .scope scope) :
    (Speech.mk demand scope connection []).Begins := by
  have calls : VerbCalls connection demand.sql demand.bindings demand.verb false
      [⟨.prepare connection demand.sql none, .error (.outside .runtime "")⟩] :=
    .stopped (.unprepared none _)
  exact ⟨_, own, false, calls⟩

end Speech

/-- What a task has in hand. -/
structure Hand where
  held : Connection → Option Stage := fun _ => none
  leaving : List Connection := []
  scopes : Nat → Option Connection := fun _ => none
  speech : Option Speech := none
  pen : Pen := {}

namespace Hand

/-- The task is not in the middle of a verb of a scope. -/
def Quiet (hand : Hand) : Prop :=
  ∀ speech, hand.speech = some speech → speech.IsWhole

/-- The task is not at a verb of a scope at all. -/
structure Calm (hand : Hand) : Prop where
  silent : hand.speech = none
  unscoped : hand.pen.scope? = none

theorem quiet_of_silent {hand : Hand} (silent : hand.speech = none) : hand.Quiet := by
  intro speech said
  cases silent.symm.trans said

/-- Nothing is in hand. -/
structure Empty (hand : Hand) : Prop where
  arriving : hand.pen.arriving = 0
  held : ∀ connection, hand.held connection = none
  leaving : hand.leaving = []
  scopes : ∀ scope, hand.scopes scope = none
  quiet : hand.Quiet

/-- Takes a connection in hand, or goes on with it. -/
@[simps -fullyApplied held leaving scopes speech pen]
def hold (connection : Connection) (stage : Stage) (hand : Hand) : Hand :=
  { hand with held := Function.update hand.held connection (some stage) }

/-- Gives a connection away. -/
@[simps -fullyApplied held leaving scopes speech pen]
def release (connection : Connection) (hand : Hand) : Hand :=
  { hand with held := Function.update hand.held connection none }

/-- Takes up or gives up a scope. -/
@[simps -fullyApplied held leaving scopes speech pen]
def mind (scope : Nat) (connection : Option Connection) (hand : Hand) : Hand :=
  { hand with scopes := Function.update hand.scopes scope connection }

/-- Goes on with another number of connections that arrive. -/
@[simps -fullyApplied held leaving scopes speech pen]
def expect (arriving : Nat) (hand : Hand) : Hand :=
  { hand with pen := { hand.pen with arriving } }

/-- Goes on after an entry in the journal. -/
@[simps -fullyApplied held leaving scopes speech pen]
def note (demand : Option Demand) (hand : Hand) : Hand :=
  { hand with speech := none, pen := { hand.pen with demand } }

/-- Begins or goes on with a verb of a scope. -/
@[simps -fullyApplied held leaving scopes speech pen]
def speak (speech : Speech) (made : Made) (hand : Hand) : Hand :=
  { hand with speech := some speech, pen := { hand.pen with made } }

/-- Adds to the block of a connection what is said on it. -/
@[simps -fullyApplied held leaving scopes speech pen]
def say (connection : Connection) (block : List Signal) (made : Made)
    (hand : Hand) : Hand :=
  { hand with
    held := Function.update hand.held connection (some (.said block))
    pen := { hand.pen with made } }

/-- A scope does not run on the connection. -/
def Unscoped (hand : Hand) (connection : Connection) : Prop :=
  ∀ scope, hand.scopes scope ≠ some connection

theorem say_say {hand : Hand} {connection : Connection} {block later : List Signal}
    {made last : Made} :
    (hand.say connection block made).say connection later last =
      hand.say connection later last := by
  simp [say]

theorem say_self {hand : Hand} {connection : Connection} {block : List Signal}
    (held : hand.held connection = some (.said block)) :
    hand.say connection block hand.pen.made = hand := by
  simp [say, ← held]

theorem speak_self {hand : Hand} {speech : Speech} (said : hand.speech = some speech) :
    hand.speak speech hand.pen.made = hand := by
  simp [speak, ← said]

theorem Calm.hold {hand : Hand} (calm : hand.Calm) (connection : Connection)
    (stage : Stage) : (hand.hold connection stage).Calm :=
  ⟨calm.silent, calm.unscoped⟩

theorem Calm.say {hand : Hand} (calm : hand.Calm) (connection : Connection)
    (block : List Signal) (made : Made) : (hand.say connection block made).Calm :=
  ⟨calm.silent, calm.unscoped⟩

/-- What a task may take the shared state to be like. -/
structure Fits (pool : Nat) (world : World) (hand : Hand) : Prop where
  idle : ∀ connection ∈ Fleet.idle pool world, hand.held connection = none
  fresh : hand.held ⟨world.openedCount + 1⟩ = none
  unborn : hand.scopes world.scopeCount = none
  given : ∀ scope, (world.scopes scope).active = true → scope < world.scopeCount

/-- The changes of the shared state that a task may make. -/
inductive Changes (pool : Nat) : World → Hand → World → Hand → Prop where
  | look {world : World} {hand : Hand} : Changes pool world hand world hand
  | heed {world : World} {hand : Hand} {demand : Demand} {scope : Nat} :
      hand.pen.demand = some demand → demand.handle = .scope scope →
      scope < world.scopeCount →
      Changes pool world hand world
        (hand.speak ⟨demand, scope, (world.scopes scope).connection, []⟩ hand.pen.made)
  | take {world : World} {hand : Hand} {connection : Connection}
      {rest : List Connection} :
      (world.pools pool).closed = false →
      (world.pools pool).idle = connection :: rest →
      hand.held connection = none →
      Changes pool world hand
        (world.changePool pool fun pool => { pool with idle := rest })
        (hand.hold connection (.said []))
  | put {world : World} {hand : Hand} {connection : Connection}
      {block : List Signal} :
      (world.pools pool).closed = false →
      ((world.pools pool).idle.length : Int) < (world.pools pool).maxIdle →
      hand.held connection = some (.said block) → Block pool connection true block →
      hand.Unscoped connection →
      Changes pool world hand
        (world.changePool pool fun pool =>
          { pool with idle := connection :: pool.idle })
        (hand.release connection)
  | opened {world : World} {hand : Hand} {arriving : Nat} :
      hand.pen.arriving = arriving + 1 →
      hand.held world.addConnection.1 = none →
      Changes pool world hand world.addConnection.2
        ((hand.hold world.addConnection.1 (.said [])).expect arriving)
  | enter {world : World} {hand : Hand} {connection : Connection} (timeout : Option Int) :
      hand.held connection = some (.said [connection.outset (.ok ())]) →
      hand.Unscoped connection →
      Changes pool world hand
        (world.addScope { connection, timeout, active := true }).2
        ((hand.hold connection (.entering world.scopeCount)).mind world.scopeCount
          (some connection))
  | leave {world : World} {hand : Hand} {scope : Nat} {connection : Connection}
      {block : List Signal} :
      hand.scopes scope = some connection →
      hand.held connection = some (.said block) →
      Changes pool world hand
        (world.changeScope scope fun scope => { scope with active := false })
        (hand.mind scope none)
  | shut {world : World} {hand : Hand} :
      hand.leaving = [] →
      Changes pool world hand (Pool.shut pool world).2
        { hand with leaving := (Pool.shut pool world).1 }

/-- The calls of the driver that a task may make.  A call of a verb of a scope goes on
with the verb, and any other call on a connection with its block. -/
inductive Hears (pool : Nat) : Hand → (request : DriverCall) →
    Except Fault request.Answer → Hand → Prop where
  | locate {hand : Hand} (answer : Except Fault Bool) :
      Hears pool hand .locate answer hand
  | connect {hand : Hand} (target : String) (answer : Except Fault Unit) :
      Hears pool hand (.connect target) answer
        (hand.expect (Fleet.arrivingAfter hand.pen.arriving (.connect target) answer))
  | state {hand : Hand} {request : DriverCall} {speech : Speech}
      (answer : Except Fault request.Answer) :
      hand.speech = some speech →
      request.connection? hand.pen.made = some speech.connection →
      request.isClose = false →
      (speech.say ⟨request, answer⟩).Begins →
      Hears pool hand request answer
        (hand.speak (speech.say ⟨request, answer⟩)
          (request.madeAfter hand.pen.made answer))
  | speak {hand : Hand} {request : DriverCall} {connection : Connection}
      {block : List Signal} (answer : Except Fault request.Answer) :
      hand.Calm →
      request.connection? hand.pen.made = some connection →
      request.isClose = false → hand.held connection = some (.said block) →
      hand.Unscoped connection →
      Started pool connection
        (block ++ [.exchange hand.pen.demand ⟨request, answer⟩]) →
      Hears pool hand request answer
        (hand.say connection
          (block ++ [.exchange hand.pen.demand ⟨request, answer⟩])
          (request.madeAfter hand.pen.made answer))
  | discard {hand : Hand} {connection : Connection} {block : List Signal}
      {returned : Bool} (answer : Except Fault Unit) :
      hand.Calm →
      hand.held connection = some (.said block) → Block pool connection returned block →
      hand.Unscoped connection →
      Hears pool hand (.close connection) answer (hand.release connection)
  | dismiss {hand : Hand} {connection : Connection} {rest : List Connection}
      (answer : Except Fault Unit) :
      hand.Calm →
      hand.leaving = connection :: rest →
      Hears pool hand (.close connection) answer { hand with leaving := rest }

/-- The entries of the journal of a task, and what it has in hand afterwards.  The
statements of a scope that is left join the block of its connection. -/
inductive Notes : Hand → Note → Hand → Prop where
  | verb {hand : Hand} (demand : Demand) :
      Notes hand (.verb demand) (hand.note (some demand))
  | transaction {hand : Hand} (handle : Handle) :
      Notes hand (.transaction handle) (hand.note none)
  | close {hand : Hand} (handle : Handle) :
      Notes hand (.close handle) (hand.note none)
  | entered {hand : Hand} {scope : Nat} {connection : Connection} :
      hand.scopes scope = some connection →
      hand.held connection = some (.entering scope) →
      Notes hand (.entered (.scope scope))
        ((hand.hold connection (.running scope)).note none)
  | left {hand : Hand} {scope : Nat} {connection : Connection}
      {statements : List Signal} (returned : Bool) :
      hand.scopes scope = some connection →
      hand.held connection = some (.running scope) →
      Statements scope connection statements →
      Notes hand (.left (.scope scope) returned)
        ((hand.hold connection (.said
          (connection.entry scope ++ statements ++ [.left scope returned]))).note none)

/-- The entries that a task may make in its journal, and what holds of it afterwards,
whatever the verbs of a scope that it leaves have said. -/
def Writes (hand : Hand) (after : Hand → Prop) : Note → Prop
  | .verb demand => after (hand.note (some demand))
  | .transaction _ | .close _ => after (hand.note none)
  | .entered (.scope scope) =>
      ∃ connection, hand.scopes scope = some connection ∧
        hand.held connection = some (.entering scope) ∧
        after ((hand.hold connection (.running scope)).note none)
  | .left (.scope scope) returned =>
      ∃ connection, hand.scopes scope = some connection ∧
        hand.held connection = some (.running scope) ∧
        ∀ statements, Statements scope connection statements →
          after ((hand.hold connection (.said
            (connection.entry scope ++ statements ++ [.left scope returned]))).note none)
  | .entered _ | .left .. => False

theorem Writes.mono {hand : Hand} {entry : Note} {after weaker : Hand → Prop}
    (writes : hand.Writes after entry) (implies : ∀ hand, after hand → weaker hand) :
    hand.Writes weaker entry := by
  match entry with
  | .verb _ | .transaction _ | .close _ => exact implies _ writes
  | .entered (.scope _) =>
      obtain ⟨connection, own, held, rest⟩ := writes
      exact ⟨connection, own, held, implies _ rest⟩
  | .left (.scope _) _ =>
      obtain ⟨connection, own, held, rest⟩ := writes
      exact ⟨connection, own, held, fun statements said => implies _ (rest statements said)⟩
  | .entered (.pool _) | .left (.pool _) _ => exact writes
  | .entered (.guest ..) | .left (.guest ..) _ => exact writes

end Hand

namespace Routine

variable {α β : Type} {pool : Nat}

/-- Does only what a task may do with what it has in hand, whatever the other
tasks do in between.  The condition relates the outcome and what is in hand at
the end. -/
def Keeps (pool : Nat) (post : Except Fault α → Hand → Prop) :
    Hand → Routine journal α → Prop
  | hand, .done value => post (.ok value) hand
  | hand, .fail fault => post (.error fault) hand
  | hand, .step update next =>
      hand.speech = none ∧ ∀ world, hand.Fits pool world →
        ∃ after, hand.Changes pool world (update world) after ∧
          Keeps pool post after (next world)
  | hand, .emit _ next => hand.speech = none ∧ Keeps pool post hand next
  | hand, .call (.driver request) next =>
      ∀ answer : Except Fault request.Answer,
        (request.isClose = true →
          ∀ fault, answer = .error fault → fault.isOrdinary = true) →
        ∃ after, hand.Hears pool request answer after ∧
          Keeps pool post after (next answer)
  | _, .call _ _ => False
  | hand, .aside entry next =>
      hand.Quiet ∧ hand.Writes (fun after => Keeps pool post after (next ())) entry

variable {post weaker : Except Fault α → Hand → Prop} {hand : Hand}

@[simp] theorem keeps_done {value : α} :
    (done value : Routine journal α).Keeps pool post hand ↔
      post (.ok value) hand := by
  simp [Keeps]

@[simp] theorem keeps_fail {fault : Fault} :
    (fail fault : Routine journal α).Keeps pool post hand ↔
      post (.error fault) hand := by
  simp [Keeps]

/-- A second routine keeps custody where the first one ended. -/
theorem keeps_bind {first : Routine journal β} {second : β → Routine journal α} :
    (first.bind second).Keeps pool post hand ↔
      first.Keeps pool (fun outcome after =>
        Ends (fun value => (second value).Keeps pool post after)
          (fun fault => post (.error fault) after) outcome) hand := by
  induction first generalizing hand with
  | done | fail => simp [Routine.bind]
  | step update next induction => simp only [Routine.bind, Keeps, induction]
  | emit event next induction => simp only [Routine.bind, Keeps, induction]
  | call request next induction =>
      cases request with
      | driver => simp only [Routine.bind, Keeps, induction]
      | makeGuest | guest => simp [Routine.bind, Keeps]
  | aside entry next induction => simp only [Routine.bind, Keeps, induction]

theorem keeps_attempt {routine : Routine journal β}
    {post : Except Fault (Except Fault β) → Hand → Prop} :
    routine.attempt.Keeps pool post hand ↔
      routine.Keeps pool (fun outcome after => post (.ok outcome) after) hand := by
  induction routine generalizing hand with
  | done | fail => simp [attempt]
  | step update next induction => simp only [attempt, Keeps, induction]
  | emit event next induction => simp only [attempt, Keeps, induction]
  | call request next induction =>
      cases request with
      | driver => simp only [attempt, Keeps, induction]
      | makeGuest | guest => simp [attempt, Keeps]
  | aside entry next induction => simp only [attempt, Keeps, induction]

@[simp] theorem keeps_ofExcept {outcome : Except Fault α} :
    (ofExcept outcome : Routine journal α).Keeps pool post hand ↔
      post outcome hand := by
  cases outcome <;> simp [ofExcept]

theorem Keeps.mono {routine : Routine journal α}
    (keeps : routine.Keeps pool post hand)
    (implies : ∀ outcome after, post outcome after → weaker outcome after) :
    routine.Keeps pool weaker hand := by
  induction routine generalizing hand with
  | done value => exact implies _ _ keeps
  | fail fault => exact implies _ _ keeps
  | step update next induction =>
      refine ⟨keeps.1, fun world fits => ?_⟩
      obtain ⟨after, changes, rest⟩ := keeps.2 world fits
      exact ⟨after, changes, induction world rest⟩
  | emit event next induction => exact ⟨keeps.1, induction keeps.2⟩
  | call request next induction =>
      cases request with
      | driver =>
          intro answer ordinary
          obtain ⟨after, hears, rest⟩ := keeps answer ordinary
          exact ⟨after, hears, induction answer rest⟩
      | makeGuest | guest => exact keeps.elim
  | aside entry next induction =>
      exact ⟨keeps.1, keeps.2.mono fun after rest => induction () rest⟩

theorem keeps_look {read : World → α} (silent : hand.speech = none)
    (holds : ∀ world, hand.Fits pool world → post (.ok (read world)) hand) :
    (look read : Routine journal α).Keeps pool post hand :=
  ⟨silent, fun world fits => ⟨hand, .look, holds world fits⟩⟩

theorem keeps_atomic {act : World → α × World} (silent : hand.speech = none)
    (holds : ∀ world, hand.Fits pool world →
      ∃ after, hand.Changes pool world (act world).2 after ∧
        post (.ok (act world).1) after) :
    (atomic act : Routine journal α).Keeps pool post hand :=
  ⟨silent, holds⟩

variable {routine : Routine journal α} {connection : Connection}
  {spoken : Made → List Exchange → Except Fault α → Prop} {made : Made}
  {past : List Exchange}

/-- A routine that speaks on one connection keeps custody if the connection is
in hand, and its exchanges join the block of the connection.  All that it may have
said at its end must be the beginning of a block. -/
theorem Speaks.keeps (speaks : routine.Speaks connection spoken made past)
    {block : List Signal} (calm : hand.Calm)
    (held : hand.held connection =
      some (.said (block ++ past.map (.exchange hand.pen.demand))))
    (same : hand.pen.made = made) (unscoped : hand.Unscoped connection)
    (starts : ∀ made past outcome, spoken made past outcome →
      Started pool connection (block ++ past.map (.exchange hand.pen.demand)))
    (holds : ∀ made past outcome, spoken made past outcome →
      post outcome (hand.say connection
        (block ++ past.map (.exchange hand.pen.demand)) made)) :
    routine.Keeps pool post hand := by
  induction routine generalizing hand made past with
  | done | fail =>
      have rest := holds _ _ _ speaks
      rw [← same, Hand.say_self held] at rest
      exact rest
  | step | emit | aside => exact speaks.elim
  | call request next induction =>
      cases request with
      | makeGuest | guest => exact speaks.elim
      | driver asked =>
          obtain ⟨owned, notClose, rest⟩ := speaks
          intro answer _
          have started : Started pool connection
              (block ++ past.map (.exchange hand.pen.demand) ++
                [.exchange hand.pen.demand ⟨asked, answer⟩]) := by
            obtain ⟨_, later, _, ended⟩ := (rest answer).ends
            have begun := starts _ _ _ ended
            rw [List.map_append, List.map_append, ← List.append_assoc,
              ← List.append_assoc] at begun
            exact begun.of_append
          refine ⟨_, .speak answer calm (same ▸ owned) notClose held unscoped started, ?_⟩
          refine induction answer (rest answer) (calm.say _ _ _) ?_ ?_ unscoped starts ?_
          · simp
          · simp [same]
          · intro made past outcome spoken
            rw [Hand.say_say]
            exact holds made past outcome spoken

/-- A routine that says a verb of a scope keeps custody, whoever holds the connection of
the scope.  All that it may have said at its end must be a whole verb. -/
theorem Speaks.keeps_speech {speech : Speech}
    (speaks : routine.Speaks speech.connection spoken made speech.past)
    (said : hand.speech = some speech) (same : hand.pen.made = made)
    (ends : ∀ made past outcome, spoken made past outcome →
      { speech with past : Speech }.IsWhole)
    (holds : ∀ made past outcome, spoken made past outcome →
      post outcome (hand.speak { speech with past } made)) :
    routine.Keeps pool post hand := by
  induction routine generalizing hand made speech with
  | done | fail =>
      have rest := holds _ _ _ speaks
      rw [← same] at rest
      exact Hand.speak_self said ▸ rest
  | step | emit | aside => exact speaks.elim
  | call request next induction =>
      cases request with
      | makeGuest | guest => exact speaks.elim
      | driver asked =>
          obtain ⟨owned, notClose, rest⟩ := speaks
          intro answer _
          have begins : (speech.say ⟨asked, answer⟩).Begins := by
            obtain ⟨_, later, _, ended⟩ := (rest answer).ends
            exact ⟨later, ends _ _ _ ended⟩
          refine ⟨_, .state answer said (same ▸ owned) notClose begins, ?_⟩
          exact induction answer (rest answer) rfl (by simp [same]) ends holds

end Routine

end Midrange
