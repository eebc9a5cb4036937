import Midrange.Proofs.Fleet

/-!
# Traffic

Any number of clients at work on any number of pools, and everything that they say
to the driver, on one record.  A call may be answered in any way, also by a
cancellation, and a scope may be used by any client.

A connection opens in automatic commit, and the driver changes the mode exactly when
it does not raise.  `Clean` says that a connection is in automatic commit and that
each transaction that began on it was committed.
-/

namespace Midrange

/-! ## Transactions of one connection -/

namespace DriverCall

/-- The connection whose transaction a call controls. -/
def controlled? : DriverCall → Option Connection
  | .autocommit connection _ | .commit connection | .rollback connection =>
      some connection
  | _ => none

/-- Holds for the call that changes the mode of a connection. -/
def isModeChange : DriverCall → Bool
  | .autocommit .. => true
  | _ => false

/-- Holds for the calls that open a connection. -/
def isOpening : DriverCall → Bool
  | .locate | .connect _ => true
  | _ => false

theorem connection?_of_controlled {request : DriverCall} {connection : Connection}
    (controls : request.controlled? = some connection) (made : Made) :
    request.connection? made = some connection := by
  cases request <;> first | exact controls | cases controls

end DriverCall

namespace Exchange

/-- Holds for the exchanges that control a transaction. -/
def isControl (said : Exchange) : Bool :=
  said.call.controlled?.isSome

/-- Says whether a connection is in automatic commit after an exchange. -/
def modeAfter (automatic : Bool) : Exchange → Bool
  | ⟨.autocommit _ mode, .ok ()⟩ => mode
  | _ => automatic

theorem isControl_of_isModeChange {said : Exchange}
    (changes : said.call.isModeChange = true) : said.isControl = true := by
  obtain ⟨call, answer⟩ := said
  cases call <;> first | rfl | cases changes

theorem modeAfter_of_not_isControl {said : Exchange} (automatic : Bool)
    (other : said.isControl = false) : said.modeAfter automatic = automatic := by
  obtain ⟨call, answer⟩ := said
  cases call <;> first | rfl | cases other

end Exchange

/-- Says whether a connection is in automatic commit after all that was said on it. -/
def isAutomatic (said : List Exchange) : Bool :=
  said.foldl Exchange.modeAfter true

/-- A connection is fit for any use. -/
structure Clean (connection : Connection) (said : List Exchange) : Prop where
  automatic : isAutomatic said = true
  /-- The last change of the mode, if there was one, was a successful change back to
  automatic commit. -/
  restored : ∀ last, (said.filter (·.call.isModeChange)).getLast? = some last →
    last = ⟨.autocommit connection true, .ok ()⟩
  /-- A successful commit follows every change to manual commit, and no other control
  of a transaction comes between. -/
  committed : ∀ earlier answer later,
    said = earlier ++ ⟨.autocommit connection false, answer⟩ :: later →
    ∃ between rest, later = between ++ ⟨.commit connection, .ok ()⟩ :: rest ∧
      ∀ other ∈ between, other.isControl = false

/-- A transaction that is committed, in the calls that control it. -/
abbrev Connection.round (connection : Connection) : List Exchange :=
  [⟨.autocommit connection false, .ok ()⟩, ⟨.commit connection, .ok ()⟩,
    ⟨.autocommit connection true, .ok ()⟩]

/-- Committed transactions, one after another. -/
inductive Rounds (connection : Connection) : List Exchange → Prop where
  | none : Rounds connection []
  | next {rest : List Exchange} :
      Rounds connection rest → Rounds connection (connection.round ++ rest)

namespace Rounds

variable {connection : Connection} {earlier later : List Exchange}

theorem append (first : Rounds connection earlier) (second : Rounds connection later) :
    Rounds connection (earlier ++ later) := by
  induction first with
  | none => exact second
  | next _ induction => exact induction.next

theorem isAutomatic (rounds : Rounds connection earlier) :
    isAutomatic earlier = true := by
  induction rounds with
  | none => rfl
  | next _ induction => exact induction

theorem restored (rounds : Rounds connection earlier) :
    ∀ last, (earlier.filter (·.call.isModeChange)).getLast? = some last →
      last = ⟨.autocommit connection true, .ok ()⟩ := by
  induction rounds with
  | none => simp
  | @next rest _ induction =>
      intro last
      rw [List.filter_append, List.getLast?_append]
      cases found : (rest.filter (·.call.isModeChange)).getLast? with
      | none => simp [DriverCall.isModeChange, eq_comm]
      | some other => exact fun same => induction last (found ▸ same)

theorem committed {answer : Except Fault Unit} {said : List Exchange}
    (rounds : Rounds connection said)
    (split : said = earlier ++ ⟨.autocommit connection false, answer⟩ :: later) :
    ∃ rest, later = ⟨.commit connection, .ok ()⟩ ::
      ⟨.autocommit connection true, .ok ()⟩ :: rest := by
  induction rounds generalizing earlier with
  | none => simp at split
  | @next rest _ induction =>
      simp only [List.cons_append, List.nil_append] at split
      match earlier with
      | [] => exact ⟨_, (List.cons.inj split).2.symm⟩
      | [_] | [_, _] => simp at split
      | _ :: _ :: _ :: earlier =>
          simp only [List.cons_append, List.cons.injEq] at split
          exact induction split.2.2.2

end Rounds

theorem isAutomatic_filter (said : List Exchange) :
    isAutomatic (said.filter Exchange.isControl) = isAutomatic said := by
  have skips (automatic : Bool) (other : Exchange) :
      (if other.isControl then other.modeAfter automatic else automatic) =
        other.modeAfter automatic := by
    split
    · rfl
    · next quiet =>
        exact (other.modeAfter_of_not_isControl automatic (by simpa using quiet)).symm
  simp only [isAutomatic, List.foldl_filter, skips]

/-- A connection is fit for any use if it had nothing but committed transactions,
whatever else was said on it. -/
theorem Rounds.clean {connection : Connection} {said : List Exchange}
    (rounds : Rounds connection (said.filter Exchange.isControl)) :
    Clean connection said where
  automatic := (isAutomatic_filter said).symm.trans rounds.isAutomatic
  restored := by
    have same : (said.filter Exchange.isControl).filter (·.call.isModeChange) =
        said.filter (·.call.isModeChange) := by
      rw [List.filter_filter]
      refine List.filter_congr fun other _ => ?_
      rw [Bool.and_eq_left_iff_imp]
      exact Exchange.isControl_of_isModeChange
    rw [← same]
    exact rounds.restored
  committed := by
    intro earlier answer later split
    have controls : said.filter Exchange.isControl =
        earlier.filter Exchange.isControl ++
          ⟨.autocommit connection false, answer⟩ :: later.filter Exchange.isControl := by
      rw [split, List.filter_append]
      rfl
    obtain ⟨rest, next⟩ := rounds.committed controls
    obtain ⟨between, rest, rfl, quiet, _⟩ := List.filter_eq_cons_iff.mp next
    exact ⟨between, rest, rfl, fun other member => by simpa using quiet other member⟩

/-! ## Clients at work -/

/-- Holds for the verbs of a pool, outside of any transaction. -/
def Demand.isPlain (demand : Demand) : Bool :=
  match demand.handle with
  | .pool _ => true
  | _ => false

/-- One call of the driver as it is put on record: with the demand of the verb that
makes it, and the statement that the task made before it. -/
structure Observed where
  demand : Option Demand
  made : Made
  said : Exchange

namespace Observed

def connection? (observed : Observed) : Option Connection :=
  observed.said.call.connection? observed.made

def isPlain (observed : Observed) : Bool :=
  observed.demand.any Demand.isPlain

end Observed

/-- What was said on one connection. -/
def saidOn (connection : Connection) (record : List Observed) : List Exchange :=
  (record.filter (·.connection? = some connection)).map (·.said)

/-- A client at work: what is left of it, the demand of the verb that it is at, and
the statement that it made last. -/
structure Worker where
  routine : Routine journal Unit
  demand : Option Demand := none
  made : Made := none

/-- Clients at work, and all that they said to the driver. -/
structure Traffic where
  world : World
  workers : List Worker := []
  record : List Observed := []

namespace Traffic

/-- A move: a client joins, or one at work takes its next step; if that is a call,
the reply answers it. -/
inductive Move where
  | join (client : Client Unit)
  | advance (task : Nat) (reply : (request : Call) → Except Fault request.Answer)

/-- The state before any client has joined; the pools are open and have no
connections. -/
def start (settings : Nat → Pool) : Traffic :=
  { world := { pools := fun number =>
      { settings number with idle := [], closed := false } } }

def resume (task : Nat) (worker : Worker) (traffic : Traffic) : Traffic :=
  { traffic with workers := traffic.workers.set task worker }

/-- The state after the next step of one client. -/
def advance (task : Nat) (reply : (request : Call) → Except Fault request.Answer)
    (traffic : Traffic) (worker : Worker) : Traffic :=
  match worker.routine with
  | .done _ | .fail _ => traffic
  | .step update next =>
      { traffic.resume task { worker with routine := next traffic.world } with
        world := update traffic.world }
  | .emit _ next => traffic.resume task { worker with routine := next }
  | .call (.driver request) next =>
      let answer := reply (.driver request)
      { traffic.resume task
          { worker with
            routine := next answer
            made := request.madeAfter worker.made answer } with
        record := traffic.record ++
          [⟨worker.demand, worker.made, ⟨request, answer⟩⟩] }
  | .call request next =>
      traffic.resume task { worker with routine := next (reply request) }
  | .aside entry next =>
      traffic.resume task
        { worker with routine := next (), demand := Fleet.demandOf entry }

def move (traffic : Traffic) : Move → Traffic
  | .join client =>
      { traffic with workers := traffic.workers ++ [{ routine := client.routine }] }
  | .advance task reply =>
      match traffic.workers[task]? with
      | none => traffic
      | some worker => traffic.advance task reply worker

def play (traffic : Traffic) (moves : List Move) : Traffic :=
  moves.foldl move traffic

end Traffic

end Midrange
