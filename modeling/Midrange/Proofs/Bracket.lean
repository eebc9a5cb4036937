import Midrange.Proofs.Client

/-!
# Brackets on the wire

The trail of a connection is everything that is said to the driver on it, with
the marks of the scopes that ran on it.  `Block` is the language of one use of a
connection: a verb, or a transaction in its bracket.  `Wire` is the language of
a whole trail: blocks that return, then perhaps one that does not, and at most one
close at the end.

Several tasks may ask verbs of one scope at the same time, so the statements of a
transaction are whole verbs of each task, in any order between the tasks.
-/

namespace Midrange

/-- One item of the trail of a connection.  An exchange that a verb of the pool makes
is marked with the demand for it, and one that a verb of a scope makes also with the
task that asked for the verb. -/
inductive Signal where
  | exchange (demand : Option Demand) (exchange : Exchange)
  | statement (task : Nat) (demand : Demand) (exchange : Exchange)
  | entered (scope : Nat)
  | left (scope : Nat) (returned : Bool)

namespace Signal

/-- Holds for the call that closes a connection. -/
def isClose : Signal → Bool
  | .exchange _ said | .statement _ _ said => said.call.isClose
  | _ => false

/-- Holds for what the verbs of a scope say. -/
def states (scope : Nat) : Signal → Bool
  | .statement _ demand _ => demand.handle = .scope scope
  | _ => false

/-- Holds for what a task says in verbs of scopes. -/
def isOf (task : Nat) : Signal → Bool
  | .statement other _ _ => other = task
  | _ => false

end Signal

/-- A connection is taken out of automatic commit. -/
abbrev Connection.outset (connection : Connection) (answer : Except Fault Unit) :
    Signal :=
  .exchange none ⟨.autocommit connection false, answer⟩

/-- A transaction begins on a connection, and its scope is entered. -/
abbrev Connection.entry (connection : Connection) (scope : Nat) : List Signal :=
  [connection.outset (.ok ()), .entered scope]

/-- One verb of the pool on a connection, and whether it returns. -/
inductive Spoken (pool : Nat) (connection : Connection) :
    Bool → List Signal → Prop where
  | verb {demand : Demand} {returned : Bool} {calls : List Exchange} :
      demand.handle = .pool pool →
      VerbCalls connection demand.sql demand.bindings demand.verb returned calls →
      Spoken pool connection returned (calls.map (.exchange (some demand)))

/-- The verbs that one task asks of a scope, one after another. -/
inductive Words (scope : Nat) (connection : Connection) (task : Nat) :
    List Signal → Prop where
  | none : Words scope connection task []
  | append {earlier : List Signal} {demand : Demand} {returned : Bool}
      {calls : List Exchange} :
      Words scope connection task earlier →
      demand.handle = .scope scope →
      VerbCalls connection demand.sql demand.bindings demand.verb returned calls →
      Words scope connection task (earlier ++ calls.map (.statement task demand))

/-- The statements of a scope: whole verbs of each task. -/
structure Statements (scope : Nat) (connection : Connection) (signals : List Signal) :
    Prop where
  own : ∀ signal ∈ signals, signal.states scope = true
  verbs : ∀ task, Words scope connection task (signals.filter (·.isOf task))

/-- The statements of a scope that is running: each task may be in the middle of a
verb. -/
structure Unfinished (scope : Nat) (connection : Connection) (signals : List Signal) :
    Prop where
  own : ∀ signal ∈ signals, signal.states scope = true
  verbs : ∀ task, ∃ rest,
    Words scope connection task (signals.filter (·.isOf task) ++ rest)

/-- One use of a connection, and whether it returns: a verb of the pool, a
transaction that is refused before its scope runs, or a transaction. -/
inductive Block (pool : Nat) (connection : Connection) : Bool → List Signal → Prop where
  | verb {returned : Bool} {signals : List Signal} :
      Spoken pool connection returned signals →
      Block pool connection returned signals
  | refused (fault : Fault) :
      Block pool connection false [connection.outset (.error fault)]
  | transaction (scope : Nat) (returned : Bool) {statements : List Signal}
      (ended restored : Except Fault Unit) :
      Statements scope connection statements →
      Block pool connection (returned && ended.isOk && restored.isOk)
        (connection.entry scope ++ statements ++
          [.left scope returned, .exchange none (connection.ending returned ended),
            .exchange none ⟨.autocommit connection true, restored⟩])

/-- Blocks that return, one after another. -/
inductive Whole (pool : Nat) (connection : Connection) : List Signal → Prop where
  | none : Whole pool connection []
  | append {earlier last : List Signal} :
      Whole pool connection earlier →
      Block pool connection true last →
      Whole pool connection (earlier ++ last)

/-- The trail of a connection that is closed: after whole blocks, or after one more
block that does not return. -/
inductive Sealed (pool : Nat) (connection : Connection) : List Signal → Prop where
  | closed {blocks : List Signal} (demand : Option Demand)
      (answer : Except Fault Unit) :
      Whole pool connection blocks →
      Sealed pool connection
        (blocks ++ [.exchange demand ⟨.close connection, answer⟩])
  | discarded {blocks last : List Signal} (demand : Option Demand)
      (answer : Except Fault Unit) :
      Whole pool connection blocks →
      Block pool connection false last →
      Sealed pool connection
        (blocks ++ last ++ [.exchange demand ⟨.close connection, answer⟩])

/-- The trail of a connection that nobody is at work on: whole blocks, or those of
a connection that is closed. -/
inductive Wire (pool : Nat) (connection : Connection) : List Signal → Prop where
  | opened {blocks : List Signal} :
      Whole pool connection blocks → Wire pool connection blocks
  | ended {signals : List Signal} :
      Sealed pool connection signals → Wire pool connection signals

/-- The beginning of a block. -/
def Started (pool : Nat) (connection : Connection) (signals : List Signal) : Prop :=
  ∃ rest returned, Block pool connection returned (signals ++ rest)

/-- The trail of a connection that somebody is at work on: whole blocks, and the
beginning of one more or a transaction whose scope is running. -/
inductive Underway (pool : Nat) (connection : Connection) : List Signal → Prop where
  | started {blocks block : List Signal} :
      Whole pool connection blocks → Started pool connection block →
      Underway pool connection (blocks ++ block)
  | running {blocks statements : List Signal} (scope : Nat) :
      Whole pool connection blocks → Unfinished scope connection statements →
      Underway pool connection (blocks ++ connection.entry scope ++ statements)

/-! ## The parts of the blocks -/

theorem Statements.nil (scope : Nat) (connection : Connection) :
    Statements scope connection [] := by
  refine ⟨?_, fun _ => .none⟩
  rintro _ ⟨⟩

theorem Executes.ne_nil {connection : Connection} {sql : String} {bindings : Value}
    {statement : Option Statement} {calls : List Exchange}
    (executes : Executes connection sql bindings statement calls) : calls ≠ [] := by
  cases executes <;> simp

theorem VerbCalls.ne_nil {connection : Connection} {sql : String} {bindings : Value}
    {verb : Verb} {returned : Bool} {calls : List Exchange}
    (said : VerbCalls connection sql bindings verb returned calls) : calls ≠ [] := by
  cases said with
  | stopped executes | execute executes => exact executes.ne_nil
  | query executes => simp [executes.ne_nil]
  | update | unidentified | insert => simp

theorem Started.nil (pool : Nat) (connection : Connection) :
    Started pool connection [] :=
  ⟨_, false, .refused (.outside .runtime "")⟩

theorem Started.of_append {pool : Nat} {connection : Connection}
    {earlier later : List Signal} (started : Started pool connection (earlier ++ later)) :
    Started pool connection earlier := by
  obtain ⟨rest, returned, block⟩ := started
  rw [List.append_assoc] at block
  exact ⟨later ++ rest, returned, block⟩

theorem Block.started {pool : Nat} {connection : Connection} {returned : Bool}
    {signals : List Signal} (block : Block pool connection returned signals) :
    Started pool connection signals := by
  refine ⟨[], returned, ?_⟩
  rw [List.append_nil]
  exact block

/-- The statements of a scope and the mark of its end are the beginning of a
transaction. -/
theorem started_left {pool scope : Nat} {connection : Connection}
    {statements : List Signal}
    (said : Statements scope connection statements) (returned : Bool) :
    Started pool connection
      (connection.entry scope ++ statements ++ [.left scope returned]) := by
  have block : Block pool connection _ (connection.entry scope ++ statements ++
      ([.left scope returned] ++
        [.exchange none (connection.ending returned (.ok ())),
          .exchange none ⟨.autocommit connection true, .ok ()⟩])) :=
    .transaction scope returned (.ok ()) (.ok ()) said
  rw [← List.append_assoc] at block
  exact ⟨_, _, block⟩

/-- Leaving automatic commit is the beginning of a block, also if it fails. -/
theorem started_outset {pool : Nat} {connection : Connection}
    (answer : Except Fault Unit) : Started pool connection [connection.outset answer] := by
  cases answer with
  | error fault => exact (Block.refused fault).started
  | ok =>
      have started : Started pool connection
          ([connection.outset (.ok ())] ++ [.entered 0, .left 0 true]) :=
        started_left (.nil 0 connection) true
      exact started.of_append

/-- A block ends with an exchange, and not inside its scope. -/
theorem Block.last {pool : Nat} {connection : Connection} {returned : Bool}
    {signals : List Signal} (block : Block pool connection returned signals) :
    ∃ earlier demand said, signals = earlier ++ [.exchange demand said] := by
  cases block with
  | verb spoken =>
      obtain @⟨demand, _, calls, _, said⟩ := spoken
      rcases List.eq_nil_or_concat calls with none | ⟨earlier, last, rfl⟩
      · exact (said.ne_nil none).elim
      · exact ⟨earlier.map (.exchange (some demand)), some demand, last, by simp⟩
  | refused fault => exact ⟨[], none, _, rfl⟩
  | @transaction scope returned said ended restored =>
      refine ⟨connection.entry scope ++ said ++
        [.left scope returned, .exchange none (connection.ending returned ended)],
        none, ⟨.autocommit connection true, restored⟩, ?_⟩
      simp

/-- Whole blocks do not end inside a scope. -/
theorem Whole.last {pool : Nat} {connection : Connection} {signals earlier : List Signal}
    {last : Signal} (whole : Whole pool connection signals)
    (same : signals = earlier ++ [last]) : ∃ demand said, last = .exchange demand said := by
  cases whole with
  | none => simp at same
  | append _ block =>
      obtain ⟨_, demand, said, rfl⟩ := block.last
      rw [← List.append_assoc] at same
      exact ⟨demand, said, by simpa using (List.append_inj' same rfl).2.symm⟩

/-- A word of the wire does not end inside a scope. -/
theorem Wire.last {pool : Nat} {connection : Connection} {signals earlier : List Signal}
    {last : Signal} (wire : Wire pool connection signals)
    (same : signals = earlier ++ [last]) : ∃ demand said, last = .exchange demand said := by
  cases wire with
  | opened whole => exact whole.last same
  | ended sealed =>
      cases sealed with
      | closed demand answer whole | discarded demand answer whole block =>
          exact ⟨demand, _, by simpa using (List.append_inj' same rfl).2.symm⟩

end Midrange
