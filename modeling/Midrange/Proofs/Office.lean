import Mathlib.Logic.Function.Basic
import Midrange.Proofs.Client

/-!
# Offices

Any number of clients at work on any number of pools of one store, at the granularity of
single calls of the driver, each of which may be answered in any way.  A statement that is
executed can generate an identity on its connection, and the identity statement is
answered with the identity that was generated last on its connection.

An office keeps a receipt of every insert that returned: the value that it returned, and
what the statements generated that it executed.  The verbs of a scope are asked by the
client that entered the scope, one after another, or by any client once the scope has
ended.
-/

namespace Midrange

/-- What a client notes: the verb that it is about to ask, how that ended, and the scope
that it entered. -/
inductive Memo where
  | asked (demand : Demand)
  | answered (verb : Verb) (outcome : Except Fault verb.Answer)
  | entered (inner : Handle)

/-- A caller whose only requests are memos. -/
@[reducible] def memos : Caller :=
  ⟨Memo, fun _ => Unit⟩

def Memo.write (memo : Memo) : Routine memos Unit :=
  Routine.ask memo

/-- A verb between its memos. -/
def Demand.memoed (demand : Demand) : Routine memos demand.verb.Answer := do
  (Memo.asked demand).write
  let outcome ← (demand.handle.perform demand.verb demand.sql demand.bindings).attempt
  (Memo.answered demand.verb outcome).write
  Routine.ofExcept outcome

/-- The body of a transaction behind its memo. -/
def Handle.memoed {α : Type} (inner : Handle) (body : Routine memos α) : Routine memos α := do
  (Memo.entered inner).write
  body

/-- What a client does, with its memos. -/
def Client.memoed : {α : Type} → Client α → Routine memos α
  | _, .done value => .done value
  | _, .fail fault => .fail fault
  | _, .bind first second => first.memoed.bind fun value => (second value).memoed
  | _, .attempt client => client.memoed.attempt
  | _, .perform demand => demand.memoed
  | _, .transaction handle body => handle.transaction fun inner => inner.memoed (body inner).memoed
  | _, .close handle => handle.close

/-! ## The store -/

/-- An identity row, if a statement generated one. -/
abbrev Generated := Option (List Value)

/-- What is kept beside a client: the statement that it made last, the identity statement
that it made last, and what the statements generated that its verb executed. -/
structure Marks where
  made : Made := none
  inquiry : Made := none
  born : List Generated := []

/-- The last identity statement after a call is answered. -/
def DriverCall.inquiryAfter (inquiry : Made) :
    (request : DriverCall) → Except Fault request.Answer → Made
  | .executeImmediate connection sql, .ok statement =>
      if sql = Connection.identityStatement then some (statement, connection) else none
  | _, _ => inquiry

def DriverCall.bornAfter (born : List Generated) (generated : Generated) :
    DriverCall → List Generated
  | .execute .. => born ++ [generated]
  | _ => born

def Marks.after (generated : Generated) (request : DriverCall)
    (answer : Except Fault request.Answer) (marks : Marks) : Marks where
  made := request.madeAfter marks.made answer
  inquiry := request.inquiryAfter marks.inquiry answer
  born := request.bornAfter marks.born generated

/-- The identities that were generated last on the connections, after a call. -/
def DriverCall.identitiesAfter (made : Made) (generated : Generated)
    (identities : Connection → Generated) : DriverCall → Connection → Generated
  | .execute statement _ =>
      match made.connection? statement, generated with
      | some connection, some row => Function.update identities connection (some row)
      | _, _ => identities
  | _ => identities

/-- The answer to a call: whatever is replied, but the row of an identity statement is the
identity that was generated last on its connection. -/
def DriverCall.answerWith (inquiry : Made) (identities : Connection → Generated) :
    (request : DriverCall) → Except Fault request.Answer → Except Fault request.Answer
  | .fetchIdentity statement, .ok row =>
      match inquiry.connection? statement with
      | some connection => .ok (identities connection)
      | none => .ok row
  | _, reply => reply

/-! ## Clients at work -/

/-- An insert that returned: by whom, with which value, and what was generated by the
statements that it executed. -/
structure Receipt where
  task : Nat
  value : Value
  born : List Generated

/-- The value of an insert is the identity that the insert itself generated.  Nothing is
said of a statement that generates none. -/
def Confirms (value : Value) (born : List Generated) : Prop :=
  ∃ generated, born = [generated] ∧
    ∀ row, generated = some row → value = Connection.firstColumn (some row)

/-- A client at work: what is left of it, and what is kept beside it. -/
structure Clerk where
  routine : Routine memos Unit
  marks : Marks := {}

structure Office where
  world : World
  clerks : List Clerk := []
  identities : Connection → Generated := fun _ => none
  runner : Nat → Option Nat := fun _ => none
  receipts : List Receipt := []

namespace Office

/-- What answers the next call, and the identity that its statement generates if it
executes one. -/
structure Reply where
  answer : (request : Call) → Except Fault request.Answer
  generated : Generated := none

/-- A move: a client joins, or one at work takes its next step; if that is a call, the
reply answers it. -/
inductive Move where
  | join (client : Client Unit)
  | advance (task : Nat) (reply : Reply)

/-- The state before any client has joined; the pools are open and have no
connections. -/
def start (settings : Nat → Pool) : Office :=
  { world := { pools := fun number =>
      { settings number with idle := [], closed := false } } }

/-- Says whether a client may do what it notes.  A verb is for a pool, or for a scope by
the client that entered it or after its end. -/
def admits (task : Nat) (office : Office) : Memo → Bool
  | .asked demand =>
      match demand.handle with
      | .pool _ => true
      | .scope number =>
          office.runner number = some task ||
            (decide (number < office.world.scopeCount) &&
              !(office.world.scopes number).active)
      | .guest .. => false
  | _ => true

def marksNoted (marks : Marks) : Memo → Marks
  | .asked _ => { marks with born := [] }
  | _ => marks

def runnerNoted (task : Nat) (runner : Nat → Option Nat) : Memo → Nat → Option Nat
  | .entered (.scope number) => assign runner number (some task)
  | _ => runner

/-- The receipt that an answer is worth. -/
def receiptOf (task : Nat) (born : List Generated) : Memo → List Receipt
  | .answered .insert (.ok value) => [⟨task, value, born⟩]
  | _ => []

def resume (task : Nat) (clerk : Clerk) (office : Office) : Office :=
  { office with clerks := office.clerks.set task clerk }

/-- The state after the next step of one client. -/
def advance (task : Nat) (reply : Reply) (office : Office) (clerk : Clerk) : Office :=
  match clerk.routine with
  | .done _ | .fail _ => office
  | .step update next =>
      { office.resume task { clerk with routine := next office.world } with
        world := update office.world }
  | .emit _ next => office.resume task { clerk with routine := next }
  | .call (.driver request) next =>
      let answer := request.answerWith clerk.marks.inquiry office.identities
        (reply.answer (.driver request))
      { office.resume task
          { routine := next answer, marks := clerk.marks.after reply.generated request answer }
        with
        identities := request.identitiesAfter clerk.marks.made reply.generated
          office.identities }
  | .call request next =>
      office.resume task { clerk with routine := next (reply.answer request) }
  | .aside memo next =>
      if office.admits task memo then
        { office.resume task
            { routine := next (), marks := marksNoted clerk.marks memo } with
          runner := runnerNoted task office.runner memo
          receipts := office.receipts ++ receiptOf task clerk.marks.born memo }
      else
        office

def move (office : Office) : Move → Office
  | .join client =>
      { office with clerks := office.clerks ++ [{ routine := client.memoed }] }
  | .advance task reply =>
      match office.clerks[task]? with
      | none => office
      | some clerk => office.advance task reply clerk

def play (office : Office) (moves : List Move) : Office :=
  moves.foldl move office

end Office

end Midrange
