import Midrange.Registry
import Midrange.Select
import Midrange.Table

/-!
# Sessions

A session borrows a handle from a registry and runs commands against its current
connection.  While a transaction runs, the current connection is the dedicated
one of its scope; however the scope ends, the earlier connection comes back.
-/

namespace Midrange

/-- The kinds of commands. -/
inductive Command where
  | select
  | insert
  | update
  | delete
  | other (name : String)
  deriving DecidableEq, Repr

namespace Command

/-- The command of a name; only the exact names are known. -/
def ofName : String → Command
  | "select" => .select
  | "insert" => .insert
  | "update" => .update
  | "delete" => .delete
  | name => .other name

def name : Command → String
  | .select => "select"
  | .insert => "insert"
  | .update => "update"
  | .delete => "delete"
  | .other name => name

/-- Holds for the four kinds that have a meaning of their own. -/
def isKnown : Command → Bool
  | .other _ => false
  | _ => true

end Command

/-- The outcome of a command: the identity of an inserted row, the number of
affected rows, or rows.  Only the member of the command's verb is set. -/
structure QueryResult where
  command : Command
  insertId : Value := .null
  affectedRows : Value := .null
  data : Option (List Row) := none

/-- What the work of a transaction returns: a plain value, one that is marked as
available, or one that is still to be awaited. -/
inductive Outcome (α : Type) where
  | plain (value : α)
  | immediate (value : α)
  | deferred (value : α)
  deriving DecidableEq, Repr

def Outcome.value {α : Type} : Outcome α → α
  | .plain value => value
  | .immediate value => value
  | .deferred value => value

namespace Session

variable {caller : Caller} {α : Type}

def get (number : Nat) : Routine caller Session :=
  Routine.look fun world => world.sessions number

def change (number : Nat) (update : Session → Session) : Routine caller Unit :=
  Routine.modify (World.changeSession · number update)

def report (number : Nat) (event : SessionEvent) : Routine caller Unit := do
  let session ← get number
  Routine.report (.session session.label event)

/-- A new session over a registry. -/
def new (registry : Nat) : Routine caller Nat :=
  Routine.atomic (World.addSession · { registry })

/-- Holds while the work of a transaction runs. -/
def isInTransaction (session : Session) : Bool :=
  session.state = .inTransaction

/-- The data source to connect to: the given one, or else the identity of the
target. -/
def chooseSource (dsn : Option String) (target : Target) : String :=
  match dsn with
  | none => target.identity
  | some name => if name = "" then target.identity else name

/-- The error of a connect that failed for another fault. -/
def connectError (dsn : String) (fault : Fault) : Fault :=
  .adapter (.of .connection ("Failed to connect to " ++ dsn ++ ": " ++ fault.text)
    none { dsn := .text dsn } (some fault))

/-- Borrows the handle of a data source. -/
def connect (number : Nat) (dsn : Option String) (target : Target) :
    Routine caller Unit := do
  let session ← get number
  if session.isInTransaction then
    Routine.refuse .reconnectInTransaction
  else
    let source := chooseSource dsn target
    match ← (Registry.acquire session.registry source target.options).attempt with
    | .ok handle =>
        change number fun session =>
          { session with
            connection := some handle
            dsn := some source
            state := .connected
            label := some source }
        report number .connected
    | .error fault =>
        if fault.isOrdinary then
          Routine.report (.connectFailed source fault.text)
          Routine.fail (connectError source fault)
        else
          Routine.fail fault

/-- Gives the connection up; the handle stays in its registry.  A session
without a connection is left alone. -/
def close (number : Nat) : Routine caller Unit := do
  let session ← get number
  if session.connection.isNone && session.prior.isNone then
    return ()
  else
    change number fun session =>
      { session with connection := none, prior := none, state := .disconnected }
    report number .closed

/-- Another name of `close`. -/
def release (number : Nat) : Routine caller Unit :=
  close number

/-- Tears down the handles of a registry, or else those of the shared one. -/
def globalClose (registry : Option Nat) : Routine caller Unit :=
  Registry.tearDown (registry.getD Registry.shared)

/-- Runs a body with a new session, which is closed however the body ends. -/
def during (registry : Nat) (body : Nat → Routine caller α) :
    Routine caller α := do
  let number ← new registry
  let outcome ← (body number).attempt
  close number
  Routine.ofExcept outcome

def requireConnection (number : Nat) : Routine caller Handle := do
  match (← get number).connection with
  | some handle => return handle
  | none => Routine.refuse .notConnected

/-- The bindings of a command as a list; those that count as nothing are
none. -/
def parameters (bindings : Value) : Except Fault (List Value) :=
  if bindings.isTrue then
    match bindings.items? with
    | some items => .ok items
    | none => .error (.mismatch (.notIterable bindings.kindName))
  else
    .ok []

/-- The error of a command that failed for another fault. -/
def queryError (dsn : Option String) (command sql : String)
    (parameters : List Value) (fault : Fault) : Fault :=
  .adapter (.ofQuery ("Query failed: " ++ fault.text) (.text sql)
    (.list parameters)
    { dsn := (dsn.map Value.text).getD .null, command := .text command }
    (some fault))

/-- Runs a verb on the current connection; an ordinary fault becomes an error
that tells the command. -/
def performVerb (number : Nat) (handle : Handle) (command : String) (verb : Verb)
    (sql : String) (parameters : List Value) : Routine caller verb.Answer := do
  match ← (handle.perform verb sql (.list parameters)).attempt with
  | .ok answer => return answer
  | .error fault =>
      if fault.isOrdinary then
        report number (.queryFailed command sql fault.text)
        let session ← get number
        Routine.fail (queryError session.dsn command sql parameters fault)
      else
        Routine.fail fault

/-- Runs a command with the verb of its kind; an unknown kind is a query. -/
def dispatch (number : Nat) (command : Command) (sql : String)
    (bindings : Value := .null) : Routine caller QueryResult := do
  let handle ← requireConnection number
  let parameters ← Routine.ofExcept (parameters bindings)
  match command with
  | .insert =>
      let insertId ← performVerb number handle command.name .insert sql parameters
      return { command, insertId }
  | .update | .delete =>
      let affectedRows ←
        performVerb number handle command.name .update sql parameters
      return { command, affectedRows }
  | .select | .other _ =>
      let data ← performVerb number handle command.name .query sql parameters
      return { command, data }

def execute (number : Nat) (sql : String) (bindings : Value := .null) :
    Routine caller Unit := do
  let handle ← requireConnection number
  let parameters ← Routine.ofExcept (parameters bindings)
  performVerb number handle "execute" .execute sql parameters

/-- Creates a table; the value is the statement that ran. -/
def createTable (number : Nat) (table : Table) : Routine caller String := do
  let sql ← Routine.ofExcept (table.write {})
  Routine.report (.tableBuilt table.name table.columns.length)
  execute number sql
  return sql

def select (number : Nat) (query : Select) (bindings : Value := .null) :
    Routine caller (List Row) := do
  let sql ← Routine.ofExcept (query.statement {})
  Routine.report (.selectBuilt query.table query.isPaginated)
  let result ← dispatch number .select sql bindings
  return result.data.getD []

/-- Makes the dedicated connection of a scope the current one. -/
def enterScope (inner : Handle) (session : Session) : Session :=
  { session with
    prior := session.connection
    connection := some inner
    state := .inTransaction }

/-- Brings the earlier connection back. -/
def leaveScope (session : Session) : Session :=
  { session with
    connection := session.prior
    prior := none
    state := if session.prior.isSome then .connected else .disconnected }

/-- The scope of a transaction: the work, between entering and leaving. -/
def scope (number : Nat) (work : Option (Routine caller (Outcome α)))
    (inner : Handle) : Routine caller (Option α) := do
  change number (enterScope inner)
  report number .transactionStarted
  let outcome ←
    match work with
    | none => pure (.ok none)
    | some work => do
        let outcome ← work.attempt
        pure (outcome.map fun outcome => some outcome.value)
  change number leaveScope
  Routine.ofExcept outcome

/-- Runs work inside a transaction of the current connection.  The value is that
of the work, if there is any work. -/
def transaction (number : Nat) (work : Option (Routine caller (Outcome α))) :
    Routine caller (Option α) := do
  let handle ← requireConnection number
  if (← get number).isInTransaction then
    Routine.refuse .nestedTransaction
  else
    match ← (handle.transaction (scope number work)).attempt with
    | .ok value =>
        report number .transactionFinished
        return value
    | .error fault =>
        if fault.isOrdinary then
          report number (.transactionFailed fault.text)
        Routine.fail fault

/-- Refuses; a transaction commits when its work returns. -/
def commit : Routine caller Unit :=
  Routine.refuse .explicitCommit

/-- Refuses; a transaction rolls back when its work fails. -/
def rollback : Routine caller Unit :=
  Routine.refuse .explicitRollback

end Session

end Midrange
