import Midrange.Routine

/-!
# Raw connections

The verbs of one raw connection in terms of single driver calls.  Changing back
to automatic commit always follows a commit or a rollback, whatever becomes of
it, and its own fault takes precedence.
-/

namespace Midrange.Connection

variable {caller : Caller}

/-- The statement that reads the identity generated last on a connection. -/
def identityStatement : String :=
  "select identity_val_local() as id from sysibm.sysdummy1"

/-- More rows than any result has. -/
def rowLimit : Nat := Nat.pow 2 63

/-- Prepares and executes a statement.  Bindings that count as nothing are not
passed on; a timeout of zero seconds is none. -/
def run (connection : Connection) (timeout : Option Int) (sql : String)
    (bindings : Value) : Routine caller Statement := do
  let statement ← Routine.drive
    (.prepare connection sql (timeout.filter (· != 0)))
  if bindings.isTrue then
    match bindings.items? with
    | some items => Routine.drive (.execute statement (some items))
    | none => Routine.fail (.mismatch (.notIterable bindings.kindName))
  else
    Routine.drive (.execute statement none)
  return statement

/-- Fetches rows up to the end of the result or to an empty row. -/
def fetchRows (statement : Statement) : Nat → Routine caller (List Row)
  | 0 => return []
  | limit + 1 => do
      match ← Routine.drive (.fetchRow statement) with
      | none => return []
      | some row =>
          if row.isEmpty then
            return []
          else
            let rows ← fetchRows statement limit
            return row :: rows

/-- The first column of an identity row, null if there is none. -/
def firstColumn : Option (List Value) → Value
  | some (value :: _) => value
  | _ => .null

def perform (connection : Connection) (timeout : Option Int) (sql : String)
    (bindings : Value) : (verb : Verb) → Routine caller verb.Answer
  | .query => do
      let statement ← connection.run timeout sql bindings
      let rows ← fetchRows statement rowLimit
      return some rows
  | .update => do
      let statement ← connection.run timeout sql bindings
      Routine.drive (.countRows statement)
  | .insert => do
      let _ ← connection.run timeout sql bindings
      let statement ← Routine.drive (.executeImmediate connection identityStatement)
      let row ← Routine.drive (.fetchIdentity statement)
      return firstColumn row
  | .execute => do
      let _ ← connection.run timeout sql bindings
      return ()

def begin (connection : Connection) : Routine caller Unit :=
  Routine.drive (.autocommit connection false)

/-- Makes a call and changes back to automatic commit, whatever becomes of the
call. -/
def finish (connection : Connection) (request : DriverCall) :
    Routine caller Unit := do
  let outcome ← (Routine.drive request).attempt
  let _ ← Routine.drive (.autocommit connection true)
  Routine.ofExcept (outcome.map fun _ => ())

def commit (connection : Connection) : Routine caller Unit :=
  connection.finish (.commit connection)

def rollback (connection : Connection) : Routine caller Unit :=
  connection.finish (.rollback connection)

/-- Carries on after an ordinary fault, which is only reported. -/
def tolerate (event : String → Event) (routine : Routine caller Unit) :
    Routine caller Unit := do
  match ← routine.attempt with
  | .ok () => return ()
  | .error fault =>
      if fault.isOrdinary then Routine.report (event fault.text)
      else Routine.fail fault

/-- Closes a connection; a fault of the driver is only reported. -/
def closeQuietly (connection : Connection) : Routine caller Unit :=
  tolerate .connectionCloseFailed (Routine.drive (.close connection))

/-- Rolls back; a fault of the driver is only reported. -/
def rollbackQuietly (connection : Connection) : Routine caller Unit :=
  tolerate .rollbackFailed connection.rollback

end Midrange.Connection
