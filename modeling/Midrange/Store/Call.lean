import Midrange.Fields
import Midrange.Value

/-!
# Calls to the store

Everything that leaves the library: the single calls of the store's driver, and
the verbs of pools that other factories made.  Each call has a type of answers.
-/

namespace Midrange

/-- One row of a result: its columns in order. -/
abbrev Row := Fields Value

/-- A raw connection, told apart by the order in which connections opened. -/
structure Connection where
  number : Nat
  deriving DecidableEq, Repr

/-- A prepared statement of the driver. -/
structure Statement where
  number : Nat
  deriving DecidableEq, Repr

/-- What commands run against: a pool of driver connections, the dedicated
connection of one transaction scope of such a pool, or a guest, which another
factory made.  A dedicated guest belongs to a scope of another guest. -/
inductive Handle where
  | pool (number : Nat)
  | scope (number : Nat)
  | guest (number : Nat) (dedicated : Bool)
  deriving DecidableEq, Repr

/-- What can be asked of a handle. -/
inductive Verb where
  | query
  | update
  | insert
  | execute
  deriving DecidableEq, Repr

namespace Verb

/-- The answer to a verb: the rows, the number of affected rows, the identity
of the inserted row, or nothing. -/
@[reducible] def Answer : Verb → Type
  | .query => Option (List Row)
  | .update => Value
  | .insert => Value
  | .execute => Unit

def name : Verb → String
  | .query => "query"
  | .update => "update"
  | .insert => "insert_and_get_id"
  | .execute => "execute"

end Verb

/-- The calls of the driver.  `locate` asks whether there is a driver. -/
inductive DriverCall where
  | locate
  | connect (target : String)
  | prepare (connection : Connection) (sql : String) (timeout : Option Int)
  | execute (statement : Statement) (parameters : Option (List Value))
  | executeImmediate (connection : Connection) (sql : String)
  | fetchRow (statement : Statement)
  | countRows (statement : Statement)
  | fetchIdentity (statement : Statement)
  | autocommit (connection : Connection) (mode : Bool)
  | commit (connection : Connection)
  | rollback (connection : Connection)
  | close (connection : Connection)
  deriving Repr

/-- The answer to a call of the driver.  No row, or no identity row, means that
there are no more. -/
@[reducible] def DriverCall.Answer : DriverCall → Type
  | .locate => Bool
  | .connect _ => Unit
  | .prepare .. => Statement
  | .execute .. => Unit
  | .executeImmediate .. => Statement
  | .fetchRow _ => Option Row
  | .countRows _ => Value
  | .fetchIdentity _ => Option (List Value)
  | .autocommit .. => Unit
  | .commit _ => Unit
  | .rollback _ => Unit
  | .close _ => Unit

/-- The calls of a guest. -/
inductive GuestCall where
  | perform (verb : Verb) (sql : String) (bindings : Value)
  | begin
  | commit
  | rollback
  | close
  | isClosed
  deriving Repr

/-- The answer to a call of a guest. -/
@[reducible] def GuestCall.Answer : GuestCall → Type
  | .perform verb _ _ => verb.Answer
  | .isClosed => Bool
  | _ => Unit

/-- The calls that leave the library. -/
inductive Call where
  | driver (call : DriverCall)
  | makeGuest (options : Fields Value)
  | guest (number : Nat) (dedicated : Bool) (call : GuestCall)
  deriving Repr

@[reducible] def Call.Answer : Call → Type
  | .driver call => call.Answer
  | .makeGuest _ => Unit
  | .guest _ _ call => call.Answer

end Midrange
