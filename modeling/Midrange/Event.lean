import Midrange.Fields
import Midrange.Log.Level
import Midrange.Value

/-!
# Events

What the library reports to the log.  An event has a level, a name and fields;
the events of a session also carry the data source that it is bound to.
-/

namespace Midrange

open Midrange.Log

/-- What happens to a session. -/
inductive SessionEvent where
  | connected
  | closed
  | queryFailed (command sql error : String)
  | transactionStarted
  | transactionFailed (error : String)
  | transactionFinished
  deriving DecidableEq, Repr

/-- What is reported to the log. -/
inductive Event where
  | tableBuilt (table : String) (columns : Nat)
  | selectBuilt (table : String) (paginated : Bool)
  | poolReused (dsn : String)
  | poolCreated (dsn : String) (options : Fields Value)
  | poolCloseFailed (dsn error : String)
  | poolsTornDown (count : Nat)
  | connectionCloseFailed (error : String)
  | rollbackFailed (error : String)
  | connectFailed (dsn error : String)
  | session (label : Option String) (event : SessionEvent)

namespace SessionEvent

/-- The level, name and own fields of a session event. -/
def describe : SessionEvent → Level × String × List (String × Value)
  | .connected => (.info, "session_connected", [])
  | .closed => (.info, "session_closed", [])
  | .queryFailed command sql error =>
      (.error, "query_failed",
        [("command", .text command), ("sql", .text sql), ("error", .text error)])
  | .transactionStarted => (.info, "transaction_started", [])
  | .transactionFailed error =>
      (.warning, "transaction_failed", [("error", .text error)])
  | .transactionFinished => (.info, "transaction_finished", [])

end SessionEvent

namespace Event

def optionsValue (options : Fields Value) : Value :=
  .dict (options.entries.map fun entry => (.text entry.1, entry.2))

/-- The level, name and fields of an event. -/
def describe : Event → Level × String × List (String × Value)
  | .tableBuilt table columns =>
      (.debug, "ddl_built", [("table", .text table), ("columns", .int columns)])
  | .selectBuilt table paginated =>
      (.debug, "select_translated",
        [("table", .text table), ("paginated", .bool paginated)])
  | .poolReused dsn => (.debug, "pool_reused", [("dsn", .text dsn)])
  | .poolCreated dsn options =>
      (.info, "pool_created",
        [("dsn", .text dsn), ("options", optionsValue options)])
  | .poolCloseFailed dsn error =>
      (.warning, "pool_close_failed", [("dsn", .text dsn), ("error", .text error)])
  | .poolsTornDown count => (.info, "pools_torn_down", [("count", .int count)])
  | .connectionCloseFailed error =>
      (.warning, "connection_close_failed", [("error", .text error)])
  | .rollbackFailed error =>
      (.warning, "transaction_rollback_failed", [("error", .text error)])
  | .connectFailed dsn error =>
      (.error, "session_connect_failed",
        [("dsn", .text dsn), ("error", .text error)])
  | .session label event =>
      let (level, name, fields) := event.describe
      match label with
      | none => (level, name, fields)
      | some dsn => (level, name, ("dsn", .text dsn) :: fields)

def level (event : Event) : Level :=
  event.describe.1

def name (event : Event) : String :=
  event.describe.2.1

def fields (event : Event) : Fields Value :=
  Fields.ofPairs event.describe.2.2

end Event

end Midrange
