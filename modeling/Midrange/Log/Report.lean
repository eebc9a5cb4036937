import Midrange.Log.Console
import Midrange.Log.Json

/-!
# Reporting events

A logger reports an event if the event passes the threshold of the logger's
configuration; what it reports is printed if the event also passes the threshold
of the log as a whole.  With the standard setup of the logging library every
event is printed.
-/

namespace Midrange.Log

/-- The event passes the threshold of a configuration. -/
def Configuration.admits (configuration : Configuration) (level : Level) : Bool :=
  configuration.threshold ≤ level.severity

/-- The event passes the threshold of a setup. -/
def Setup.admits (setup : Setup) (level : Level) : Bool :=
  match setup with
  | .standard => true
  | .given configuration => configuration.admits level

/-- Events of a severity pass the threshold of the log. -/
def State.admits (state : State) (severity : Nat) : Bool :=
  state.rootThreshold.getD 0 ≤ severity

/-- The fault of a call whose fields repeat its own arguments.  An exception is
passed on to the method of errors, and an event that does not pass the threshold
goes no further than the call. -/
def callFault? (admitted : Bool) (method : Method)
    (fields : List (String × Value)) : Option Fault :=
  let operation :=
    match method with
    | .exception => "exception"
    | .ordinary _ =>
        if admitted then
          "_make_filtering_bound_logger.<locals>.make_method.<locals>.meth"
        else "_nop"
  let doubled (operation : String) (taken : List String) : Option Fault :=
    (doubled? taken fields).map fun name =>
      .mismatch (.doubledArgument operation name)
  doubled operation ["self", "event"] <|>
    if admitted then doubled "BoundLoggerBase._proxy_to_logger" ["method_name"]
    else none

/-- The lines that a logger with a configuration prints for an event. -/
def linesFor (state : State) (configuration : Configuration) (logger : Logger)
    (moment : Moment) (method : Method) (event : Value)
    (fields : List (String × Value)) : Except Fault (List Line) := do
  let level := method.toLevel
  let all ← lineFields state configuration logger moment method event fields
  let lines ←
    if configuration.json then (jsonLine all).map fun line => [line]
    else (consoleText level all).map Line.ofText
  return if state.admits level.severity then lines else []

/-- Logs an event: the logger after the use and the lines, if any. -/
def Logger.log (state : State) (logger : Logger) (moment : Moment) (method : Method)
    (event : Value) (fields : List (String × Value)) :
    Logger × Except Fault (List Line) :=
  let setup := logger.setup state
  let admitted := setup.admits method.toLevel
  (logger.use state,
    match callFault? admitted method fields, setup with
    | some fault, _ => .error fault
    | none, .standard =>
        state.standard moment method.toLevel (eventFields state logger method event fields)
    | none, .given configuration =>
        if admitted then
          linesFor state configuration logger moment method event fields
        else .ok [])

/-- The name of the logger that reports for sessions. -/
def sessionLogger : String := "ibmdb_adapter.session"

/-- The name of the logger that reports an event of this library. -/
def loggerName : Event → String
  | .tableBuilt .. => "ibmdb_adapter.ddl"
  | .selectBuilt .. => "ibmdb_adapter.query"
  | .poolReused _ | .poolCreated .. | .poolCloseFailed .. | .poolsTornDown _ =>
      "ibmdb_adapter.pool"
  | .connectionCloseFailed _ | .rollbackFailed _ => "ibmdb_adapter.connector"
  | .connectFailed .. | .session .. => sessionLogger

/-- Logs an event of this library with the logger of its kind.  An event that tells
the data source of its session is logged by a logger that is bound to it now. -/
def State.report (state : State) (moment : Moment) (event : Event) :
    State × Except Fault (List Line) :=
  let name := loggerName event
  (state.employ name,
    ((state.ownLogger name).log state moment (.ordinary event.level) (.text event.name)
      event.fields.entries).2)

/-- Binds the logger that reports for sessions to the data source of a session, which
goes on with the new one. -/
def State.connect (state : State) (dsn : String) : State × Logger :=
  let logger := state.ownLogger sessionLogger
  (state.employ sessionLogger,
    { logger with
      taken := some (logger.setup state)
      bound := Fields.ofPairs [("dsn", .text dsn)] })

/-- The lines of a warning that comes from no logger of this library: its bare
text, once the log is configured. -/
def State.relay (state : State) (warning : String) : List Line :=
  if state.rootThreshold.isSome && state.admits Level.warning.severity then
    Line.ofText warning
  else []

end Midrange.Log
