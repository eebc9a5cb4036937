import Midrange.Event
import Midrange.Fault
import Midrange.Text.LetterCase

/-!
# Log configuration

The log has a service name, a current configuration, a threshold of its own
that only the first configuration sets, and bound context fields.  A logger
takes over the configuration at its first use and keeps it.

Before the first configuration a logger works with the standard setup of the
logging library, which is a parameter here.  A logger that is used then does not
keep it, but one that is bound to fields is made with it for good.
-/

namespace Midrange.Log

/-- One printed line. -/
inductive Line where
  | json (fields : Fields Value)
  | text (content : String)

/-- The time at which an event is logged, and the calls that it is logged in, as
they are written in a line. -/
structure Moment where
  time : String
  calls : String := ""

/-- The standard setup of the logging library: what an event with these fields
prints. -/
abbrev Standard := Moment → Level → Fields Value → Except Fault (List Line)

/-- What a logger takes over: the least severity of the events that it lets
through, whether lines are JSON, and whether they carry a time. -/
structure Configuration where
  threshold : Nat
  json : Bool
  stamped : Bool
  deriving DecidableEq, Repr

/-- The level names of configurations with their severities. -/
def levelNames : List (String × Nat) :=
  [("NOTSET", 0), ("DEBUG", 10), ("INFO", 20), ("WARN", 30), ("WARNING", 30),
    ("ERROR", 40), ("FATAL", 50), ("CRITICAL", 50)]

/-- The fault of a level name in capitals that has no severity.  Two names stand
for other things: the form of a plain line, and the table of forms. -/
def levelFault : String → Fault
  | "BASIC_FORMAT" => .outside .key "%(levelname)s:%(name)s:%(message)s"
  | "_STYLES" => .mismatch (.notHashable "dict")
  | name => .unknownLevel name

/-- The severity of a level name in any letter case. -/
def severityOf : Value → Except Fault Nat
  | .text level =>
      let name := Text.capital level
      match levelNames.lookup name with
      | some severity => .ok severity
      | none => .error (levelFault name)
  | level => .error (.missingMember level.kindName "upper")

/-- The first of the fields whose name is already taken. -/
def doubled? (taken : List String) (fields : List (String × Value)) :
    Option String :=
  (fields.find? fun field => taken.contains field.1).map (·.1)

/-- What a logger works with. -/
inductive Setup where
  | standard
  | given (configuration : Configuration)
  deriving DecidableEq, Repr

/-- A logger: its name, the fields bound to it, and the setup that it has taken
over for good, if any. -/
structure Logger where
  name : String
  bound : Fields Value := ∅
  taken : Option Setup := none

/-- The state of the log.  `own` holds the configurations that the loggers of
this library have taken over. -/
structure State where
  standard : Standard
  service : Value := .text "ibmdb-adapter"
  current : Option Configuration := none
  rootThreshold : Option Nat := none
  context : Fields Value := ∅
  own : Fields Configuration := ∅

namespace State

/-- A request for a new configuration.  Lines are JSON by default unless they
go to a terminal. -/
structure Request where
  level : Value := .text "INFO"
  json : Option Bool := none
  service : Value := .text "ibmdb-adapter"
  stamped : Bool := true

/-- Configures the log.  The service name changes even if the level turns out to
have no severity; nothing else does then. -/
def configure (terminal : Bool) (request : Request) (state : State) :
    Except Fault Unit × State :=
  let state := { state with service := request.service }
  match severityOf request.level with
  | .error fault => (.error fault, state)
  | .ok threshold =>
      let json := request.json.getD (!terminal)
      (.ok (),
        { state with
          current := some { threshold, json, stamped := request.stamped }
          rootThreshold := some (state.rootThreshold.getD threshold) })

/-- What a logger works with that has taken over nothing. -/
def setup (state : State) : Setup :=
  state.current.elim .standard .given

/-- A logger of this library, by its name. -/
def ownLogger (name : String) (state : State) : Logger :=
  { name, taken := (state.own.get? name).map .given }

/-- A logger of this library is used: it keeps its configuration, if it has one. -/
def employ (name : String) (state : State) : State :=
  { state with
    own :=
      match state.own.get? name <|> state.current with
      | some configuration => state.own.insert name configuration
      | none => state.own }

def bind (fields : List (String × Value)) (state : State) : State :=
  { state with context := state.context.insertAll fields }

def unbind (names : List String) (state : State) : State :=
  { state with context := state.context.filter fun name _ => !names.contains name }

def clear (state : State) : State :=
  { state with context := ∅ }

/-- Enters a scope of context fields, which the scope itself must not share a
name with. -/
def enter (fields : Fields Value) (state : State) : Except Fault State :=
  match doubled? ["self"] fields.entries with
  | some name => .error (.mismatch (.doubledArgument "LogContext.__init__" name))
  | none => .ok (state.bind fields.entries)

/-- Leaves a scope of context fields: its names are removed. -/
def leave (fields : Fields Value) (state : State) : State :=
  state.unbind fields.names

end State

namespace Logger

/-- What a logger works with: its own setup, or the present one. -/
def setup (state : State) (logger : Logger) : Setup :=
  logger.taken.getD state.setup

/-- The logger after a use: it keeps a configuration, but not the standard
setup. -/
def use (state : State) (logger : Logger) : Logger :=
  { logger with taken := logger.taken <|> state.current.map .given }

/-- The operation that binds fields to a logger: the first one sets the logger
up. -/
def bindOperation (logger : Logger) : String :=
  if logger.taken.isSome then "BoundLoggerBase.bind" else "BoundLoggerLazyProxy.bind"

/-- The logger after a use, and one with further bound fields.  What the logger
works with is the setup of the new one for good. -/
def child (state : State) (fields : List (String × Value)) (logger : Logger) :
    Except Fault (Logger × Logger) :=
  match doubled? ["self"] fields with
  | some name => .error (.mismatch (.doubledArgument logger.bindOperation name))
  | none =>
      .ok (logger.use state,
        { logger with
          taken := some (logger.setup state)
          bound := logger.bound.insertAll fields })

/-- A logger without a name is the root. -/
def shownName (logger : Logger) : String :=
  if logger.name = "" then "root" else logger.name

end Logger

end Midrange.Log
