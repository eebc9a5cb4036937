import Midrange.Log.Configuration
import Midrange.Text.Blank

/-!
# Log lines

An event that passes the thresholds becomes a JSON object or lines of text.
`lineFields` collects the fields that are shown.
-/

namespace Midrange.Log

open Midrange.Text

/-- How an event is logged.  `exception` is logged as an error and marks it. -/
inductive Method where
  | ordinary (level : Level)
  | exception
  deriving DecidableEq, Repr

def Method.toLevel : Method → Level
  | .ordinary level => level
  | .exception => .error

def Line.ofText (text : String) : List Line :=
  (splitAt '\n' text.toList).map fun line => .text (String.ofList line)

/-- The fields of the call; an exception is marked unless the call says
otherwise. -/
def callFields (method : Method) (fields : List (String × Value)) : Fields Value :=
  let given := Fields.ofPairs fields
  match method with
  | .exception =>
      if given.contains "exc_info" then given else given.insert "exc_info" (.bool true)
  | .ordinary _ => given

/-- Adds the values of the names that are not there yet. -/
def addMissing (fields additions : Fields Value) : Fields Value :=
  additions.entries.foldl
    (fun fields entry =>
      if fields.contains entry.1 then fields else fields.insert entry.1 entry.2)
    fields

/-- The event among the fields, unless it is null. -/
def withEvent (event : Value) (fields : Fields Value) : Fields Value :=
  match event with
  | .null => fields
  | event => fields.insert "event" event

/-- The name that a line shows for a logger.  A record among the fields would be
asked for its name, and no value has one. -/
def nameFor (logger : Logger) (fields : Fields Value) : Except Fault String :=
  match (fields.get? "_record").getD .null with
  | .null => .ok logger.shownName
  | record => .error (.missingMember record.kindName "name")

/-- The fields of an event, but for its time: the bound fields, overridden by
those of the call, the event, and the context where it adds something. -/
def eventFields (state : State) (logger : Logger) (method : Method) (event : Value)
    (fields : List (String × Value)) : Fields Value :=
  addMissing (withEvent event (logger.bound.insertAll (callFields method fields).entries))
    state.context

/-- The calls that the event is logged in, if its fields ask for them. -/
def withCalls (moment : Moment) (fields : Fields Value) : Fields Value :=
  let plain := fields.erase "stack_info"
  if ((fields.get? "stack_info").getD .null).isTrue then
    plain.insert "stack" (.text moment.calls)
  else plain

/-- All fields of a line: the bound fields, overridden by those of the call, the
event and the time, then the context where it adds something, then the level,
the logger, the calls and the service. -/
def lineFields (state : State) (configuration : Configuration) (logger : Logger)
    (moment : Moment) (method : Method) (event : Value)
    (fields : List (String × Value)) : Except Fault (Fields Value) := do
  let called := logger.bound.insertAll (callFields method fields).entries
  let named := withEvent event called
  let stamped :=
    if configuration.stamped then named.insert "timestamp" (.text moment.time) else named
  let merged := addMissing stamped state.context
  let name ← nameFor logger merged
  let levelled := (merged.insert "level" (.text method.toLevel.name)).insert
    "logger" (.text name)
  let plain := withCalls moment levelled
  return if plain.contains "service.name" then plain
    else plain.insert "service.name" state.service

end Midrange.Log
