import Midrange.Settings.Coercion
import Midrange.Settings.Json
import Midrange.Settings.VariableFile
import Midrange.Target
import Midrange.Text.LetterCase
import Midrange.Value.Key
import Midrange.Value.Sum

/-!
# Settings

Settings come from given values, from variables of the environment and from a
variable file, in this order of precedence.  All names are matched without letter
case, those of variables under the prefix of the library; the variable of the
further options holds JSON, and these options are merged from all sources.
-/

namespace Midrange

open Midrange.Settings

/-- The settings of connections and of the log. -/
structure Settings where
  host : Value
  port : Value
  user : Value
  password : Value
  database : Value
  timeout : Value
  dsn : Value
  extra : Fields Value
  logLevel : String
  jsonLogs : Option Bool

namespace Settings

/-- Where settings come from. -/
structure Sources where
  given : List (String × Value) := []
  environment : List (String × String) := []
  file : String := ""

/-- The sources that hold texts. -/
inductive TextSource where
  | environment
  | file
  deriving DecidableEq, Repr

/-- The name under which a source is reported. -/
def TextSource.name : TextSource → String
  | .environment => "EnvSettingsSource"
  | .file => "DotEnvSettingsSource"

/-- Why there are no settings. -/
inductive Failure where
  | unreadable (source : TextSource)
  | invalid (complaints : List Complaint)
  deriving DecidableEq, Repr

def unreadableText (source : TextSource) : String :=
  "error parsing value for field \"extra\" from source \"" ++ source.name ++ "\""

/-- The start of the names of variables, in small letters. -/
def variableStart : String := "ibmdb_"

/-- The names of the settings, in order of declaration. -/
def names : List String :=
  ["host", "port", "user", "password", "database", "timeout", "dsn", "extra",
    "log_level", "json_logs"]

/-- The values that callers give to settings.  Of several spellings of a name the
first one counts. -/
def ofGiven (given : List (String × Value)) : Fields Value :=
  let entries := (Fields.ofPairs given).entries
  Fields.ofPairs (names.filterMap fun name =>
    (entries.find? fun entry => Text.small entry.1 = name).map fun entry =>
      (name, entry.2))

/-- The values that a text source gives to settings.  Null further options are
not given. -/
def ofTexts (source : TextSource) (texts : Fields (Option String)) :
    Except Failure (Fields Value) :=
  let small : Fields (Option String) :=
    Fields.ofPairs (texts.entries.map fun entry => (Text.small entry.1, entry.2))
  let text? (name : String) : Option String :=
    (small.get? (variableStart ++ name)).bind id
  let plain : Fields Value :=
    Fields.ofPairs (names.filterMap fun name =>
      if name = "extra" then none
      else (text? name).map fun text => (name, .text text))
  match text? "extra" with
  | none => .ok plain
  | some text =>
      match Json.read? text with
      | none => .error (.unreadable source)
      | some .null => .ok plain
      | some value => .ok (plain.insert "extra" value)

mutual

def mergeEntries (below : List (Value × Value)) :
    List (Value × Value) → List (Value × Value)
  | [] => below
  | (key, value) :: above => mergeEntries (mergeEntry key value below) above

/-- Overrides the value under one key; dictionaries are merged. -/
def mergeEntry (key value : Value) :
    List (Value × Value) → List (Value × Value)
  | [] => [(key, value)]
  | (other, old) :: rest =>
      if other.sameKey key then
        (other, mergeValue old value) :: rest
      else
        (other, old) :: mergeEntry key value rest

def mergeValue (below above : Value) : Value :=
  match below, above with
  | .dict below, .dict above => .dict (mergeEntries below above)
  | _, above => above

end

/-- The values of one source overridden by those of another. -/
def merge (below above : Fields Value) : Fields Value :=
  above.entries.foldl
    (fun merged entry =>
      match merged.get? entry.1 with
      | some value => merged.insert entry.1 (mergeValue value entry.2)
      | none => merged.insert entry.1 entry.2)
    below

/-- What the sources give, merged from the highest precedence down. -/
def gather (sources : Sources) : Except Failure (Fields Value) := do
  let environment : Fields String := Fields.ofPairs sources.environment
  let fromEnvironment ←
    ofTexts .environment (environment.map fun _ text => some text)
  let fromFile ← ofTexts .file (VariableFile.read environment sources.file)
  return merge fromFile (merge fromEnvironment (ofGiven sources.given))

/-- The value of one setting, its default if it is not given. -/
def resolve {α ε : Type} (values : Fields Value) (default : α)
    (coerce : Value → Except ε α) (name : String) : Except ε α :=
  match values.get? name with
  | none => .ok default
  | some value => coerce value

/-- The value of a setting that has at most one flaw. -/
def resolvePlain {α : Type} (values : Fields Value) (default : α)
    (coerce : Value → Except Flaw α) (name : String) : Except (List Complaint) α :=
  (resolve values default coerce name).mapError fun flaw => [⟨[], flaw⟩]

def coerceLevel (value : Value) : Except Flaw String :=
  (coerceText value).map Value.toText

def coerceFlag (value : Value) : Except Flaw (Option Bool) :=
  (coerceOptional coerceTruth value).map fun value =>
    match value with
    | .bool truth => some truth
    | _ => none

/-- The complaints about one setting. -/
private def about {α : Type} (name : String) :
    Except (List Complaint) α → List Complaint
  | .ok _ => []
  | .error complaints =>
      complaints.map fun complaint =>
        { complaint with path := .name name :: complaint.path }

/-- The settings that values describe; all flaws are reported, in order of
declaration. -/
def ofValues (values : Fields Value) : Except Failure Settings :=
  let text := resolvePlain values .null (coerceOptional coerceText)
  let whole := resolvePlain values .null (coerceOptional coerceWhole)
  let host := resolvePlain values (.text "localhost") coerceText "host"
  let port := whole "port"
  let user := text "user"
  let password := text "password"
  let database := text "database"
  let timeout := whole "timeout"
  let dsn := text "dsn"
  let extra := resolve values ∅ coerceEntries "extra"
  let logLevel := resolvePlain values "INFO" coerceLevel "log_level"
  let jsonLogs := resolvePlain values none coerceFlag "json_logs"
  let settings : Except (List Complaint) Settings := do
    return {
      host := ← host
      port := ← port
      user := ← user
      password := ← password
      database := ← database
      timeout := ← timeout
      dsn := ← dsn
      extra := ← extra
      logLevel := ← logLevel
      jsonLogs := ← jsonLogs }
  match settings with
  | .ok settings => .ok settings
  | .error _ =>
      .error (.invalid (about "host" host ++ about "port" port ++
        about "user" user ++ about "password" password ++
        about "database" database ++ about "timeout" timeout ++
        about "dsn" dsn ++ about "extra" extra ++
        about "log_level" logLevel ++ about "json_logs" jsonLogs))

def load (sources : Sources) : Except Failure Settings := do
  ofValues (← gather sources)

def target (settings : Settings) : Target :=
  { host := settings.host
    port := settings.port
    user := settings.user
    password := settings.password
    database := settings.database
    timeout := settings.timeout
    extra := settings.extra }

/-- The data source of the settings: the given one, or else the identity of
their target, unless its port is too long to be written. -/
def dataSource (settings : Settings) : Except Fault String :=
  if settings.dsn.isTrue then .ok settings.dsn.toText
  else if settings.port.isLong then .error .longNumber
  else .ok settings.target.identity

/-- The options of the target of the settings.  A host takes in the port, which
then must not be too long to be written. -/
def options (settings : Settings) : Except Fault (Fields Value) :=
  if settings.host.isTrue && settings.port.isLong then .error .longNumber
  else .ok settings.target.options

end Settings

end Midrange
