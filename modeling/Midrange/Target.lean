import Midrange.Fields
import Midrange.Value

/-!
# Connection targets

A target says which store to connect to and as whom.  `Target.identity` is the
text that identifies the data source, and `Target.options` are the options that
the connector understands.
-/

namespace Midrange

/-- The settings that the connector understands and the caller's further
options.  A null member is not set.  Whole numbers among them have no more digits
than a numeral may have. -/
structure Target where
  host : Value := .null
  port : Value := .null
  user : Value := .null
  password : Value := .null
  database : Value := .null
  timeout : Value := .null
  extra : Fields Value := ∅

/-- Holds for every value but null. -/
def Value.isGiven : Value → Bool
  | .null => false
  | _ => true

namespace Options

/-- The option that holds the host, with the port if there is one. -/
def host : String := "host"

def user : String := "user"

def password : String := "password"

/-- The option that holds the name of the database. -/
def database : String := "database name"

def timeout : String := "query timeout mechanism"

/-- Options of other connectors; they are dropped. -/
def unsupported : List String :=
  ["charset", "connection_string", "connectionString", "database", "max", "port",
    "protocol", "socket_path", "socketPath", "ssl", "timeout", "type"]

end Options

namespace Target

/-- The host, followed by the port if both are set. -/
def address (target : Target) : Value :=
  if target.host.isTrue && target.port.isTrue then
    .text (target.host.toText ++ ":" ++ target.port.toText)
  else
    target.host

/-- The members of the target under their option names, without the null
ones. -/
def named (target : Target) : List (String × Value) :=
  [(Options.host, target.address), (Options.user, target.user),
    (Options.password, target.password), (Options.database, target.database),
    (Options.timeout, target.timeout)].filter fun entry =>
      match entry.2 with
      | .null => false
      | _ => true

/-- All members of a target under their option names. -/
def members (target : Target) : Fields Value :=
  .ofPairs [(Options.host, target.address), (Options.user, target.user),
    (Options.password, target.password), (Options.database, target.database),
    (Options.timeout, target.timeout)]

theorem entries_members (target : Target) :
    target.members.entries = [(Options.host, target.address), (Options.user, target.user),
      (Options.password, target.password), (Options.database, target.database),
      (Options.timeout, target.timeout)] := by
  refine Fields.entries_ofPairs ?_
  simp only [List.map_cons, List.map_nil]
  decide

theorem named_eq (target : Target) :
    target.named = target.members.entries.filter fun entry => entry.2.isGiven := by
  rw [entries_members]
  rfl

/-- The options of a target: the further options, less the unsupported ones,
overridden by the named members. -/
def options (target : Target) : Fields Value :=
  (target.extra.filter fun name _ => !Options.unsupported.contains name).insertAll
    target.named

private def whenTrue (value : Value) (render : String → String) : String :=
  if value.isTrue then render value.toText else ""

/-- The text that identifies the data source of a target. -/
def identity (target : Target) : String :=
  "ibmdb://" ++ whenTrue target.user (· ++ "@") ++ whenTrue target.host id ++
    whenTrue target.port (":" ++ ·) ++ "/" ++ whenTrue target.database id

private theorem toList_whenTrue (value : Value) (render : String → String) :
    (whenTrue value render).toList =
      if value.isTrue then (render value.toText).toList else [] := by
  rw [whenTrue]
  split <;> rfl

/-- The characters of an identity, part by part. -/
theorem toList_identity (target : Target) :
    target.identity.toList = "ibmdb://".toList ++
      ((if target.user.isTrue then target.user.toText.toList ++ ['@'] else []) ++
        ((if target.host.isTrue then target.host.toText.toList else []) ++
          ((if target.port.isTrue then ':' :: target.port.toText.toList else []) ++
            '/' :: if target.database.isTrue then target.database.toText.toList else []))) := by
  simp only [identity, String.toList_append, toList_whenTrue, List.append_assoc]
  rfl

end Target

end Midrange
