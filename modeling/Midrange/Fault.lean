import Midrange.Fault.Mismatch
import Midrange.Fields
import Midrange.Number.Sum
import Midrange.Value.Key

/-!
# Faults

A fault is what makes an operation fail: a structured error of this library,
an error of the store's driver or of the caller's own work, or a value of the
wrong form.  A structured error carries a category, a context and the fault
that caused it.
-/

namespace Midrange

/-- The kinds of structured errors. -/
inductive ErrorKind where
  | general
  | configuration
  | database
  | connection
  | query
  | unsupported
  deriving DecidableEq, Repr

namespace ErrorKind

/-- The name under which a kind is reported. -/
def name : ErrorKind → String
  | .general => "AdapterError"
  | .configuration => "ConfigError"
  | .database => "DatabaseError"
  | .connection => "DatabaseConnectionError"
  | .query => "QueryError"
  | .unsupported => "UnsupportedOperationError"

/-- All kinds, the more general ones first. -/
def all : List ErrorKind :=
  [.general, .configuration, .database, .connection, .query, .unsupported]

/-- Every kind is a general one; connection and query errors are database
errors. -/
def isA (kind ancestor : ErrorKind) : Bool :=
  kind = ancestor || ancestor = .general ||
    (ancestor = .database && (kind = .connection || kind = .query))

end ErrorKind

/-- The area that an error concerns. -/
inductive Category where
  | database
  | configuration
  | unsupported
  | internal
  deriving DecidableEq, Repr

/-- The name under which a category is reported. -/
def Category.name : Category → String
  | .database => "DATABASE"
  | .configuration => "CONFIG"
  | .unsupported => "UNSUPPORTED"
  | .internal => "INTERNAL"

/-- The category of a kind of error unless the error says otherwise. -/
def ErrorKind.category : ErrorKind → Category
  | .general => .internal
  | .configuration => .configuration
  | .database | .connection | .query => .database
  | .unsupported => .unsupported

/-- What stands in the place of the metadata of a context.  Only a caller who
replaces all members at once leaves anything else than fields there. -/
inductive Metadata where
  | fields (fields : Fields Value)
  | other (value : Value)
  | missing

/-- What was going on when an error arose.  A null member is absent.  `further`
are the names of members that are not part of the description, and `replacement`
is a value that the caller put in place of the description, which then has
none. -/
structure Context where
  dsn : Value := .null
  command : Value := .null
  sql : Value := .null
  bindings : Value := .null
  metadata : Metadata := .fields ∅
  further : List String := []
  replacement : Option Value := none

/-- A structured error. -/
structure AdapterError (Cause : Type) where
  kind : ErrorKind
  message : String
  category : Category
  context : Context := {}
  cause : Option Cause := none

/-- The kinds of errors that arise outside this library. -/
inductive OutsideKind where
  | runtime
  | value
  | key
  | system
  | timeout
  | cancelled
  deriving DecidableEq, Repr

/-- The name under which a kind is reported. -/
def OutsideKind.name : OutsideKind → String
  | .runtime => "RuntimeError"
  | .value => "ValueError"
  | .key => "KeyError"
  | .system => "OSError"
  | .timeout => "TimeoutError"
  | .cancelled => "CancelledError"

def OutsideKind.all : List OutsideKind :=
  [.runtime, .value, .key, .system, .timeout, .cancelled]

/-- What makes an operation fail. -/
inductive Fault where
  | adapter (error : AdapterError Fault)
  | outside (kind : OutsideKind) (message : String)
  | mismatch (mismatch : Mismatch)
  | missingMember (owner name : String)
  | unknownLevel (name : String)
  | fixedReference
  | invalidNumeral (numeral : String)
  | longNumeral (digits : Nat)
  | longNumber
  | immenseNumber
  | signal (signal : Number.Decimal.Signal)

instance : Inhabited Fault := ⟨.fixedReference⟩

namespace Fault

/-- The greatest number of digits that a numeral may have. -/
def numeralLimit : Nat := 4300

/-- The name under which a fault is reported. -/
def kindName : Fault → String
  | .adapter error => error.kind.name
  | .outside kind _ => kind.name
  | .mismatch _ => "TypeError"
  | .missingMember .. | .unknownLevel _ | .fixedReference => "AttributeError"
  | .invalidNumeral _ | .longNumeral _ | .longNumber => "ValueError"
  | .immenseNumber => "OverflowError"
  | .signal raised => raised.name

private def limitText (excess : String) : String :=
  "Exceeds the limit (" ++ toString numeralLimit ++
    " digits) for integer string conversion" ++ excess ++
    "; use sys.set_int_max_str_digits() to increase the limit"

/-- The wording of a fault.  A missing key is worded by its quoted name. -/
def text : Fault → String
  | .adapter error => error.message
  | .outside .key message => Text.quoted message
  | .outside _ message => message
  | .mismatch use => use.text
  | .missingMember owner name =>
      "'" ++ owner ++ "' object has no attribute '" ++ name ++ "'"
  | .unknownLevel name => "module 'logging' has no attribute '" ++ name ++ "'"
  | .fixedReference =>
      "attribute '__weakref__' of 'ErrorContext' objects is not writable"
  | .invalidNumeral numeral =>
      "invalid literal for int() with base 10: " ++
        String.ofList ((Text.quoted numeral).toList.take 200)
  | .longNumeral digits =>
      limitText (": value has " ++ toString digits ++ " digits")
  | .longNumber => limitText ""
  | .immenseNumber => "int too large to convert to float"
  | .signal raised => "[<class 'decimal." ++ raised.name ++ "'>]"

/-- Every fault but a cancellation can be handled as an error. -/
def isOrdinary : Fault → Bool
  | .outside .cancelled _ => false
  | _ => true

end Fault

namespace Context

/-- Names that a context answers to by itself.  A value given under one of them
is taken without becoming part of the description. -/
def ownNames : List String :=
  ["__annotations__", "__dataclass_fields__", "__dataclass_params__",
    "__delattr__", "__dir__", "__doc__", "__eq__", "__format__", "__ge__",
    "__getattribute__", "__getstate__", "__gt__", "__hash__", "__init__",
    "__init_subclass__", "__le__", "__lt__", "__match_args__", "__module__",
    "__ne__", "__new__", "__reduce__", "__reduce_ex__", "__repr__",
    "__setattr__", "__sizeof__", "__str__", "__subclasshook__"]

private def member (entries : List (Value × Value)) (name : String) :
    Option Value :=
  (entries.find? fun entry => entry.1.sameKey (.text name)).map (·.2)

private def textOf? : Value → Option String
  | .text content => some content
  | _ => none

private def namesOf (entries : List (Value × Value)) : List String :=
  entries.filterMap fun entry => textOf? entry.1

/-- Entries as fields; a key that is not a text is named by its text. -/
private def fieldsOf (entries : List (Value × Value)) : Fields Value :=
  Fields.ofPairs (entries.map fun entry => (entry.1.toText, entry.2))

/-- The context whose members are the entries of a dictionary. -/
def ofMembers (entries : List (Value × Value)) : Context :=
  let value (name : String) := (member entries name).getD .null
  { dsn := value "dsn"
    command := value "command"
    sql := value "sql"
    bindings := value "bindings"
    metadata :=
      match member entries "metadata" with
      | none => .missing
      | some (.dict metadata) => .fields (fieldsOf metadata)
      | some other => .other other
    further := namesOf entries
    replacement := member entries "to_dict" }

def Metadata.insert (name : String) (value : Value) :
    Metadata → Except Fault Metadata
  | .fields fields => .ok (.fields (fields.insert name value))
  | .other (.list _) => .error (.mismatch .textIndex)
  | .other other => .error (.mismatch (.fixedItems other.kindName))
  | .missing => .error (.missingMember "ErrorContext" "metadata")

/-- Records a value under a name.  The four named members take their values,
any other name goes into the metadata, and a few names are not free. -/
def record (context : Context) (name : String) (value : Value) :
    Except Fault Context :=
  match name with
  | "dsn" => .ok { context with dsn := value }
  | "command" => .ok { context with command := value }
  | "sql" => .ok { context with sql := value }
  | "bindings" => .ok { context with bindings := value }
  | "to_dict" => .ok { context with replacement := some value }
  | "self" =>
      .error (.mismatch (.doubledArgument "AdapterError.with_context" "self"))
  | "__class__" => .error (.mismatch (.fixedClass value.kindName))
  | "__weakref__" => .error .fixedReference
  | "__dict__" =>
      match value with
      | .dict entries => .ok (ofMembers entries)
      | _ => .error (.mismatch (.fixedMembers value.kindName))
  | _ =>
      if name ≠ "metadata" ∧ (name ∈ ownNames ∨ name ∈ context.further) then
        .ok context
      else do
        let metadata ← Metadata.insert name value context.metadata
        return { context with metadata }

def recordAll (context : Context) (values : List (String × Value)) :
    Except Fault Context :=
  values.foldlM (fun context pair => context.record pair.1 pair.2) context

private def present (fields : Fields Value) (name : String) : Value → Fields Value
  | .null => fields
  | value => fields.insert name value

/-- One name and its value out of a collection of pairs. -/
private def pairOf (position : Nat) (pair : Value) :
    Except Fault (String × Value) :=
  match pair.items? with
  | none => .error (.mismatch (.notASequence position))
  | some [name, value] => .ok (name.toText, value)
  | some items =>
      .error (.outside .value ("dictionary update sequence element #" ++
        toString position ++ " has length " ++ toString items.length ++
        "; 2 is required"))

/-- The fields that the metadata adds to a description.  Anything that counts as
nothing adds none, and a collection is read as pairs. -/
def Metadata.toPairs : Metadata → Except Fault (List (String × Value))
  | .fields fields => .ok fields.entries
  | .missing => .error (.missingMember "ErrorContext" "metadata")
  | .other value =>
      if value.isTrue then
        match value.items? with
        | none => .error (.mismatch (.notIterable value.kindName))
        | some items =>
            (items.zipIdx).mapM fun (pair, position) => pairOf position pair
      else
        .ok []

/-- The bindings of a description, as a list if there are any. -/
private def withBindings (named : Fields Value) : Value → Except Fault (Fields Value)
  | .null => .ok named
  | bindings =>
      match bindings.items? with
      | some items => .ok (named.insert "bindings" (.list items))
      | none => .error (.mismatch (.notIterable bindings.kindName))

/-- The description of a context: its members that are not null, bindings as a
list, and then the metadata, which overrides members of the same name. -/
def toFields (context : Context) : Except Fault (Fields Value) :=
  match context.replacement with
  | some value => .error (.mismatch (.notCallable value.kindName))
  | none => do
      let named ← withBindings (present (present (present ∅ "dsn" context.dsn)
        "command" context.command) "sql" context.sql) context.bindings
      return named.insertAll (← Metadata.toPairs context.metadata)

/-- A member that is not null. -/
def shown? : Value → Option Value
  | .null => none
  | value => some value

/-- Bindings as a list, if there are any. -/
def listing? : Value → Option Value
  | .null => none
  | bindings => bindings.items?.map .list

/-- The member of a name. -/
def member? (context : Context) (name : String) : Option Value :=
  match name with
  | "dsn" => some context.dsn
  | "command" => some context.command
  | "sql" => some context.sql
  | "bindings" => some context.bindings
  | _ => none

/-- A member as the description tells it. -/
def tell (name : String) (value : Value) : Option Value :=
  if name = "bindings" then listing? value else shown? value

private theorem get?_present (fields : Fields Value) (name other : String) (value : Value) :
    (present fields name value).get? other =
      if other = name then (shown? value).or (fields.get? other) else fields.get? other := by
  by_cases same : other = name
  · subst same
    cases value <;> simp [present, shown?]
  · cases value <;> simp [present, same, Fields.get?_insert_of_ne]

private theorem withBindings_listed (named : Fields Value) {bindings : Value}
    (listed : bindings = .null ∨ bindings.items?.isSome = true) :
    ∃ fields, withBindings named bindings = .ok fields ∧ ∀ name, fields.get? name =
      if name = "bindings" then (listing? bindings).or (named.get? name) else named.get? name := by
  rcases listed with rfl | items
  · exact ⟨named, rfl, fun name => by simp [listing?]⟩
  · obtain ⟨items, found⟩ := Option.isSome_iff_exists.mp items
    have given : bindings ≠ .null := by
      rintro rfl
      cases found
    refine ⟨named.insert "bindings" (.list items), ?_, fun name => ?_⟩
    · simp [withBindings, found]
    · have list : listing? bindings = some (.list items) := by
        simp [listing?, found]
      by_cases same : name = "bindings"
      · simp [same, list]
      · simp [same, Fields.get?_insert_of_ne]

/-- The metadata of a description stand before the members of the context. -/
theorem toFields_of_fields {context : Context} {metadata : Fields Value}
    (own : context.replacement = none) (fields : context.metadata = .fields metadata)
    (listed : context.bindings = .null ∨ context.bindings.items?.isSome = true) :
    ∃ described, context.toFields = .ok described ∧
      ∀ name, described.get? name =
        (metadata.get? name).or ((context.member? name).bind (tell name)) := by
  obtain ⟨named, bound, found⟩ := withBindings_listed (present (present (present ∅ "dsn"
    context.dsn) "command" context.command) "sql" context.sql) listed
  refine ⟨named.insertAll metadata.entries, ?_, fun name => ?_⟩
  · simp only [toFields, own, bound, fields, Metadata.toPairs]
    rfl
  · have member : named.get? name = (context.member? name).bind (tell name) := by
      have nothing : (∅ : Fields Value).get? name = none := rfl
      unfold member?
      split
      all_goals simp_all [get?_present, tell]
    rw [Fields.get?_insertAll, member]

end Context

namespace AdapterError

/-- An error of a kind, in the category of that kind unless one is given. -/
def of (kind : ErrorKind) (message : String)
    (category : Option Category := none) (context : Context := {})
    (cause : Option Fault := none) : AdapterError Fault :=
  { kind, message, category := category.getD kind.category, context, cause }

/-- A failed statement; its context always has the statement and the bindings. -/
def ofQuery (message : String) (sql bindings : Value) (context : Context := {})
    (cause : Option Fault := none) : AdapterError Fault :=
  of .query message none { context with sql, bindings } cause

/-- Adds values to the context of an error. -/
def withContext (error : AdapterError Fault) (values : List (String × Value)) :
    Except Fault (AdapterError Fault) := do
  let context ← error.context.recordAll values
  return { error with context }

/-- The statement of an error, empty if there is none. -/
def sql (error : AdapterError Fault) : Value :=
  if error.context.sql.isTrue then error.context.sql else .text ""

def bindings (error : AdapterError Fault) : Value :=
  error.context.bindings

/-- The full report of an error. -/
structure Report where
  kind : String
  message : String
  category : String
  context : Fields Value
  cause : Option String

/-- The report of an error, unless its context cannot be described. -/
def report (error : AdapterError Fault) : Except Fault Report := do
  let context ← error.context.toFields
  return {
    kind := error.kind.name
    message := error.message
    category := error.category.name
    context
    cause := error.cause.map Fault.text }

def display (error : AdapterError Fault) : String :=
  error.kind.name ++ "(" ++ Text.quoted error.message ++ ", category=" ++
    error.category.name ++ ")"

end AdapterError

/-- Uses that this library refuses. -/
inductive Misuse where
  | notConnected
  | poolClosed
  | scopeEnded
  | nestedTransaction
  | reconnectInTransaction
  | explicitCommit
  | explicitRollback
  | missingDriver
  deriving DecidableEq, Repr

namespace Misuse

/-- The kind of error that reports a misuse. -/
def kind : Misuse → ErrorKind
  | .notConnected | .poolClosed | .scopeEnded => .connection
  | .nestedTransaction | .reconnectInTransaction => .unsupported
  | .explicitCommit | .explicitRollback => .unsupported
  | .missingDriver => .configuration

def message : Misuse → String
  | .notConnected => "Session is not connected"
  | .poolClosed => "Pool has been torn down"
  | .scopeEnded => "Transaction scope has ended"
  | .nestedTransaction => "Nested transactions are not supported"
  | .reconnectInTransaction => "Cannot reconnect inside a transaction"
  | .explicitCommit =>
      "Explicit commit is not supported; transactions commit when their scope completes"
  | .explicitRollback =>
      "Explicit rollback is not supported; transactions roll back when their scope raises"
  | .missingDriver =>
      "ibm-db is required for the default connector. Install with: pip install ibm-db"

def fault (misuse : Misuse) : Fault :=
  .adapter (.of misuse.kind misuse.message)

end Misuse

end Midrange
