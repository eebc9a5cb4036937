import Midrange.Target
import Midrange.Text.Blank

/-!
# Connection strings

The driver is given its options as `KEY=VALUE;` keywords.  A value that the
grammar would split, or that has blanks at an end, stands in braces, and a
closing brace in it is doubled.
-/

namespace Midrange.Options

open Midrange.Text

/-- The port of a host that names none. -/
def defaultPort : Int := 50000

/-- The host of options that name none. -/
def defaultHost : String := "localhost"

/-- The options that have keywords or uses of their own. -/
def mapped : List String := [host, user, password, database, timeout]

/-- Characters that the grammar of connection strings gives a meaning. -/
def isSpecial (character : Char) : Bool :=
  character = ';' || character = '=' || character = '{' || character = '}'

/-- The text with every closing brace doubled. -/
def doubleBraces (characters : List Char) : List Char :=
  characters.flatMap fun character =>
    if character = '}' then ['}', '}'] else [character]

/-- The value of a keyword, in braces if it needs them. -/
def keywordValue (characters : List Char) : List Char :=
  if characters.any isSpecial || characters ≠ trim characters then
    '{' :: doubleBraces characters ++ ['}']
  else
    characters

/-- The text up to the first colon and the text after it. -/
def splitAddress (characters : List Char) : List Char × List Char :=
  (characters.takeWhile (· ≠ ':'), (characters.dropWhile (· ≠ ':')).drop 1)

private def orEmpty (options : Fields Value) (name : String) : Value :=
  match options.get? name with
  | some value => if value.isTrue then value else .text ""
  | none => .text ""

/-- The text of an option, or another text if the option is missing or false. -/
def textOr (options : Fields Value) (name other : String) : String :=
  match options.get? name with
  | some value => if value.isTrue then value.toText else other
  | none => other

private theorem toText_orEmpty (options : Fields Value) (name : String) :
    (orEmpty options name).toText = textOr options name "" := by
  rw [orEmpty, textOr]
  cases options.get? name with
  | none => rfl
  | some value =>
      by_cases isTrue : value.isTrue = true
      · simp [isTrue]
      · simp [isTrue, Value.toText]

private theorem toText_or_defaultHost (options : Fields Value) :
    (if (orEmpty options host).isTrue then (orEmpty options host).toText else defaultHost) =
      textOr options host defaultHost := by
  rw [orEmpty, textOr]
  cases options.get? host with
  | none => rfl
  | some value =>
      by_cases isTrue : value.isTrue = true
      · simp only [isTrue, if_true]
      · simp only [isTrue]
        rfl

def address (options : Fields Value) : String × Value :=
  let given := orEmpty options host
  let text := if given.isTrue then given.toText else defaultHost
  let (name, port) := splitAddress text.toList
  (String.ofList name,
    if port.isEmpty then .int defaultPort else .text (String.ofList port))

theorem address_eq (options : Fields Value) :
    address options =
      let (name, port) := splitAddress (textOr options host defaultHost).toList
      (String.ofList name,
        if port.isEmpty then .int defaultPort else .text (String.ofList port)) := by
  rw [← toText_or_defaultHost]
  rfl

/-- The keywords of options: the six of every connection, then the options that
are neither mapped nor null.  An option that is spelled like a keyword replaces
its value. -/
def keywords (options : Fields Value) : Fields Value :=
  let (hostname, port) := address options
  let base := Fields.ofPairs [
    ("DATABASE", orEmpty options database),
    ("HOSTNAME", .text hostname),
    ("PORT", port),
    ("PROTOCOL", .text "TCPIP"),
    ("UID", orEmpty options user),
    ("PWD", orEmpty options password)]
  base.insertAll (options.entries.filter fun entry =>
    !mapped.contains entry.1 &&
      match entry.2 with
      | .null => false
      | _ => true)

/-- The text of an option that has no use of its own and is not null. -/
def further? (options : Fields Value) (name : String) : Option String :=
  if mapped.contains name then
    none
  else
    match options.get? name with
    | none | some .null => none
    | some value => some value.toText

/-- The texts of the six keywords of every connection. -/
def standard (options : Fields Value) : List (String × String) :=
  let (hostname, port) := splitAddress (textOr options host defaultHost).toList
  [("DATABASE", textOr options database ""),
    ("HOSTNAME", String.ofList hostname),
    ("PORT", if port.isEmpty then "50000" else String.ofList port),
    ("PROTOCOL", "TCPIP"),
    ("UID", textOr options user ""),
    ("PWD", textOr options password "")]

/-- The texts of all keywords: the six, with the further options of their names in
their place, then the other further options. -/
def listed (options : Fields Value) : List (String × String) :=
  let six := standard options
  six.map (fun entry => (entry.1, (further? options entry.1).getD entry.2)) ++
    (options.names.filter (· ∉ six.map (·.1))).filterMap fun name =>
      (further? options name).map fun text => (name, text)

theorem names_standard (options : Fields Value) :
    (standard options).map (·.1) = ["DATABASE", "HOSTNAME", "PORT", "PROTOCOL", "UID", "PWD"] :=
  rfl

private def isFurther (name : String) (value : Value) : Bool :=
  !mapped.contains name &&
    match value with
    | .null => false
    | _ => true

private theorem further?_eq (options : Fields Value) (name : String) :
    further? options name = ((options.filter isFurther).get? name).map Value.toText := by
  rw [further?, Fields.get?_filter]
  by_cases own : name ∈ mapped
  · have dropped : (options.get? name).filter (isFurther name) = none := by
      cases options.get? name <;> simp [isFurther, own]
    rw [if_pos (List.contains_iff_mem.mpr own), dropped]
    rfl
  · rw [if_neg (mt List.contains_iff_mem.mp own)]
    cases options.get? name with
    | none => rfl
    | some value => cases value <;> simp [Option.filter, isFurther, own]

/-- Further options have the texts that are looked up under their names. -/
private theorem texts_filter (options : Fields Value) (fresh : String → Bool)
    {entries : List (String × Value)} (within : ∀ entry ∈ entries, entry ∈ options.entries) :
    (((entries.filter fun entry => isFurther entry.1 entry.2).filter fun entry =>
        fresh entry.1).map fun entry => (entry.1, entry.2.toText)) =
      ((entries.map (·.1)).filter fresh).filterMap fun name =>
        (further? options name).map fun text => (name, text) := by
  induction entries with
  | nil => rfl
  | cons entry rest induction =>
      have found := Fields.get?_of_mem (within entry List.mem_cons_self)
      have looked : further? options entry.1 =
          if isFurther entry.1 entry.2 then some entry.2.toText else none := by
        rw [further?_eq, Fields.get?_filter, found, Option.filter_some]
        split <;> rfl
      have rest' := induction fun other member => within other (List.mem_cons_of_mem _ member)
      rw [List.filter_filter] at rest' ⊢
      by_cases new : fresh entry.1 = true <;>
        by_cases keeps : isFurther entry.1 entry.2 = true <;>
        simp [new, keeps, looked, rest']

/-- The keywords have the texts of the list under its names. -/
theorem texts_keywords (options : Fields Value) :
    (keywords options).entries.map (fun entry => (entry.1, entry.2.toText)) =
      listed options := by
  let six : List (String × Value) := [
    ("DATABASE", orEmpty options database),
    ("HOSTNAME", .text (address options).1),
    ("PORT", (address options).2),
    ("PROTOCOL", .text "TCPIP"),
    ("UID", orEmpty options user),
    ("PWD", orEmpty options password)]
  have distinct : (six.map (·.1)).Nodup := by
    simp [six]
  have texts : six.map (fun entry => (entry.1, entry.2.toText)) = standard options := by
    simp only [six, address_eq, standard, List.map_cons, List.map_nil, toText_orEmpty]
    split <;> rfl
  have entries : (keywords options).entries =
      (six.map fun entry =>
        (entry.1, ((options.filter isFurther).get? entry.1).getD entry.2)) ++
        ((options.filter isFurther).entries.filter fun entry => entry.1 ∉ six.map (·.1)) := by
    have inserted := Fields.entries_insertAll (Fields.ofPairs six) (options.filter isFurther)
    rwa [Fields.names, Fields.entries_ofPairs distinct] at inserted
  have replaced (entry : String × Value) :
      (((options.filter isFurther).get? entry.1).getD entry.2).toText =
        (further? options entry.1).getD entry.2.toText := by
    rw [further?_eq]
    cases (options.filter isFurther).get? entry.1 <;> rfl
  have added := texts_filter options (fun name => name ∉ six.map (·.1))
    fun _ member => member
  rw [entries, List.map_append, List.map_map, listed, ← texts, List.map_map, List.map_map]
  simp only [Function.comp_def, replaced]
  exact congrArg _ added

/-- One keyword with its value. -/
def keyword (name : String) (value : Value) : List Char :=
  name.toList ++ '=' :: keywordValue value.toText.toList ++ [';']

def connectionString (options : Fields Value) : String :=
  String.ofList ((keywords options).entries.flatMap fun entry =>
    keyword entry.1 entry.2)

end Midrange.Options
