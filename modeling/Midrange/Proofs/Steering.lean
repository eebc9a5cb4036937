import Midrange.Proofs.Identity

/-!
# What steers a connection

Five keywords lead a connection to its store and say as whom: the database, the host, its
port, the user and the password.  A target that names them all still takes further options,
and those go into the same connection string.  The values of further options cannot leave
their place there, but nothing keeps their names in place: one that is spelled like a keyword
takes the place of the target's own, and one that runs on behind the mark of a value can
bring keywords of its own.

The five keywords are steady exactly if no further option does either.
-/

namespace Midrange

namespace Options

variable {options : Fields Value} {name : String}

/-- The keywords that lead a connection to its store, as its user. -/
def steering : List String := ["DATABASE", "HOSTNAME", "PORT", "UID", "PWD"]

theorem steering_free : ∀ name ∈ steering, name ∉ mapped ∧ name ∉ unsupported := by
  decide

/-- The values that a connection string has for a keyword, if it can be read. -/
def valuesOf? (options : Fields Value) (name : String) : Option (List String) :=
  (readKeywords? (connectionString options).toList).map fun entries =>
    (entries.filter (·.1 = name)).map (·.2)

/-- The six keywords of every connection, with the texts of the further options that are
spelled like them. -/
def placed (options : Fields Value) : List (String × String) :=
  (standard options).map fun entry => (entry.1, (further? options entry.1).getD entry.2)

/-- The further options that are not spelled like one of the six. -/
def added (options : Fields Value) : List (String × String) :=
  (options.names.filter (· ∉ (standard options).map (·.1))).filterMap fun name =>
    (further? options name).map fun text => (name, text)

/-- What a connection string has behind the six keywords. -/
def appendix (options : Fields Value) : List Char :=
  (added options).flatMap fun entry => keyword entry.1 (.text entry.2)

/-- The value that one of the six keywords has in its place. -/
def ownValue (options : Fields Value) (name : String) : String :=
  (further? options name).getD (((standard options).lookup name).getD "")

theorem toList_connectionString (options : Fields Value) :
    (connectionString options).toList =
      ((placed options).map fun entry => (entry.1, Value.text entry.2)).flatMap
          (fun entry => keyword entry.1 entry.2) ++ appendix options := by
  have texts : (connectionString options).toList =
      (listed options).flatMap fun entry => keyword entry.1 (.text entry.2) := by
    rw [← texts_keywords, List.flatMap_map, connectionString, String.toList_ofList]
    rfl
  rw [texts, List.flatMap_map]
  exact List.flatMap_append

/-- The six keywords are read in their places, and behind them what the rest is read as. -/
theorem readKeywords?_connectionString (options : Fields Value) :
    readKeywords? (connectionString options).toList =
      (readKeywords? (appendix options)).map (placed options ++ ·) := by
  have plain : ∀ entry ∈ (placed options).map fun entry => (entry.1, Value.text entry.2),
      '=' ∉ entry.1.toList := by
    intro entry member
    have named : entry.1 ∈ (standard options).map (·.1) := by
      obtain ⟨own, within, rfl⟩ := List.mem_map.mp member
      obtain ⟨six, six', rfl⟩ := List.mem_map.mp within
      exact List.mem_map.mpr ⟨six, six', rfl⟩
    have bare : ∀ name ∈ (standard options).map (·.1), '=' ∉ name.toList := by
      rw [names_standard]
      decide
    exact bare _ named
  have texts : ((placed options).map fun entry => (entry.1, Value.text entry.2)).map
      (fun entry => (entry.1, entry.2.toText)) = placed options := by
    rw [List.map_map]
    exact List.map_id _
  rw [toList_connectionString, readKeywords?_append plain, texts]

/-- A steering keyword has one value in its place, and those that the rest of the connection
string adds. -/
theorem valuesOf?_steering (steers : name ∈ steering) :
    valuesOf? options name = (readKeywords? (appendix options)).map fun entries =>
      ownValue options name :: (entries.filter (·.1 = name)).map (·.2) := by
  have own : ((placed options).filter (·.1 = name)).map (·.2) = [ownValue options name] := by
    simp only [steering, List.mem_cons, List.not_mem_nil, or_false] at steers
    rcases steers with rfl | rfl | rfl | rfl | rfl <;> rfl
  rw [valuesOf?, readKeywords?_connectionString, Option.map_map]
  refine congrArg (Option.map · _) (funext fun entries => ?_)
  simp only [Function.comp_apply, List.filter_append, List.map_append, own]
  rfl

/-- Names without the mark that stands before a value stay in their place, and so nothing is
added to the steering keywords. -/
theorem appendix_plain (plain : ∀ name ∈ options.names, '=' ∉ name.toList) :
    readKeywords? (appendix options) = some (added options) ∧
      ∀ entry ∈ added options, entry.1 ∉ steering := by
  have names {entry : String × String} (member : entry ∈ added options) :
      entry.1 ∈ options.names ∧ entry.1 ∉ (standard options).map (·.1) := by
    obtain ⟨name, given, text⟩ := List.mem_filterMap.mp member
    obtain ⟨text, _, rfl⟩ := Option.map_eq_some_iff.mp text
    simpa using given
  constructor
  · have unmarked : ∀ entry ∈ (added options).map fun entry => (entry.1, Value.text entry.2),
        '=' ∉ entry.1.toList := by
      intro entry member
      obtain ⟨own, within, rfl⟩ := List.mem_map.mp member
      exact plain _ (names within).1
    have read := readKeywords?_flatMap unmarked
    rw [List.flatMap_map, List.map_map] at read
    rw [appendix, read]
    simp [Function.comp_def, Value.toText]
  · intro entry member steers
    have six : ∀ name ∈ steering, name ∈ (standard options).map (·.1) := by
      rw [names_standard]
      decide
    exact (names member).2 (six _ steers)

end Options

namespace Target

open Options

variable {target : Target} {name : String}

/-! ## The options of a target with extensions -/

/-- The target without its further options. -/
def bare (target : Target) : Target :=
  { target with extra := ∅ }

/-- The members of a target come before its further options. -/
theorem get?_options (target : Target) (name : String) :
    target.options.get? name = ((target.members.get? name).filter Value.isGiven).or
      ((target.extra.get? name).filter fun _ => !unsupported.contains name) := by
  have named : target.named = (target.members.filter fun _ value => value.isGiven).entries :=
    target.named_eq
  rw [options, named, Fields.get?_insertAll, Fields.get?_filter, Fields.get?_filter]

/-- A member that counts as something has its own text, whatever the further options are. -/
theorem textOr_member (target : Target) {value : Value} (other : String)
    (member : (name, value) ∈ target.members.entries) (isTrue : value.isTrue = true) :
    textOr target.options name other = value.toText := by
  have given : value.isGiven = true := by
    cases value with
    | null => cases isTrue
    | _ => rfl
  rw [textOr, get?_options, Fields.get?_of_mem member, Option.filter_some_pos given]
  exact if_pos isTrue

/-- The text of a further option, if it is given one under this name. -/
def claimed? (target : Target) (name : String) : Option String :=
  ((target.extra.get? name).filter Value.isGiven).map Value.toText

/-- A further option that is spelled like a steering keyword comes through. -/
theorem further?_options (target : Target) (steers : name ∈ steering) :
    further? target.options name = target.claimed? name := by
  obtain ⟨own, known⟩ := steering_free name steers
  have missing : target.members.get? name = none := by
    refine Fields.get?_eq_none.mpr fun named => own ?_
    rw [Fields.names, entries_members] at named
    simpa [mapped] using named
  rw [further?, if_neg (mt List.contains_iff_mem.mp own), get?_options, missing, claimed?]
  cases target.extra.get? name with
  | none => rfl
  | some value => cases value <;> simp [Option.filter, known, Value.isGiven]

/-- The options of a target have the names of its members and of its further options. -/
theorem options_plain (plain : ∀ name ∈ target.extra.names, '=' ∉ name.toList) :
    ∀ name ∈ target.options.names, '=' ∉ name.toList := by
  intro name given marked
  cases found : target.options.get? name with
  | none => exact Fields.get?_eq_none.mp found given
  | some value =>
      rw [get?_options, Option.or_eq_some_iff] at found
      rcases found with member | ⟨-, further⟩
      · have member := Fields.mem_of_get? (Option.eq_some_of_filter_eq_some member)
        rw [entries_members] at member
        have named := List.mem_map_of_mem (f := Prod.fst) member
        simp only [List.map_cons, List.map_nil] at named
        have bare : ∀ name ∈ mapped, '=' ∉ name.toList := by
          decide
        exact bare name (by simpa [mapped] using named) marked
      · have member := Fields.mem_of_get? (Option.eq_some_of_filter_eq_some further)
        exact plain name (List.mem_map.mpr ⟨_, member, rfl⟩) marked

theorem appendix_bare (target : Target) : appendix target.bare.options = [] := by
  have none : added target.bare.options = [] := by
    refine List.filterMap_eq_nil_iff.mpr fun name given => ?_
    have bare : target.bare.extra = ∅ := rfl
    have mapped := options_mapped bare name (List.mem_filter.mp given).1
    have unused : further? target.bare.options name = none :=
      Option.not_isSome_iff_eq_none.mp fun further => (mem_of_further? further).2 mapped
    rw [unused]
    rfl
  rw [appendix, none]
  rfl

/-! ## Steady targets -/

/-- Each steering keyword occurs once, with the value that it has without the further
options. -/
def Steady (target : Target) : Prop :=
  ∀ name ∈ steering, ∃ text, valuesOf? target.options name = some [text] ∧
    valuesOf? target.bare.options name = some [text]

/-- No further option is spelled like a steering keyword, unless it says the same. -/
def Uncontested (target : Target) : Prop :=
  ∀ name ∈ steering, ∀ value, target.extra.get? name = some value → value.isGiven = true →
    valuesOf? target.bare.options name = some [value.toText]

/-- What the further options add to the connection string can be read, and has no steering
keyword. -/
def Silent (target : Target) : Prop :=
  ∃ entries, readKeywords? (appendix target.options) = some entries ∧
    ∀ entry ∈ entries, entry.1 ∉ steering

theorem valuesOf?_bare (steers : name ∈ steering) :
    valuesOf? target.bare.options name =
      some [((standard target.bare.options).lookup name).getD ""] := by
  have unclaimed : further? target.bare.options name = none :=
    further?_options target.bare steers
  rw [valuesOf?_steering steers, appendix_bare, readKeywords?_nil, Option.map_some, ownValue,
    unclaimed]
  rfl

section

variable (host : target.host.isTrue = true) (user : target.user.isTrue = true)
  (password : target.password.isTrue = true) (database : target.database.isTrue = true)
include host user password database

/-- A target that names its store and user has the same six keywords without its further
options. -/
theorem standard_bare : standard target.options = standard target.bare.options := by
  have address : target.address.isTrue = true := (isTrue_address target).trans host
  have same {name : String} {value : Value} (other : String)
      (member : (name, value) ∈ target.members.entries) (isTrue : value.isTrue = true) :
      textOr target.options name other = textOr target.bare.options name other :=
    (textOr_member target other member isTrue).trans
      (textOr_member target.bare other member isTrue).symm
  rw [standard, standard, same _ (by simp [entries_members]) address,
    same _ (by simp [entries_members]) database,
    same _ (by simp [entries_members]) user,
    same _ (by simp [entries_members]) password]

/-- In its place a steering keyword has the text of the further option that is spelled like
it, if there is one, and else the value that it has without the further options. -/
theorem valuesOf?_options (steers : name ∈ steering) :
    ∃ text, valuesOf? target.bare.options name = some [text] ∧
      valuesOf? target.options name = (readKeywords? (appendix target.options)).map
        fun entries =>
          (target.claimed? name).getD text :: (entries.filter (·.1 = name)).map (·.2) := by
  refine ⟨_, valuesOf?_bare steers, ?_⟩
  rw [valuesOf?_steering steers, ownValue, further?_options target steers,
    standard_bare host user password database]

/-- One keyword is steady exactly if no further option is spelled like it, unless it says
the same, and the rest of the connection string does not have it. -/
theorem steady_keyword (steers : name ∈ steering) :
    (∃ text, valuesOf? target.options name = some [text] ∧
        valuesOf? target.bare.options name = some [text]) ↔
      (∀ value, target.extra.get? name = some value → value.isGiven = true →
        valuesOf? target.bare.options name = some [value.toText]) ∧
      ∃ entries, readKeywords? (appendix target.options) = some entries ∧
        ∀ entry ∈ entries, entry.1 ≠ name := by
  obtain ⟨text, bare, values⟩ := valuesOf?_options host user password database steers
  rw [bare, values]
  constructor
  · rintro ⟨other, read, same⟩
    obtain ⟨entries, read, values⟩ := Option.map_eq_some_iff.mp read
    obtain ⟨own, none⟩ := List.cons_eq_cons.mp values
    constructor
    · intro value found given
      have claims : target.claimed? name = some value.toText := by
        rw [claimed?, found, Option.filter_some_pos given]
        rfl
      rw [claims, Option.getD_some] at own
      rw [own, same]
    · refine ⟨entries, read, fun entry member named => ?_⟩
      have kept : entry ∈ entries.filter (·.1 = name) :=
        List.mem_filter.mpr ⟨member, decide_eq_true named⟩
      rw [List.map_eq_nil_iff.mp none] at kept
      cases kept
  · rintro ⟨agrees, entries, read, absent⟩
    refine ⟨text, ?_, rfl⟩
    have none : entries.filter (·.1 = name) = [] :=
      List.filter_eq_nil_iff.mpr fun entry member => by simpa using absent entry member
    have own : (target.claimed? name).getD text = text := by
      rw [claimed?]
      cases found : target.extra.get? name with
      | none => rfl
      | some value =>
          by_cases given : value.isGiven = true
          · have same := agrees value found given
            rw [Option.filter_some_pos given]
            simpa using same.symm
          · rw [Option.filter_some_neg (Bool.eq_false_iff.mpr given)]
            rfl
    rw [read, Option.map_some, none, own]
    rfl

theorem steady_iff : target.Steady ↔ target.Uncontested ∧ target.Silent := by
  have keyword {name : String} (steers : name ∈ steering) :=
    steady_keyword host user password database steers
  constructor
  · intro steady
    refine ⟨fun name steers => ((keyword steers).mp (steady name steers)).1, ?_⟩
    have first : "DATABASE" ∈ steering := List.mem_cons_self
    obtain ⟨entries, read, -⟩ := ((keyword first).mp (steady _ first)).2
    refine ⟨entries, read, fun entry member steers => ?_⟩
    obtain ⟨entries', read', absent⟩ := ((keyword steers).mp (steady _ steers)).2
    cases read.symm.trans read'
    exact absent entry member rfl
  · rintro ⟨uncontested, entries, read, silent⟩ name steers
    refine (keyword steers).mpr ⟨uncontested name steers, entries, read, ?_⟩
    rintro entry member rfl
    exact silent entry member steers

/-- The steering keywords of a target that names its store and user are steady exactly if no
further option is spelled like one of them, unless it says the same, and none of those
behind brings one along.

If no further option has the mark of a value in its name, each of the keywords occurs once:
with the text of the option that is spelled like it, if one is, else with the text of the
target's own. -/
theorem extensions_steer :
    (target.Steady ↔ target.Uncontested ∧ target.Silent) ∧
      ((∀ name ∈ target.extra.names, '=' ∉ name.toList) → ∀ name ∈ steering,
        ∃ text, valuesOf? target.bare.options name = some [text] ∧
          valuesOf? target.options name = some [(target.claimed? name).getD text]) := by
  refine ⟨steady_iff host user password database, fun plain name steers => ?_⟩
  obtain ⟨text, bare, values⟩ := valuesOf?_options host user password database steers
  obtain ⟨read, absent⟩ := appendix_plain (options_plain plain)
  have none : (added target.options).filter (·.1 = name) = [] := by
    refine List.filter_eq_nil_iff.mpr fun entry member named => ?_
    exact absent entry member (of_decide_eq_true named ▸ steers)
  refine ⟨text, bare, ?_⟩
  rw [values, read, Option.map_some, none]
  rfl

end

/-- A target with one further option. -/
def extendedTarget (name text : String) : Target where
  host := .text "h"
  user := .text "u"
  password := .text "p"
  database := .text "d"
  extra := .ofPairs [(name, .text text)]

/-- An option takes the place of the host, and one with a longer name brings a second one. -/
theorem extensions_steer_hostname :
    (extendedTarget "HOSTNAME" "evil").host.isTrue = true ∧
    (extendedTarget "HOSTNAME" "evil").user.isTrue = true ∧
    (extendedTarget "HOSTNAME" "evil").password.isTrue = true ∧
    (extendedTarget "HOSTNAME" "evil").database.isTrue = true ∧
    valuesOf? (extendedTarget "HOSTNAME" "evil").options "HOSTNAME" = some ["evil"] ∧
    ¬(extendedTarget "HOSTNAME" "evil").Steady ∧
    ¬(extendedTarget "X=1;HOSTNAME" "evil").Steady := by
  have steers : "HOSTNAME" ∈ steering := by
    decide
  have plain : ∀ name ∈ (extendedTarget "HOSTNAME" "evil").extra.names, '=' ∉ name.toList := by
    decide
  have own : valuesOf? (extendedTarget "HOSTNAME" "evil").bare.options "HOSTNAME" =
      some ["h"] := by
    rw [valuesOf?_bare steers]
    decide
  have replaced := @extensions_steer (extendedTarget "HOSTNAME" "evil") rfl rfl rfl rfl
  have smuggled := @extensions_steer (extendedTarget "X=1;HOSTNAME" "evil") rfl rfl rfl rfl
  refine ⟨rfl, rfl, rfl, rfl, ?_, fun steady => ?_, fun steady => ?_⟩
  · obtain ⟨text, -, values⟩ := replaced.2 plain _ steers
    exact values
  · have same := (replaced.1.mp steady).1 _ steers (.text "evil") rfl rfl
    rw [own] at same
    exact absurd same (by decide)
  · obtain ⟨entries, read, silent⟩ := (smuggled.1.mp steady).2
    let further : List (String × Value) := [("X", .text "1"), ("HOSTNAME", .text "evil")]
    have unmarked : ∀ entry ∈ further, '=' ∉ entry.1.toList := by
      decide
    have text : appendix (extendedTarget "X=1;HOSTNAME" "evil").options =
        further.flatMap fun entry => keyword entry.1 entry.2 := by
      decide
    rw [text, readKeywords?_flatMap unmarked] at read
    cases read
    exact silent ("HOSTNAME", "evil") (by simp [further, Value.toText]) steers

end Target

end Midrange
