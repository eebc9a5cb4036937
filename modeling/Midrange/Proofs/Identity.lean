import Midrange.Proofs.Keywords

/-!
# What an identity tells apart

The identity of a target puts its user, host, port and database together with marks
between them, and leaves out what counts as nothing.  The marks also stand for
themselves in the parts, so different targets can have one identity.

Targets of one identity whose keywords have the same user and database differ in nothing
else, unless one of them has a host and the other has not.  Of targets whose parts hold
none of the marks the identity tells all: database, host, port and user.
-/

namespace Midrange

open Options

/-! ## The keywords of a target -/

namespace Options

/-- The text that a connection string carries for a keyword. -/
def carried? (options : Fields Value) (name : String) : Option String :=
  (readKeywords? (connectionString options).toList).bind (List.lookup name)

/-- Without further options a connection string carries the six keywords of every
connection. -/
theorem carried?_of_mapped {options : Fields Value}
    (plain : ∀ name ∈ options.names, name ∈ mapped) (name : String) :
    carried? options name = (standard options).lookup name := by
  have bare (name : String) : further? options name = none := by
    refine Option.not_isSome_iff_eq_none.mp fun given => ?_
    obtain ⟨member, own⟩ := mem_of_further? given
    exact own (plain name member)
  have six : listed options = standard options := by
    simp [listed, bare]
  have read := (connectionString_read fun name given own => (own (plain name given)).elim).1
  rw [carried?, read, six]
  rfl

end Options

namespace Value

/-- The characters that a value adds to a text, none if it counts as nothing. -/
def shown (value : Value) : List Char :=
  if value.isTrue then value.toText.toList else []

theorem shown_eq_nil {value : Value} : value.shown = [] ↔ value.isTrue = false := by
  rw [shown]
  by_cases isTrue : value.isTrue = true
  · simp [isTrue, toText_ne_empty isTrue]
  · simp [isTrue]

theorem isTrue_of_shown {left right : Value} (same : left.shown = right.shown) :
    left.isTrue = right.isTrue := by
  have none : left.isTrue = false ↔ right.isTrue = false := by
    rw [← shown_eq_nil, ← shown_eq_nil, same]
  cases leftTrue : left.isTrue <;> cases rightTrue : right.isTrue <;> simp_all

end Value

namespace Target

variable {target left right : Target}

/-- The keywords of two targets place them in the same store, with the same user. -/
def Agree (left right : Target) : Prop :=
  ∀ name ∈ ["DATABASE", "HOSTNAME", "PORT", "UID"],
    carried? left.options name = carried? right.options name

section

variable (bare : target.extra = ∅)
include bare

/-- Without further options the options are the members that are not null. -/
theorem options_eq : target.options = target.members.filter fun _ value => value.isGiven := by
  have named : (target.members.filter fun _ value => value.isGiven).entries = target.named :=
    target.named_eq.symm
  have distinct : (target.named.map (·.1)).Nodup :=
    named ▸ (target.members.filter _).distinct
  refine Fields.ext (Eq.trans ?_ named.symm)
  rw [options, bare]
  exact Fields.entries_ofPairs distinct

theorem options_mapped : ∀ name ∈ target.options.names, name ∈ mapped := by
  intro name given
  rw [options_eq bare] at given
  obtain ⟨entry, member, rfl⟩ := List.mem_map.mp given
  have member := (List.mem_filter.mp member).1
  rw [entries_members] at member
  simpa [mapped] using List.mem_map_of_mem (f := Prod.fst) member

/-- An option of a member has the text of the member, if that counts as something. -/
theorem textOr_options {name : String} {value : Value} (other : String)
    (member : (name, value) ∈ target.members.entries) :
    textOr target.options name other = if value.isTrue then value.toText else other := by
  rw [textOr, options_eq bare, Fields.get?_filter, Fields.get?_of_mem member]
  cases value <;> rfl

end

/-! ## The parts of an identity -/

/-- The user of an identity, with the mark behind it. -/
def login (target : Target) : List Char :=
  if target.user.isTrue then target.user.shown ++ ['@'] else []

/-- The host and the port of an identity. -/
def place (target : Target) : List Char :=
  target.host.shown ++ if target.port.isTrue then ':' :: target.port.shown else []

theorem identity_parts (target : Target) :
    target.identity.toList =
      "ibmdb://".toList ++ (target.login ++ (target.place ++ '/' :: target.database.shown)) := by
  have user : target.login =
      if target.user.isTrue then target.user.toText.toList ++ ['@'] else [] := by
    rw [login, Value.shown]
    split <;> rfl
  have port : (if target.port.isTrue then ':' :: target.port.shown else []) =
      if target.port.isTrue then ':' :: target.port.toText.toList else [] := by
    rw [Value.shown]
    split <;> rfl
  rw [toList_identity, place, user, port, List.append_assoc]
  rfl

theorem login_append_place (same : left.identity = right.identity) :
    left.login ++ (left.place ++ '/' :: left.database.shown) =
      right.login ++ (right.place ++ '/' :: right.database.shown) := by
  have parts := congrArg String.toList same
  rw [identity_parts, identity_parts] at parts
  exact List.append_cancel_left parts

theorem login_eq (same : left.user.shown = right.user.shown) : left.login = right.login := by
  have alike : left.user.isTrue = right.user.isTrue := Value.isTrue_of_shown same
  rw [login, login, same, alike]

/-- Targets of one identity, user and database have the same host and port in it. -/
theorem place_eq (same : left.identity = right.identity)
    (user : left.user.shown = right.user.shown)
    (database : left.database.shown = right.database.shown) : left.place = right.place := by
  have parts := login_append_place same
  rw [login_eq user, database] at parts
  exact List.append_cancel_right (List.append_cancel_left parts)

/-! ## What the connector makes of the parts -/

/-- The host and the port that the connector goes to. -/
def whereabouts (target : Target) : List Char :=
  if target.host.isTrue then target.place else defaultHost.toList

/-- The texts of the keywords of an address. -/
def served (address : List Char) : String × String :=
  let (name, port) := splitAddress address
  (String.ofList name, if port.isEmpty then "50000" else String.ofList port)

theorem isTrue_address (target : Target) : target.address.isTrue = target.host.isTrue := by
  rw [address]
  split
  · rename_i both
    rw [Bool.and_eq_true] at both
    rw [both.1]
    simp [Value.isTrue]
  · rfl

theorem toText_address (isTrue : target.host.isTrue = true) :
    target.address.toText.toList = target.place := by
  rw [address, place, Value.shown, Value.shown, if_pos isTrue]
  by_cases port : target.port.isTrue = true
  · simp [isTrue, port, Value.toText]
  · simp [port]

section

variable (bare : target.extra = ∅)
include bare

theorem textOr_host :
    (textOr target.options Options.host defaultHost).toList = target.whereabouts := by
  have member : (Options.host, target.address) ∈ target.members.entries := by
    rw [entries_members]
    exact List.mem_cons_self
  rw [textOr_options bare defaultHost member, isTrue_address, whereabouts]
  split
  · rename_i isTrue
    exact toText_address isTrue
  · rfl

/-- An option that is empty by default has the characters that its member adds. -/
theorem textOr_shown (name : String) (value : Value)
    (member : (name, value) ∈ target.members.entries) :
    textOr target.options name "" = String.ofList value.shown := by
  rw [textOr_options bare "" member, Value.shown]
  split
  · rw [String.ofList_toList]
  · rfl

theorem standard_options :
    standard target.options =
      [("DATABASE", String.ofList target.database.shown),
        ("HOSTNAME", (served target.whereabouts).1), ("PORT", (served target.whereabouts).2),
        ("PROTOCOL", "TCPIP"), ("UID", String.ofList target.user.shown),
        ("PWD", String.ofList target.password.shown)] := by
  have database := textOr_shown bare Options.database target.database
    (by rw [entries_members]; simp)
  have user := textOr_shown bare Options.user target.user
    (by rw [entries_members]; simp)
  have password := textOr_shown bare Options.password target.password
    (by rw [entries_members]; simp)
  rw [standard, textOr_host bare, database, user, password]
  rfl

end

theorem agree_iff (leftBare : left.extra = ∅) (rightBare : right.extra = ∅) :
    Agree left right ↔ left.database.shown = right.database.shown ∧
      served left.whereabouts = served right.whereabouts ∧
      left.user.shown = right.user.shown := by
  have told {target : Target} (bare : target.extra = ∅) (name : String) :=
    carried?_of_mapped (options_mapped bare) name
  simp only [Agree, told leftBare, told rightBare, standard_options leftBare,
    standard_options rightBare]
  simp [List.lookup_cons, Prod.ext_iff, and_assoc, String.ofList_inj]

/-! ## Targets of one identity -/

/-- A host of its own is told from none: an address that begins with the port is not that
of the store that stands for no host. -/
theorem isTrue_host (same : left.place = right.place)
    (served' : served left.whereabouts = served right.whereabouts) :
    left.host.isTrue = right.host.isTrue := by
  have apart {left right : Target} (same : left.place = right.place)
      (host : left.host.isTrue = true) (none : right.host.isTrue = false) :
      served left.whereabouts ≠ served right.whereabouts := by
    have filled : left.place ≠ [] := by
      intro nothing
      have nothing := (List.append_eq_nil_iff.mp nothing).1
      rw [Value.shown_eq_nil, host] at nothing
      cases nothing
    have bare : right.place = if right.port.isTrue then ':' :: right.port.shown else [] := by
      rw [place, Value.shown_eq_nil.mpr none, List.nil_append]
    rw [whereabouts, whereabouts, if_pos host, none, same, bare]
    rw [same, bare] at filled
    split at filled
    · rename_i port
      intro equal
      have name := congrArg Prod.fst equal
      simp [served, splitAddress, port, defaultHost] at name
    · exact absurd rfl filled
  cases leftHost : left.host.isTrue <;> cases rightHost : right.host.isTrue
  · rfl
  · exact absurd served'.symm (apart same.symm rightHost leftHost)
  · exact absurd served' (apart same leftHost rightHost)
  · rfl

/-- No part of the identity holds a mark that ends it or stands for another part. -/
structure Legible (target : Target) : Prop where
  user : '/' ∉ target.user.shown
  host : '/' ∉ target.host.shown ∧ '@' ∉ target.host.shown
  port : '/' ∉ target.port.shown ∧ '@' ∉ target.port.shown
  beginning : target.host.shown.head? ≠ some ':'

theorem Legible.not_mem_place (legible : target.Legible) {mark : Char}
    (separator : mark = '/' ∨ mark = '@') : mark ∉ target.place := by
  intro member
  rcases List.mem_append.mp member with host | port
  · rcases separator with rfl | rfl
    · exact legible.host.1 host
    · exact legible.host.2 host
  · split at port
    · rcases separator with rfl | rfl
      · exact legible.port.1 (by simpa using port)
      · exact legible.port.2 (by simpa using port)
    · cases port

theorem Legible.not_mem_login (legible : target.Legible) : '/' ∉ target.login := by
  rw [login]
  split
  · simpa using legible.user
  · exact List.not_mem_nil

/-- The database begins behind the first slash. -/
theorem Legible.database_eq (leftLegible : left.Legible) (rightLegible : right.Legible)
    (same : left.identity = right.identity) :
    left.login ++ left.place = right.login ++ right.place ∧
      left.database.shown = right.database.shown := by
  have parts := login_append_place same
  rw [← List.append_assoc, ← List.append_assoc] at parts
  have plain {target : Target} (legible : target.Legible) :
      '/' ∉ target.login ++ target.place := by
    rw [List.mem_append, not_or]
    exact ⟨legible.not_mem_login, legible.not_mem_place (.inl rfl)⟩
  have read := congrArg (readUpTo? '/') parts
  rw [readUpTo?_append (plain leftLegible), readUpTo?_append (plain rightLegible)] at read
  exact Prod.mk.inj (Option.some.inj read)

/-- The user ends at the last sign before the host. -/
theorem Legible.user_eq (leftLegible : left.Legible) (rightLegible : right.Legible)
    (same : left.login ++ left.place = right.login ++ right.place) :
    left.user.shown = right.user.shown := by
  have unmarked {target : Target} (legible : target.Legible) :
      '@' ∉ target.place.reverse := by
    rw [List.mem_reverse]
    exact legible.not_mem_place (.inr rfl)
  have lacks {left right : Target} (legible : right.Legible)
      (same : left.login ++ left.place = right.login ++ right.place)
      (user : left.user.isTrue = true) : right.user.isTrue = true := by
    have marked : '@' ∈ left.login ++ left.place := by
      simp [login, user]
    rw [same, List.mem_append] at marked
    rcases marked with login' | place'
    · rw [login] at login'
      split at login'
      · assumption
      · cases login'
    · exact absurd place' (legible.not_mem_place (.inr rfl))
  by_cases user : left.user.isTrue = true
  · have user' := lacks rightLegible same user
    have reversed := congrArg List.reverse same
    simp only [login, if_pos user, if_pos user', List.reverse_append, List.reverse_cons,
      List.append_assoc, List.singleton_append] at reversed
    have read := congrArg (readUpTo? '@') reversed
    rw [readUpTo?_append (unmarked leftLegible), readUpTo?_append (unmarked rightLegible)]
      at read
    exact List.reverse_inj.mp (Prod.mk.inj (Option.some.inj read)).2
  · have user' : ¬right.user.isTrue = true := mt (lacks leftLegible same.symm) user
    rw [Value.shown_eq_nil.mpr (Bool.eq_false_iff.mpr user),
      Value.shown_eq_nil.mpr (Bool.eq_false_iff.mpr user')]

/-- The host begins the address, unless there is none. -/
theorem Legible.isTrue_host (leftLegible : left.Legible) (rightLegible : right.Legible)
    (same : left.place = right.place) : left.host.isTrue = right.host.isTrue := by
  have apart {left right : Target} (legible : left.Legible) (same : left.place = right.place)
      (host : left.host.isTrue = true) : right.host.isTrue = true := by
    apply Bool.not_eq_false _ |>.mp
    intro none
    have empty := Value.shown_eq_nil.mpr none
    have first := congrArg List.head? same
    rw [place, place, empty, List.nil_append] at first
    cases shown : left.host.shown with
    | nil =>
        rw [Value.shown_eq_nil, host] at shown
        cases shown
    | cons character rest =>
        rw [shown, List.cons_append, List.head?_cons] at first
        split at first
        · exact legible.beginning (by rw [shown, List.head?_cons, first, List.head?_cons])
        · cases first
  exact Bool.eq_iff_iff.mpr ⟨apart leftLegible same, apart rightLegible same.symm⟩

/-- Targets of one identity lead to the same store and user exactly if they have the same
user and database, and a host both or neither.  They do if no part of them holds the marks
between the parts. -/
theorem identity_separates (leftBare : left.extra = ∅) (rightBare : right.extra = ∅)
    (same : left.identity = right.identity) :
    (Agree left right ↔ left.user.shown = right.user.shown ∧
      left.database.shown = right.database.shown ∧
      left.host.isTrue = right.host.isTrue) ∧
    (left.Legible → right.Legible → Agree left right) := by
  have exact : Agree left right ↔ left.user.shown = right.user.shown ∧
      left.database.shown = right.database.shown ∧
      left.host.isTrue = right.host.isTrue := by
    rw [agree_iff leftBare rightBare]
    constructor
    · rintro ⟨database, served, user⟩
      exact ⟨user, database, isTrue_host (place_eq same user database) served⟩
    · rintro ⟨user, database, host⟩
      refine ⟨database, ?_, user⟩
      rw [whereabouts, whereabouts, host, place_eq same user database]
  refine ⟨exact, fun leftLegible rightLegible => exact.mpr ?_⟩
  obtain ⟨login, database⟩ := leftLegible.database_eq rightLegible same
  have user := leftLegible.user_eq rightLegible login
  exact ⟨user, database, leftLegible.isTrue_host rightLegible (place_eq same user database)⟩

/-- A target that names its port, and one that has it in the host. -/
def ported : Target where
  host := .text "as400"
  port := .int 446
  user := .text "db2"
  database := .text "SAMPLE"

def portedHost : Target where
  host := .text "as400:446"
  user := .text "db2"
  database := .text "SAMPLE"

theorem identity_separates_ported :
    ported.extra = ∅ ∧ portedHost.extra = ∅ ∧ ported.identity = portedHost.identity ∧
      ported.Legible ∧ portedHost.Legible ∧ Agree ported portedHost := by
  have same : ported.identity = portedHost.identity := rfl
  have legible : ported.Legible := ⟨by decide, by decide, by decide, by decide⟩
  have legible' : portedHost.Legible := ⟨by decide, by decide, by decide, by decide⟩
  exact ⟨rfl, rfl, same, legible, legible',
    (identity_separates rfl rfl same).2 legible legible'⟩

/-- A user that holds the mark behind it has the identity of another user and host. -/
example : identity { user := .text "a@b", host := .text "c" } =
      identity { user := .text "a", host := .text "b@c" } ∧
    ¬Agree { user := .text "a@b", host := .text "c" }
      { user := .text "a", host := .text "b@c" } := by
  refine ⟨rfl, fun agree => ?_⟩
  have user := ((agree_iff rfl rfl).mp agree).2.2
  revert user
  decide

end Target

end Midrange
