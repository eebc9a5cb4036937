import Midrange.Options.ConnectionString
import Midrange.Options.Redaction
import Midrange.Options.Timeout

/-!
# Secrets

The password of a target is a secret, and so are further options that are called a
password in any letter case.  A veil takes the place of every secret that is a text and
not empty.

Veiled targets have veiled options.  What the library tells of options, and what it reads
from them besides the connection string, is the same behind the veil; it is the same for
two targets that only differ in secrets.
-/

namespace Midrange

/-! ## Secrets -/

namespace Value

/-- Holds of the texts that are not empty. -/
def isFilled : Value → Bool
  | .text content => content != ""
  | _ => false

/-- What is told of a secret: nothing of a text that is not empty. -/
def veil (value : Value) : Value :=
  if value.isFilled then Options.mask else value

theorem isFilled_veil (value : Value) : value.veil.isFilled = value.isFilled := by
  rw [veil]
  split
  · rename_i filled
    rw [filled]
    decide
  · rfl

/-- The same is told of two secrets if they are the same, or if both are texts that are
not empty. -/
theorem veil_eq_veil {left right : Value} :
    left.veil = right.veil ↔
      left = right ∨ left.isFilled = true ∧ right.isFilled = true := by
  constructor
  · intro same
    have filled : left.isFilled = right.isFilled := by
      rw [← isFilled_veil left, same, isFilled_veil]
    by_cases hidden : left.isFilled = true
    · exact .inr ⟨hidden, filled ▸ hidden⟩
    · have hidden' : ¬right.isFilled = true := filled ▸ hidden
      rw [veil, veil, if_neg hidden, if_neg hidden'] at same
      exact .inl same
  · rintro (rfl | ⟨first, second⟩)
    · rfl
    · rw [veil, veil, if_pos first, if_pos second]

theorem isTrue_of_isFilled {value : Value} (filled : value.isFilled = true) :
    value.isTrue = true := by
  cases value with
  | text content => exact filled
  | _ => cases filled

theorem isGiven_veil (value : Value) : value.veil.isGiven = value.isGiven := by
  rw [veil]
  split
  · rename_i filled
    cases value with
    | text content => rfl
    | _ => cases filled
  · rfl

end Value

namespace Options

/-- Holds of the names of secrets, in any letter case. -/
def isSecret (name : String) : Bool :=
  Text.small name = "password" || Text.small name = "pwd"

theorem isSecret_eq (name : String) :
    secretNames.contains (Text.small name) = isSecret name := by
  simp [secretNames, isSecret]

private theorem small_mapped : ∀ name ∈ mapped, Text.small name = name := by
  have unraised : mapped.all (fun name => name.toList.all Text.isUnraised) = true := by
    decide +kernel
  exact fun name own => Text.small_eq_self (List.all_eq_true.mp unraised name own)

/-- Of the options with uses of their own the password alone is a secret. -/
theorem isSecret_mapped : ∀ name ∈ mapped, isSecret name = decide (name = password) := by
  intro name own
  rw [isSecret, small_mapped name own]
  revert name
  decide

/-- What is told of the value of an option. -/
def told (name : String) (value : Value) : Value :=
  if isSecret name then value.veil else value

/-- The options with their secrets veiled. -/
def veil (options : Fields Value) : Fields Value :=
  options.map told

/-- A veil hides nothing that is shown in the log. -/
theorem redact_veil (options : Fields Value) : redact (veil options) = redact options := by
  refine Fields.ext ?_
  simp only [redact, veil, Fields.map, List.map_map]
  refine List.map_congr_left fun entry _ => Prod.ext rfl ?_
  simp only [Function.comp_apply, isSecret_eq, told]
  by_cases secret : isSecret entry.1 = true
  · by_cases filled : entry.2.isFilled = true
    · simp [secret, filled, Value.isTrue_of_isFilled filled, Value.veil]
    · simp [secret, filled, Value.veil]
  · simp [secret]

theorem queryTimeout_veil (options : Fields Value) :
    queryTimeout (veil options) = queryTimeout options := by
  have shown : isSecret timeout = false := isSecret_mapped timeout (by decide)
  have found : (veil options).get? timeout = options.get? timeout := by
    rw [veil, Fields.get?_map]
    cases options.get? timeout with
    | none => rfl
    | some value => simp [told, shown]
  rw [queryTimeout, found, queryTimeout]

end Options

namespace Target

/-- The target with its secrets veiled. -/
def veil (target : Target) : Target :=
  { target with
    password := target.password.veil
    extra := Options.veil target.extra }

theorem identity_veil (target : Target) : target.veil.identity = target.identity := rfl

theorem members_veil (target : Target) :
    target.veil.members.entries =
      target.members.entries.map fun entry => (entry.1, Options.told entry.1 entry.2) := by
  have secret := Options.isSecret_mapped
  simp only [Options.mapped, List.forall_mem_cons] at secret
  obtain ⟨host, user, password, database, timeout, _⟩ := secret
  simp only [entries_members, List.map_cons, List.map_nil, Options.told, host, user, password,
    database, timeout]
  rfl

theorem named_veil (target : Target) :
    target.veil.named =
      target.named.map fun entry => (entry.1, Options.told entry.1 entry.2) := by
  rw [named_eq, named_eq, members_veil, List.filter_map]
  refine congrArg _ (List.filter_congr fun entry _ => ?_)
  rw [Function.comp_apply, Options.told]
  split
  · exact entry.2.isGiven_veil
  · rfl

theorem options_veil (target : Target) :
    target.veil.options = Options.veil target.options := by
  rw [options, options, Options.veil, Fields.map_insertAll, Fields.map_filter, named_veil]
  rfl

end Target

/-- Targets that stand for one another in two runs: they differ in their secrets
alone. -/
structure Pairing where
  Pairs : Target → Target → Prop
  veiled : ∀ {left right : Target}, Pairs left right → left.veil = right.veil

namespace Pairing

variable {pairing : Pairing} {left right : Target}

/-- The pairing of two targets. -/
def one (left right : Target) (veiled : left.veil = right.veil) : Pairing where
  Pairs first second := first = left ∧ second = right
  veiled := by
    rintro _ _ ⟨rfl, rfl⟩
    exact veiled

theorem identity_eq (paired : pairing.Pairs left right) : left.identity = right.identity := by
  rw [← left.identity_veil, pairing.veiled paired, right.identity_veil]

theorem veil_options (paired : pairing.Pairs left right) :
    Options.veil left.options = Options.veil right.options := by
  rw [← left.options_veil, pairing.veiled paired, right.options_veil]

theorem redact_eq (paired : pairing.Pairs left right) :
    Options.redact left.options = Options.redact right.options := by
  rw [← Options.redact_veil, veil_options paired, Options.redact_veil]

theorem queryTimeout_eq (paired : pairing.Pairs left right) :
    Options.queryTimeout left.options = Options.queryTimeout right.options := by
  rw [← Options.queryTimeout_veil, veil_options paired, Options.queryTimeout_veil]

/-- The connection strings of paired targets, or none. -/
inductive Connects (pairing : Pairing) : String → String → Prop where
  | unset : Connects pairing "" ""
  | paired {left right : Target} : pairing.Pairs left right →
      Connects pairing (Options.connectionString left.options)
        (Options.connectionString right.options)

end Pairing

end Midrange
