import Mathlib.Data.Nat.Digits.Defs
import Midrange.Proofs.Crew.Errands

/-!
# Timeouts as texts

A text that looks numeric is read as a numeral, and not every such text is one: some digit
marks have no decimal value, some blanks may not surround a numeral, and a numeral may be too
long.  Here it is told exactly which texts are read, as which number, and that a timeout which
is not read is all that keeps a pool from being made.
-/

namespace Midrange

open Midrange.Text Midrange.Number

/-! ## Numerals -/

namespace Text

/-- A run of decimal digits of any script denotes a number, the first digit counting most. -/
def Denotes (digits : List Char) (number : Nat) : Prop :=
  digits ≠ [] ∧ ∃ values : List Nat, digits.map decimalValue? = values.map some ∧
    number = Nat.ofDigits 10 values.reverse

theorem Denotes.unique {digits : List Char} {number other : Nat}
    (denotes : Denotes digits number) (also : Denotes digits other) : number = other := by
  obtain ⟨-, values, mapped, rfl⟩ := denotes
  obtain ⟨-, others, mapped', rfl⟩ := also
  have same := (List.map_inj_right fun _ _ => Option.some_inj.mp).mp (mapped.symm.trans mapped')
  rw [same]

/-- The controls that separate records; they are blanks that no numeral has around it. -/
def isSeparator (character : Char) : Bool :=
  0x1C ≤ character.toNat && character.toNat ≤ 0x1F

theorem isNumeralBlank_eq (character : Char) :
    isNumeralBlank character = (isBlank character && !isSeparator character) := rfl

theorem decimalValue?_of_isSeparator {character : Char}
    (separates : isSeparator character = true) : decimalValue? character = none := by
  have low : character.toNat < 0x30 := by
    simp only [isSeparator, Bool.and_eq_true, decide_eq_true_eq] at separates
    omega
  have zeros : ∀ start ∈ decimalZeros.toList, 0x30 ≤ start := by
    decide
  rw [decimalValue?, ← Array.find?_toList, Option.map_eq_none_iff, List.find?_eq_none]
  intro start member
  have above := zeros start member
  simp only [Bool.and_eq_true, decide_eq_true_eq]
  omega

theorem decimalValue?_ne_none {digits : List Char} {values : List Nat} {character : Char}
    (mapped : digits.map decimalValue? = values.map some) (member : character ∈ digits) :
    decimalValue? character ≠ none := by
  have among : decimalValue? character ∈ values.map some := by
    rw [← mapped]
    exact List.mem_map_of_mem member
  obtain ⟨value, -, same⟩ := List.mem_map.mp among
  rw [← same]
  exact Option.some_ne_none value

end Text

namespace Number

theorem takeDigits_cons (run : DigitRun) (character : Char) (rest : List Char) :
    takeDigits false run (character :: rest) =
      match decimalValue? character with
      | some digit => takeDigits false ⟨10 * run.value + digit, run.count + 1⟩ rest
      | none => (run, character :: rest) := by
  by_cases mark : character = '_'
  · subst mark
    have none : decimalValue? '_' = none := by
      rw [decimalValue?, ← Array.find?_toList]
      rfl
    rw [none]
    cases rest <;> simp [takeDigits, none]
  · exact takeDigits.eq_3 false run character rest fun _ _ same _ => mark same

/-- The digits that are taken are the decimal ones at the beginning of the text. -/
theorem takeDigits_eq (run : DigitRun) (text : List Char) :
    ∃ (values : List Nat) (digits rest : List Char),
      text = digits ++ rest ∧ digits.map decimalValue? = values.map some ∧
      (∀ character ∈ rest.head?, decimalValue? character = none) ∧
      takeDigits false run text =
        (⟨10 ^ values.length * run.value + Nat.ofDigits 10 values.reverse,
          run.count + values.length⟩, rest) := by
  induction text generalizing run with
  | nil => exact ⟨[], [], [], rfl, rfl, by simp, by simp [takeDigits]⟩
  | cons character text induction =>
      rw [takeDigits_cons]
      cases value : decimalValue? character with
      | none => exact ⟨[], [], character :: text, rfl, rfl, by simpa using value, by simp⟩
      | some digit =>
          obtain ⟨values, digits, rest, rfl, mapped, ends, taken⟩ :=
            induction ⟨10 * run.value + digit, run.count + 1⟩
          refine ⟨digit :: values, character :: digits, rest, rfl, ?_, ends, ?_⟩
          · rw [List.map_cons, List.map_cons, value, mapped]
          · have number : 10 ^ values.length * (10 * run.value + digit) +
                Nat.ofDigits 10 values.reverse =
                10 ^ (values.length + 1) * run.value +
                  Nat.ofDigits 10 (digit :: values).reverse := by
              rw [List.reverse_cons, Nat.ofDigits_append, List.length_reverse,
                Nat.ofDigits_singleton, Nat.pow_succ]
              ring
            dsimp only
            rw [taken, number, List.length_cons, Nat.add_assoc, Nat.add_comm 1]

end Number

namespace Options

/-! ## Texts that are read -/

/-- Why a text that looks numeric is no numeral. -/
inductive Misread (text : String) : Prop where
  | mark {character : Char} (member : character ∈ trim text.toList)
      (valueless : decimalValue? character = none) : Misread text
  | separator {character : Char} (member : character ∈ text.toList)
      (separates : isSeparator character = true) : Misread text
  | long (long : Fault.numeralLimit < (trim text.toList).length) : Misread text

/-- The faults of texts that are no numerals. -/
inductive Malformed (text : String) : Fault → Prop where
  | invalid : Malformed text (.invalidNumeral text)
  | long {digits : Nat} (long : Fault.numeralLimit < digits) :
      Malformed text (.longNumeral digits)

theorem Malformed.kindName {text : String} {fault : Fault} (malformed : Malformed text fault) :
    fault.kindName = "ValueError" := by
  cases malformed <;> rfl

theorem readNumeral_malformed {text : String} {fault : Fault}
    (failed : readNumeral text = .error fault) : Malformed text fault := by
  rw [readNumeral] at failed
  split at failed
  split at failed
  · rename_i long
    cases failed
    exact .long long
  · split at failed
    · cases failed
      exact .invalid
    · cases failed

theorem readNumeral_denotes {text : String} (filled : trim text.toList ≠ [])
    (sound : ¬Misread text) :
    ∃ number, Denotes (trim text.toList) number ∧ readNumeral text = .ok number := by
  have trimmed : trimBy isNumeralBlank text.toList = trim text.toList := by
    refine trimBy_congr fun character member => ?_
    have joins : isSeparator character = false :=
      Bool.eq_false_iff.mpr fun separates => sound (.separator member separates)
    rw [isNumeralBlank_eq, joins, Bool.not_false, Bool.and_true]
  obtain ⟨values, digits, rest, parts, mapped, ends, taken⟩ :=
    takeDigits_eq ⟨0, 0⟩ (trim text.toList)
  have whole : rest = [] := by
    cases rest with
    | nil => rfl
    | cons character rest =>
        have member : character ∈ trim text.toList := by simp [parts]
        exact absurd (.mark member (ends character rfl)) sound
  have counted : (trim text.toList).length = values.length := by
    have lengths := congrArg List.length mapped
    simpa [parts, whole] using lengths
  have short : values.length ≤ Fault.numeralLimit :=
    Nat.le_of_not_lt fun long => sound (.long (by rwa [counted]))
  have some : values.length ≠ 0 := by
    rw [← counted]
    exact mt List.length_eq_zero_iff.mp filled
  refine ⟨Nat.ofDigits 10 values.reverse, ⟨filled, values, ?_, rfl⟩, ?_⟩
  · rw [parts, whole, List.append_nil, mapped]
  · rw [readNumeral, trimmed, taken]
    simp [whole, short, some]

theorem readNumeral_misread {text : String} (misread : Misread text) :
    ∃ fault, readNumeral text = .error fault := by
  obtain ⟨values, digits, rest, parts, mapped, -, taken⟩ :=
    takeDigits_eq ⟨0, 0⟩ (trimBy isNumeralBlank text.toList)
  rw [readNumeral, taken]
  dsimp only
  by_cases long : Fault.numeralLimit < 0 + values.length
  · exact ⟨_, if_pos long⟩
  · have cut : rest ≠ [] := by
      rintro rfl
      rw [List.append_nil] at parts
      have valued {character : Char} (member : character ∈ trimBy isNumeralBlank text.toList) :
          decimalValue? character ≠ none :=
        decimalValue?_ne_none mapped (parts ▸ member)
      -- All that is left has values, so none of the reasons holds.
      cases misread with
      | mark member valueless =>
          rw [← trim_trimBy_isNumeralBlank] at member
          exact valued (mem_of_mem_trim member) valueless
      | @separator character member separates =>
          have kept : isNumeralBlank character = false := by
            rw [isNumeralBlank_eq, separates, Bool.not_true, Bool.and_false]
          exact valued (mem_trimBy kept member) (decimalValue?_of_isSeparator separates)
      | long more =>
          have counted := congrArg List.length mapped
          have shorter := length_trim_le (trimBy isNumeralBlank text.toList)
          rw [trim_trimBy_isNumeralBlank, parts] at shorter
          rw [List.length_map, List.length_map] at counted
          omega
    exact ⟨_, by rw [if_neg long, if_pos (.inr cut)]⟩

/-! ## Timeouts -/

/-- How a text is read as a timeout. -/
structure Timed (text : String) (outcome : Except Fault (Option Int)) : Prop where
  /-- The seconds are the number that the text denotes, apart from blanks around it. -/
  seconds : ∀ seconds, outcome = .ok (some seconds) ↔
    ∃ number : Nat, seconds = number ∧ Denotes (trim text.toList) number ∧ ¬Misread text
  /-- A text is no timeout exactly if it does not look numeric. -/
  nothing : outcome = .ok none ↔ looksNumeric text = false
  /-- Reading fails exactly for a text that looks numeric and is no numeral. -/
  fails : (∃ fault, outcome = .error fault) ↔ looksNumeric text = true ∧ Misread text
  malformed : ∀ fault, outcome = .error fault → Malformed text fault

theorem looksNumeric_eq {text : String} : looksNumeric text = true ↔
    trim text.toList ≠ [] ∧ ∀ character ∈ trim text.toList, isDigitLike character = true := by
  simp [looksNumeric]

theorem looksNumeric_of_denotes {text : String} {number : Nat}
    (denotes : Denotes (trim text.toList) number) : looksNumeric text = true := by
  obtain ⟨filled, values, mapped, -⟩ := denotes
  refine looksNumeric_eq.mpr ⟨filled, fun character member => ?_⟩
  have valued := Option.isSome_iff_ne_none.mpr (decimalValue?_ne_none mapped member)
  rw [isDigitLike, valued, Bool.true_or]

variable {options : Fields Value}

theorem timed_of_text {text : String} (given : options.get? timeout = some (.text text)) :
    Timed text (queryTimeout options) := by
  have read : queryTimeout options =
      if looksNumeric text then (readNumeral text).map fun seconds => some (seconds : Int)
      else .ok none := by
    rw [queryTimeout, given]
  rw [read]
  cases looks : looksNumeric text with
  | false =>
      have none (number : Nat) : ¬Denotes (trim text.toList) number := fun denotes => by
        cases looks.symm.trans (looksNumeric_of_denotes denotes)
      constructor <;> simp [none, looks]
  | true =>
      obtain ⟨filled, -⟩ := looksNumeric_eq.mp looks
      by_cases misread : Misread text
      · obtain ⟨fault, failed⟩ := readNumeral_misread misread
        have malformed := readNumeral_malformed failed
        constructor <;> simp [failed, misread, looks, malformed, Except.map]
      · obtain ⟨number, denotes, found⟩ := readNumeral_denotes filled misread
        have only (other : Nat) : Denotes (trim text.toList) other ↔ other = number :=
          ⟨fun also => also.unique denotes, fun same => same ▸ denotes⟩
        constructor <;> simp [found, misread, looks, only, Except.map, eq_comm]

/-- The timeout is a text that looks numeric and is no numeral. -/
def IsMisread (options : Fields Value) : Prop :=
  ∃ text, options.get? timeout = some (.text text) ∧ looksNumeric text = true ∧ Misread text

theorem queryTimeout_of_other (whole : ∀ seconds, options.get? timeout ≠ some (.int seconds))
    (texts : ∀ text, options.get? timeout ≠ some (.text text)) :
    queryTimeout options = .ok none := by
  rw [queryTimeout]
  split
  · exact absurd ‹_› (whole _)
  · exact absurd ‹_› (texts _)
  · rfl

theorem queryTimeout_fails_iff :
    (∃ fault, queryTimeout options = .error fault) ↔ IsMisread options := by
  constructor
  · intro failed
    by_cases texts : ∃ text, options.get? timeout = some (.text text)
    · obtain ⟨text, given⟩ := texts
      exact ⟨text, given, (timed_of_text given).fails.mp failed⟩
    · obtain ⟨fault, failed⟩ := failed
      rw [queryTimeout] at failed
      split at failed
      · cases failed
      · exact absurd ⟨_, ‹_›⟩ texts
      · cases failed
  · rintro ⟨text, given, misread⟩
    exact (timed_of_text given).fails.mpr misread

/-- A pool is made exactly if the timeout is read. -/
theorem ofOptions_fails_iff (maxIdle : Int) :
    (∃ fault, Pool.ofOptions options maxIdle = .error fault) ↔ IsMisread options := by
  rw [← queryTimeout_fails_iff, Pool.ofOptions]
  cases queryTimeout options <;> simp [bind, Except.bind, pure, Except.pure]

end Options

namespace Session

variable {caller : Caller} {σ : Type} {outside : Outside caller σ} {world : World} {state : σ}
  {number : Nat} {dsn : Option String} {target : Target}

/-- A session that is free to connect to a source without a handle fails to exactly if the
timeout of the target is misread. -/
theorem connect_fails_iff (free : (world.sessions number).isInTransaction = false)
    (driver : (world.registries (world.sessions number).registry).factory = .driver)
    (absent : (world.registries (world.sessions number).registry).handles.get?
      (chooseSource dsn target) = none) :
    (∃ fault, ((connect number dsn target).run outside world state).outcome = .error fault) ↔
      Options.IsMisread target.options := by
  have ends : (connect number dsn target).Reaches outside (fun outcome _ _ _ =>
      (∃ fault, outcome = .error fault) ↔ Options.IsMisread target.options) world state := by
    rw [connect, Routine.bind_eq, Routine.reaches_bind, reaches_get, Routine.ends_ok,
      if_neg (Bool.eq_false_iff.mp free), Routine.bind_eq, Routine.reaches_bind,
      Routine.reaches_attempt]
    refine Registry.acquire_reaches.mono ?_
    intro outcome middle _ _ acquired
    rw [Routine.ends_ok]
    rw [driver, Registry.verdict] at acquired
    cases outcome with
    | ok handle =>
        have read : ¬Options.IsMisread target.options := by
          rw [← Options.ofOptions_fails_iff 5]
          rintro ⟨fault, failed⟩
          rw [failed] at acquired
          cases acquired with
          | reused found => cases absent.symm.trans found
          | pool _ made | guest _ made => cases made
        refine iff_of_false ?_ read
        rintro ⟨_, ⟨⟩⟩
    | error fault =>
        have misread : Options.IsMisread target.options := by
          rw [← Options.ofOptions_fails_iff 5]
          cases acquired with
          | failed _ failed =>
              cases made : Pool.ofOptions target.options with
              | error fault => exact ⟨fault, rfl⟩
              | ok pool =>
                  rw [made] at failed
                  cases failed
        by_cases ordinary : fault.isOrdinary = true
        · simp only [ordinary, if_true]
          exact iff_of_true ⟨_, rfl⟩ misread
        · simp only [ordinary]
          exact iff_of_true ⟨_, rfl⟩ misread
  exact ends

end Session

namespace Options

/-- What is read out of options as the timeout, and what fails without it. -/
structure Read (options : Fields Value) : Prop where
  /-- A whole number is the timeout itself. -/
  whole : ∀ seconds, options.get? timeout = some (.int seconds) →
    queryTimeout options = .ok (some seconds)
  text : ∀ text, options.get? timeout = some (.text text) → Timed text (queryTimeout options)
  /-- Anything else is no timeout. -/
  other : (∀ seconds, options.get? timeout ≠ some (.int seconds)) →
    (∀ text, options.get? timeout ≠ some (.text text)) → queryTimeout options = .ok none
  fails : (∃ fault, queryTimeout options = .error fault) ↔ IsMisread options
  /-- A pool is made of the options unless their timeout is misread. -/
  pool : ∀ maxIdle, (∃ fault, Pool.ofOptions options maxIdle = .error fault) ↔ IsMisread options
  /-- So a session connects to a new source unless the timeout of its target is misread. -/
  connect : ∀ {caller : Caller} {σ : Type} (outside : Outside caller σ) (world : World)
      (state : σ) (number : Nat) (dsn : Option String) (target : Target),
    target.options = options → (world.sessions number).isInTransaction = false →
    (world.registries (world.sessions number).registry).factory = .driver →
    (world.registries (world.sessions number).registry).handles.get?
      (Session.chooseSource dsn target) = none →
    ((∃ fault, ((Session.connect number dsn target).run outside world state).outcome =
      .error fault) ↔ IsMisread options)

/-- Whatever the options, the timeout is a whole number, a text that is a numeral, or nothing;
reading it fails for the texts that look numeric and hold a digit mark without a value, a
separator, or too many digits, and for no other options. -/
theorem queryTimeout_read (options : Fields Value) : Read options where
  whole := by
    intro seconds given
    rw [queryTimeout, given]
  text := fun _ given => timed_of_text given
  other := queryTimeout_of_other
  fails := queryTimeout_fails_iff
  pool := ofOptions_fails_iff
  connect := by
    rintro caller σ outside world state number dsn target rfl free driver absent
    exact Session.connect_fails_iff free driver absent

end Options

end Midrange
