import Mathlib.Data.List.Infix
import Midrange.Dialect

/-!
# Stores

A store answers statements with rows.  It keeps the rows that a limiter asks for, and
may number the rows of an answer.  There are such stores: one that reads its
statements finds the limiters again that were written around the query of a table.
-/

namespace Midrange

variable {α : Type}

/-- A row of an answer, with its rank if the statement numbers its rows. -/
structure Ranked (α : Type) where
  row : α
  rank : Option Nat := none
  deriving DecidableEq, Repr

/-- How a statement keeps some of the rows of another: the first ones, or those
whose rank is in a window. -/
inductive Limiter where
  | first (count : Nat)
  | window (after upTo : Nat)
  deriving DecidableEq, Repr

namespace Limiter

def inWindow (after upTo rank : Nat) : Bool :=
  after < rank && rank ≤ upTo

/-- The statement with the limiter around it. -/
def write : Limiter → String → String
  | .first count, statement => statement ++ " " ++ Dialect.fetchFirst (.int count)
  | .window after upTo, statement =>
      Dialect.window statement (Value.int after).toText (Value.int upTo).toText

def keep : Limiter → List (Ranked α) → List (Ranked α)
  | .first count, rows => rows.take count
  | .window after upTo, rows => rows.filter (·.rank.any (inWindow after upTo))

end Limiter

/-- What answers statements; limiters do what they say. -/
structure Store (α : Type) where
  answer : String → List (Ranked α)
  limits : ∀ (limiter : Limiter) (statement : String),
    answer (limiter.write statement) = limiter.keep (answer statement)

/-- The answer to a statement, unless it cannot be written. -/
def Store.ask (store : Store α) (statement : Except Fault String) :
    Except Fault (List (Ranked α)) :=
  statement.map store.answer

theorem Store.ask_eq_ok {store : Store α} {rows : List (Ranked α)}
    {statement : Except Fault String} (result : store.ask statement = .ok rows) :
    ∃ text, statement = .ok text ∧ store.answer text = rows := by
  cases statement with
  | error fault => cases result
  | ok text => exact ⟨text, rfl, Except.ok.inj result⟩

/-! ## Reading a limiter -/

namespace Limiter

/-- The numeral after the last blank of a text, and the text up to that blank. -/
def lastNumeral? (text : List Char) : Option (List Char × Nat) :=
  let word := (text.reverse.takeWhile (· != ' ')).reverse
  if word ≠ [] ∧ word.all Char.isDigit then
    some ((text.reverse.dropWhile (· != ' ')).reverse, Nat.ofDigitChars 10 word 0)
  else
    none

def readWindow? (text : List Char) : Option (Limiter × List Char) := do
  let (text, upTo) ← lastNumeral? text
  let text ← text.dropSuffix? " and tmp.rn <= ".toList
  let (text, after) ← lastNumeral? text
  let text ← text.dropSuffix? ") tmp where tmp.rn > ".toList
  let inner ← text.dropPrefix? "select * from (".toList
  return (.window after upTo, inner)

def readFirst? (text : List Char) : Option (Limiter × List Char) := do
  let text ← text.dropSuffix? " rows only".toList
  let (text, count) ← lastNumeral? text
  let inner ← text.dropSuffix? " fetch first ".toList
  return (.first count, inner)

/-- The limiter of a statement, and the statement whose rows it keeps. -/
def read? (text : List Char) : Option (Limiter × List Char) :=
  readWindow? text <|> readFirst? text

theorem lastNumeral?_append {words word : List Char} (ended : [' '] <:+ words)
    (unbroken : ' ' ∉ word) (earlier : List Char) :
    lastNumeral? (earlier ++ words ++ word) =
      if word ≠ [] ∧ word.all Char.isDigit then
        some (earlier ++ words, Nat.ofDigitChars 10 word 0)
      else
        none := by
  obtain ⟨start, same⟩ := ended.trans (List.suffix_append earlier words)
  have passed : ∀ character ∈ word.reverse, (character != ' ') = true := by
    intro character member
    apply bne_iff_ne.mpr
    rintro rfl
    exact unbroken (List.mem_reverse.mp member)
  have reversed : (start ++ [' '] ++ word).reverse =
      word.reverse ++ ' ' :: start.reverse := by simp
  rw [← same, lastNumeral?, reversed, List.takeWhile_append_of_pos passed,
    List.dropWhile_append_of_pos passed]
  simp

theorem lastNumeral?_digits {words : List Char} (ended : [' '] <:+ words)
    (earlier : List Char) (number : Nat) :
    lastNumeral? (earlier ++ words ++ Nat.toDigits 10 number) =
      some (earlier ++ words, number) := by
  have digits (character : Char) (member : character ∈ Nat.toDigits 10 number) :
      character.isDigit = true :=
    Nat.isDigit_of_mem_toDigits (by decide) (by decide) member
  have unbroken : ' ' ∉ Nat.toDigits 10 number := by
    intro member
    have digit := digits ' ' member
    revert digit
    decide
  rw [lastNumeral?_append ended unbroken earlier,
    if_pos ⟨Nat.toDigits_ne_nil, List.all_eq_true.mpr digits⟩,
    Nat.ofDigitChars_ten_toDigits]

theorem dropSuffix?_append (text suffix : List Char) :
    (text ++ suffix).dropSuffix? suffix = some text :=
  List.dropSuffix?_eq_some_iff.mpr ⟨suffix, rfl, beq_self_eq_true suffix⟩

theorem dropPrefix?_append (start text : List Char) :
    (start ++ text).dropPrefix? start = some text :=
  List.dropPrefix?_eq_some_iff.mpr ⟨start, rfl, beq_self_eq_true start⟩

theorem toList_toText_int (number : Nat) :
    (Value.int number).toText.toList = Nat.toDigits 10 number := by
  have text : (Value.int number).toText = String.ofList (Nat.toDigits 10 number) := rfl
  rw [text, String.toList_ofList]

theorem readWindow?_write (after upTo : Nat) (statement : String) :
    readWindow? ((Limiter.window after upTo).write statement).toList =
      some (.window after upTo, statement.toList) := by
  have text : ((Limiter.window after upTo).write statement).toList =
      "select * from (".toList ++ statement.toList ++ ") tmp where tmp.rn > ".toList ++
        Nat.toDigits 10 after ++ " and tmp.rn <= ".toList ++ Nat.toDigits 10 upTo := by
    have unfolded : (Limiter.window after upTo).write statement =
        "select * from (" ++ statement ++ ") tmp where tmp.rn > " ++
          (Value.int after).toText ++ " and tmp.rn <= " ++ (Value.int upTo).toText := rfl
    simp only [unfolded, String.toList_append, toList_toText_int]
  have upToEnds : [' '] <:+ " and tmp.rn <= ".toList := by decide
  have afterEnds : [' '] <:+ ") tmp where tmp.rn > ".toList :=
    ⟨") tmp where tmp.rn >".toList, rfl⟩
  simp only [text, readWindow?, lastNumeral?_digits upToEnds, lastNumeral?_digits afterEnds,
    dropSuffix?_append, dropPrefix?_append, Option.bind_eq_bind, Option.bind_some,
    Option.pure_def]

theorem readFirst?_write (count : Nat) (statement : String) :
    readFirst? ((Limiter.first count).write statement).toList =
      some (.first count, statement.toList) := by
  have joined : " fetch first " = " " ++ "fetch first " := by decide
  have text : ((Limiter.first count).write statement).toList =
      statement.toList ++ " fetch first ".toList ++ Nat.toDigits 10 count ++
        " rows only".toList := by
    simp only [write, Dialect.fetchFirst, joined, String.toList_append, toList_toText_int,
      List.append_assoc]
  have ends : [' '] <:+ " fetch first ".toList := by decide
  simp only [text, readFirst?, lastNumeral?_digits ends, dropSuffix?_append,
    Option.bind_eq_bind, Option.bind_some, Option.pure_def]

theorem readWindow?_first (count : Nat) (statement : String) :
    readWindow? ((Limiter.first count).write statement).toList = none := by
  have ending : " rows only" = " rows " ++ "only" := by decide
  have unread (earlier : List Char) :
      lastNumeral? (earlier ++ " rows ".toList ++ "only".toList) = none := by
    have ends : [' '] <:+ " rows ".toList := by decide
    rw [lastNumeral?_append ends (by decide)]
    exact if_neg (by decide)
  simp only [write, Dialect.fetchFirst, ending, String.toList_append, ← List.append_assoc,
    readWindow?, unread]
  rfl

/-- A limiter that was written is read again. -/
theorem read?_write (limiter : Limiter) (statement : String) :
    read? (limiter.write statement).toList = some (limiter, statement.toList) := by
  cases limiter with
  | first count => rw [read?, readWindow?_first, readFirst?_write]; rfl
  | window after upTo => rw [read?, readWindow?_write]; rfl

theorem length_of_lastNumeral? {text rest : List Char} {number : Nat}
    (read : lastNumeral? text = some (rest, number)) : rest.length ≤ text.length := by
  simp only [lastNumeral?, Option.ite_none_right_eq_some, Option.some.injEq,
    Prod.mk.injEq] at read
  obtain ⟨_, rfl, _⟩ := read
  simpa using (List.dropWhile_suffix (l := text.reverse) (· != ' ')).length_le

theorem length_of_dropSuffix? {text rest suffix : List Char}
    (read : text.dropSuffix? suffix = some rest) :
    rest.length + suffix.length = text.length := by
  obtain ⟨dropped, rfl, same⟩ := List.dropSuffix?_eq_some_iff.mp read
  rw [eq_of_beq same, List.length_append]

theorem length_of_dropPrefix? {text rest start : List Char}
    (read : text.dropPrefix? start = some rest) :
    start.length + rest.length = text.length := by
  obtain ⟨dropped, rfl, same⟩ := List.dropPrefix?_eq_some_iff.mp read
  rw [eq_of_beq same, List.length_append]

/-- The statement inside a limiter is shorter. -/
theorem length_of_read? {text inner : List Char} {limiter : Limiter}
    (read : read? text = some (limiter, inner)) : inner.length < text.length := by
  simp only [read?, Option.orElse_eq_orElse, Option.orElse_eq_or, Option.or_eq_some_iff] at read
  rcases read with window | ⟨_, first⟩
  · simp only [readWindow?, Option.bind_eq_bind, Option.bind_eq_some_iff, Prod.exists] at window
    obtain ⟨_, _, numeral, _, upTo, _, _, numeral', _, after, _, start, same⟩ := window
    cases same
    have := length_of_lastNumeral? numeral
    have := length_of_lastNumeral? numeral'
    have := length_of_dropSuffix? upTo
    have := length_of_dropSuffix? after
    have := length_of_dropPrefix? start
    simp at *
    omega
  · simp only [readFirst?, Option.bind_eq_bind, Option.bind_eq_some_iff, Prod.exists] at first
    obtain ⟨_, only, _, _, numeral, _, words, same⟩ := first
    cases same
    have := length_of_lastNumeral? numeral
    have := length_of_dropSuffix? only
    have := length_of_dropSuffix? words
    simp at *
    omega

end Limiter

/-! ## A store that reads its statements -/

namespace Store

variable (base : List Char → List (Ranked α))

def readAnswer (text : List Char) : List (Ranked α) :=
  match read : Limiter.read? text with
  | some (limiter, inner) =>
      have := Limiter.length_of_read? read
      limiter.keep (readAnswer inner)
  | none => base text
termination_by text.length

theorem readAnswer_of_read? {text inner : List Char} {limiter : Limiter}
    (read : Limiter.read? text = some (limiter, inner)) :
    readAnswer base text = limiter.keep (readAnswer base inner) := by
  rw [readAnswer]
  split
  case h_1 found => rw [read] at found; cases found; rfl
  case h_2 found => rw [read] at found; cases found

theorem readAnswer_of_none {text : List Char} (read : Limiter.read? text = none) :
    readAnswer base text = base text := by
  rw [readAnswer]
  split
  case h_1 found => rw [read] at found; cases found
  case h_2 => rfl

/-- The store that answers statements without a limiter from tables. -/
def ofTables : Store α where
  answer := fun statement => readAnswer base statement.toList
  limits := fun limiter statement => readAnswer_of_read? base (limiter.read?_write statement)

end Store

end Midrange
