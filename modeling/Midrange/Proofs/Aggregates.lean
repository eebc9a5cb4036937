import Mathlib.Data.List.TakeWhile
import Midrange.Proofs.Recognition

/-!
# Aggregates in select lists

A select list may hold an aggregate over distinct values: the keywords in any letter case,
blanks, and an expression with balanced parentheses up to its closing parenthesis.  Here it is
told which of these aggregates are recognised, and that a query for distinct rows is written
without the word exactly if its select list holds one that is.
-/

namespace Midrange.Select

open Midrange.Text

/-! ## The aggregate -/

/-- The number of parentheses that are open behind a text, unless one is closed that is not
open. -/
def openAfter? (depth : Nat) : List Char → Option Nat
  | [] => some depth
  | character :: rest =>
      if character = '(' then openAfter? (depth + 1) rest
      else if character = ')' then
        match depth with
        | 0 => none
        | depth + 1 => openAfter? depth rest
      else openAfter? depth rest

/-- An aggregate over distinct values.  Its expression is not empty, has balanced parentheses,
and may hold blanks. -/
structure Aggregate where
  keyword : List Char
  blanks : List Char
  expression : List Char
  spelled : keyword.map Char.toLower = countKeyword
  spaced : blanks ≠ []
  blank : ∀ character ∈ blanks, isBlank character = true
  filled : expression ≠ []
  balanced : openAfter? 0 expression = some 0

namespace Aggregate

def write (aggregate : Aggregate) : List Char :=
  aggregate.keyword ++ aggregate.blanks ++ aggregate.expression ++ [')']

/-- There is one blank behind the keywords, and the expression has no blank or holds a closing
parenthesis before its first one. -/
def IsPlain (aggregate : Aggregate) : Prop :=
  aggregate.blanks.length = 1 ∧
    ((∀ character ∈ aggregate.expression, isBlank character = false) ∨
      ')' ∈ aggregate.expression.takeWhile (!isBlank ·))

instance (aggregate : Aggregate) : Decidable aggregate.IsPlain :=
  -- The characters of the expression are tried, not all characters that there are.
  let _ := List.decidableBAll (isBlank · = false) aggregate.expression
  inferInstanceAs (Decidable (_ ∧ (_ ∨ _)))

end Aggregate

/-! ## What is recognised -/

theorem afterKeyword?_spelled {letters keyword : List Char}
    (spelled : keyword.map Char.toLower = letters) (rest : List Char) :
    afterKeyword? letters (keyword ++ rest) = some rest := by
  induction keyword generalizing letters with
  | nil =>
      subst spelled
      cases rest <;> rfl
  | cons character keyword induction =>
      subst spelled
      have same : spells character.toLower character = true := by simp [spells]
      rw [List.map_cons, List.cons_append, afterKeyword?, if_pos same]
      exact induction rfl

/-- An expression with balanced parentheses does not begin with a closing one, so its first
word closes it exactly if the word has a closing parenthesis at all. -/
theorem closes_balanced {expression : List Char} (filled : expression ≠ [])
    (balanced : openAfter? 0 expression = some 0) (after : List Char) :
    (((expression ++ ')' :: after).takeWhile (!isBlank ·)).drop 1).contains ')' = true ↔
      (∀ character ∈ expression, isBlank character = false) ∨
        ')' ∈ expression.takeWhile (!isBlank ·) := by
  obtain ⟨first, rest, rfl⟩ := List.exists_cons_of_ne_nil filled
  have opens : first ≠ ')' := by
    rintro rfl
    cases balanced
  have later {word : List Char} : ')' ∈ first :: word ↔ ')' ∈ word := by
    simp [Ne.symm opens]
  rw [List.contains_iff_mem, List.cons_append]
  by_cases blank : isBlank first = true
  · simp [blank]
  · have word (text : List Char) : (first :: text).takeWhile (!isBlank ·) =
        first :: text.takeWhile (!isBlank ·) :=
      List.takeWhile_cons_of_pos (by simpa using blank)
    rw [word, word, List.drop_one, List.tail_cons, later, List.takeWhile_append]
    split
    case isTrue whole =>
      have plain : ∀ character ∈ first :: rest, isBlank character = false := by
        have same := (List.takeWhile_prefix (!isBlank ·)).eq_of_length whole
        simpa [blank] using List.takeWhile_eq_self_iff.mp same
      have closing : (')' :: after).takeWhile (!isBlank ·) =
          ')' :: after.takeWhile (!isBlank ·) :=
        List.takeWhile_cons_of_pos (by decide)
      rw [closing]
      exact iff_of_true (by simp) (.inl plain)
    case isFalse cut =>
      have blanks : ¬∀ character ∈ first :: rest, isBlank character = false := by
        intro plain
        refine cut (congrArg List.length (List.takeWhile_eq_self_iff.mpr ?_))
        intro character member
        rw [plain character (List.mem_cons_of_mem _ member)]
        rfl
      exact (or_iff_right blanks).symm

/-- An aggregate is recognised where it stands exactly if it is plain. -/
theorem startsWithCount_write (aggregate : Aggregate) (after : List Char) :
    startsWithCount (aggregate.write ++ after) = true ↔ aggregate.IsPlain := by
  obtain ⟨first, more, parts⟩ := List.exists_cons_of_ne_nil aggregate.spaced
  have blank := aggregate.blank
  rw [parts] at blank
  have opening : isBlank first = true := blank first List.mem_cons_self
  have written : aggregate.write ++ after =
      aggregate.keyword ++ first :: (more ++ (aggregate.expression ++ ')' :: after)) := by
    simp [Aggregate.write, parts]
  rw [written, startsWithCount, afterKeyword?_spelled aggregate.spelled]
  dsimp only
  rw [opening, Bool.true_and, Aggregate.IsPlain, parts]
  cases more with
  | nil =>
      rw [List.nil_append, closes_balanced aggregate.filled aggregate.balanced]
      simp
  | cons second more =>
      have second : isBlank second = true :=
        blank second (List.mem_cons_of_mem _ List.mem_cons_self)
      simp [second]

/-- A text holds a match exactly if one begins somewhere in it. -/
theorem containsCount_iff {text : List Char} :
    containsCount text = true ↔
      ∃ earlier later, text = earlier ++ later ∧ startsWithCount later = true := by
  induction text with
  | nil =>
      constructor
      · intro found
        cases found
      · rintro ⟨earlier, later, parts, starts⟩
        obtain ⟨rfl, rfl⟩ := List.nil_eq_append_iff.mp parts
        cases starts
  | cons character rest induction =>
      rw [containsCount, Bool.or_eq_true, induction]
      constructor
      · rintro (starts | ⟨earlier, later, parts, starts⟩)
        · exact ⟨[], _, rfl, starts⟩
        · exact ⟨character :: earlier, later, congrArg (character :: ·) parts, starts⟩
      · rintro ⟨earlier, later, parts, starts⟩
        cases earlier with
        | nil => exact .inl (by rwa [parts])
        | cons first earlier => exact .inr ⟨earlier, later, (List.cons.inj parts).2, starts⟩

/-! ## Statements -/

/-- The query with equal rows among its rows. -/
def repeating (query : Select) : Select :=
  { query with distinct := false }

/-- The query with the word at the beginning of its select list. -/
def worded (query : Select) : Select :=
  { query with distinct := false, selects := "distinct " ++ query.selects }

theorem statement_of_found (dialect : Dialect) {query : Select}
    (found : isCountDistinct query.selects = true) :
    query.statement dialect = query.repeating.statement dialect := by
  have word : query.distinctWord = query.repeating.distinctWord := by
    simp [distinctWord, found, repeating]
  rw [statement, limited, body, word]
  rfl

theorem statement_of_unfound (dialect : Dialect) {query : Select} (wanted : query.distinct = true)
    (unfound : isCountDistinct query.selects = false) :
    query.statement dialect = query.worded.statement dialect := by
  have same : query.body dialect = query.worded.body dialect := by
    have word : query.distinctWord = "distinct " := by
      simp [distinctWord, wanted, unfound]
    have columns : query.worded.distinctWord ++ query.worded.columns =
        "distinct " ++ query.columns := by
      simp only [distinctWord, worded, columns, Bool.false_and, String.append_assoc]
      rfl
    have opening : "select " ++ query.distinctWord ++ query.columns =
        "select " ++ query.worded.distinctWord ++ query.worded.columns := by
      rw [String.append_assoc, String.append_assoc, word, columns]
    rw [body, opening]
    rfl
  rw [statement, limited, same]
  rfl

/-- A match begins in the select list, and not behind the text. -/
def FoundElsewhere (query : Select) (before : List Char) : Prop :=
  ∃ earlier later, query.selects.toList = earlier ++ later ∧ earlier ≠ before ∧
    startsWithCount later = true

/-- What becomes of the word in a query for distinct rows whose select list holds an aggregate
behind a text. -/
structure Undoubled (query : Select) (before : List Char) (aggregate : Aggregate) : Prop where
  /-- No word is written, in any mode, if the aggregate is plain or a match begins
  elsewhere. -/
  omitted : aggregate.IsPlain ∨ query.FoundElsewhere before →
    ∀ dialect, query.statement dialect = query.repeating.statement dialect
  /-- Otherwise the word is written in front of the list with the aggregate. -/
  doubled : ¬(aggregate.IsPlain ∨ query.FoundElsewhere before) →
    ∀ dialect, query.statement dialect = query.worded.statement dialect

/-- A query for distinct rows whose select list holds an aggregate over distinct values is
written without the word exactly if a match is recognised: that of the aggregate, which has to
be plain, or another one. -/
theorem aggregate_undoubled {query : Select} {aggregate : Aggregate} {before after : List Char}
    (wanted : query.distinct = true)
    (holds : query.selects.toList = before ++ (aggregate.write ++ after)) :
    query.Undoubled before aggregate where
  omitted := by
    intro recognised dialect
    refine statement_of_found dialect (containsCount_iff.mpr ?_)
    rcases recognised with plain | ⟨earlier, later, parts, -, starts⟩
    · exact ⟨before, _, holds, (startsWithCount_write aggregate after).mpr plain⟩
    · exact ⟨earlier, later, parts, starts⟩
  doubled := by
    intro missed dialect
    refine statement_of_unfound dialect wanted (Bool.eq_false_iff.mpr fun found => missed ?_)
    obtain ⟨earlier, later, parts, starts⟩ := containsCount_iff.mp found
    by_cases here : earlier = before
    · -- The match is that of the aggregate itself.
      rw [here, holds, List.append_cancel_left_eq] at parts
      exact .inl ((startsWithCount_write aggregate after).mp (by rwa [parts]))
    · exact .inr ⟨earlier, later, parts, here, starts⟩

/-- An aggregate over a call with two arguments. -/
def Aggregate.ofCall : Aggregate where
  keyword := "Count(DISTINCT".toList
  blanks := [' ']
  expression := "coalesce(a, b)".toList
  spelled := by decide
  spaced := List.cons_ne_nil _ _
  blank := List.forall_mem_singleton.mpr rfl
  filled := by decide
  balanced := rfl

/-- The blank between the arguments keeps the aggregate from being recognised, although it is
balanced and stands behind one blank. -/
theorem aggregate_undoubled_call :
    let query : Select :=
      { table := "users", selects := "sum(a), Count(DISTINCT coalesce(a, b)) as n"
        distinct := true, limit := .page (.int 10) (.int 5) }
    query.distinct = true ∧
      query.selects.toList = "sum(a), ".toList ++ (Aggregate.ofCall.write ++ " as n".toList) ∧
      query.Undoubled "sum(a), ".toList Aggregate.ofCall ∧ ¬Aggregate.ofCall.IsPlain ∧
      query.body {} = "select distinct sum(a), Count(DISTINCT coalesce(a, b)) as n, " ++
        "row_number() over() rn from \"users\"" := by
  intro query
  have holds : query.selects.toList =
      "sum(a), ".toList ++ (Aggregate.ofCall.write ++ " as n".toList) := by
    decide
  exact ⟨rfl, holds, aggregate_undoubled rfl holds, by decide, by decide⟩

end Midrange.Select
