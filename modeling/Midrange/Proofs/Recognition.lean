import Midrange.Select

/-!
# Distinct counts across seams

The aggregate over distinct values is looked for in a select list.  Here it is told
where no match can be when texts are joined: a match does not cross the beginning of
a text that stops it, and does not begin in a text without the first letter of the
keywords.  So the column that numbers the rows of a page adds no match of its own.
-/

namespace Midrange.Select

open Midrange.Text

/-- A text that no match on its left reaches into.  Its first character is in no
keyword and, as a blank, does not begin a match; its first word closes no
expression. -/
structure Stops (character : Char) (later : List Char) : Prop where
  foreign : countKeyword.any (spells · character) = false
  unopened : (isBlank character &&
    ((later.takeWhile (!isBlank ·)).drop 1).contains ')') = false
  unclosed : ')' ∉ (character :: later).takeWhile (!isBlank ·)

variable {character : Char} {later : List Char}

theorem afterKeyword?_append {keyword : List Char}
    (foreign : keyword.any (spells · character) = false) (text : List Char) :
    afterKeyword? keyword (text ++ character :: later) =
      (afterKeyword? keyword text).map (· ++ character :: later) := by
  induction keyword generalizing text with
  | nil => cases text <;> rfl
  | cons letter keyword induction =>
      rw [List.any_cons, Bool.or_eq_false_iff] at foreign
      cases text with
      | nil => simp [afterKeyword?, foreign.1]
      | cons first text =>
          have rest := induction foreign.2 text
          by_cases same : spells letter first = true
          · simpa [afterKeyword?, same] using rest
          · simp [afterKeyword?, same]

/-- An expression is not closed by a word that it runs into. -/
theorem closes_append {word later : List Char}
    (unclosed : ')' ∉ later.takeWhile (!isBlank ·)) :
    (((word ++ later).takeWhile (!isBlank ·)).drop 1).contains ')' =
      ((word.takeWhile (!isBlank ·)).drop 1).contains ')' := by
  rw [Bool.eq_iff_iff, List.contains_iff_mem, List.contains_iff_mem, List.takeWhile_append]
  split
  case isFalse => exact Iff.rfl
  case isTrue whole =>
    have same : word.takeWhile (!isBlank ·) = word :=
      (List.takeWhile_prefix _).eq_of_length whole
    rw [same, List.drop_append, List.mem_append]
    exact or_iff_left fun member => unclosed (List.mem_of_mem_drop member)

theorem startsWithCount_append (stops : Stops character later) (text : List Char) :
    startsWithCount (text ++ character :: later) = startsWithCount text := by
  rw [startsWithCount, afterKeyword?_append stops.foreign, startsWithCount]
  match afterKeyword? countKeyword text with
  | none => rfl
  | some [] => exact stops.unopened
  | some (blank :: rest) => exact congrArg (isBlank blank && ·) (closes_append stops.unclosed)

/-- No match crosses the beginning of a text that stops it. -/
theorem containsCount_append (stops : Stops character later) (text : List Char) :
    containsCount (text ++ character :: later) =
      (containsCount text || containsCount (character :: later)) := by
  induction text with
  | nil => rfl
  | cons first text induction =>
      have starts := startsWithCount_append stops (first :: text)
      rw [List.cons_append] at starts
      rw [List.cons_append, containsCount, containsCount, starts, induction, Bool.or_assoc]

theorem countKeyword_eq : countKeyword = 'c' :: "ount(distinct".toList := rfl

/-- A match does not begin in a text in which the first letter of the keywords does
not occur. -/
theorem containsCount_of_foreign {earlier : List Char}
    (foreign : earlier.any (spells 'c') = false) (text : List Char) :
    containsCount (earlier ++ text) = containsCount text := by
  induction earlier with
  | nil => rfl
  | cons first earlier induction =>
      rw [List.any_cons, Bool.or_eq_false_iff] at foreign
      have starts : startsWithCount (first :: (earlier ++ text)) = false := by
        rw [startsWithCount, countKeyword_eq, afterKeyword?, foreign.1]
        rfl
      rw [List.cons_append, containsCount, starts, Bool.false_or]
      exact induction foreign.2

theorem toList_rowNumber (orderBy : String) :
    (", " ++ Dialect.rowNumber orderBy).toList =
      ", row_number() over(".toList ++ orderBy.toList ++ ")".toList ++
        ' ' :: "rn".toList := by
  have unfolded : Dialect.rowNumber orderBy =
      "row_number() over(" ++ orderBy ++ ") rn" := rfl
  have head : ", row_number() over(".toList =
      ", ".toList ++ "row_number() over(".toList := by decide
  have tail : ") rn".toList = ")".toList ++ ' ' :: "rn".toList := by decide
  simp only [unfolded, String.toList_append, head, tail, List.append_assoc]

/-- The numbering column adds no match to a select list but those of the order that
it numbers by. -/
theorem isCountDistinct_numbered (selects orderBy : String) :
    isCountDistinct (selects ++ (", " ++
        Dialect.rowNumber (clause "order by " orderBy))) =
      (isCountDistinct selects || isCountDistinct (orderBy ++ ")")) := by
  have comma (rest : List Char) : Stops ',' (' ' :: rest) :=
    ⟨by decide, by rw [show isBlank ',' = false by decide, Bool.false_and],
      show ')' ∉ [','] by decide⟩
  have name : Stops ' ' "rn".toList := ⟨by decide, by decide, by decide⟩
  have keyword : ∃ earlier : List Char,
      (", row_number() over(".toList ++ earlier).any (spells 'c') = false ∧
      (clause "order by " orderBy).toList = earlier ++ orderBy.toList := by
    by_cases empty : orderBy = ""
    · exact ⟨[], by decide, by simp [clause, empty]⟩
    · exact ⟨"order by ".toList, by decide, by simp [clause, empty]⟩
  obtain ⟨earlier, foreign, order⟩ := keyword
  have column : (", " ++ Dialect.rowNumber (clause "order by " orderBy)).toList =
      ", row_number() over(".toList ++ earlier ++ (orderBy ++ ")").toList ++
        ' ' :: "rn".toList := by
    rw [toList_rowNumber, order, String.toList_append]
    simp only [List.append_assoc]
  calc
    isCountDistinct (selects ++ (", " ++ Dialect.rowNumber (clause "order by " orderBy)))
    _ = (isCountDistinct selects ||
          containsCount (", row_number() over(".toList ++ earlier ++
            (orderBy ++ ")").toList ++ ' ' :: "rn".toList)) := by
      rw [isCountDistinct, String.toList_append, column]
      exact containsCount_append (comma _) selects.toList
    _ = (isCountDistinct selects || isCountDistinct (orderBy ++ ")")) := by
      have rest : containsCount (' ' :: "rn".toList) = false := by decide
      rw [List.append_assoc _ (orderBy ++ ")").toList, containsCount_of_foreign foreign,
        containsCount_append name, rest, Bool.or_false]
      rfl

end Midrange.Select
