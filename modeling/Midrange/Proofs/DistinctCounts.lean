import Mathlib
import Midrange.Proofs.Aggregates

/-!
# The language of distinct counts

A text is recognised as a distinct count if it holds a match anywhere: the keywords, each
letter in one of its forms, one blank, and an expression without blanks up to a closing
parenthesis.  The expression may hold closing parentheses itself.
-/

namespace Midrange.Select

open Midrange.Text

/-- The characters that stand for a letter of the keywords. -/
def forms (letter : Char) : List Char :=
  letter :: letter.toUpper ::
    if letter = 'i' then ['İ', 'ı'] else if letter = 's' then ['ſ'] else []

/-- A keyword is spelled letter by letter, each in one of its forms. -/
def Spelled (letters keyword : List Char) : Prop :=
  List.Forall₂ (fun letter character => character ∈ forms letter) letters keyword

/-- A match: a keyword in any letter case, one blank, and an expression that is not empty and
has no blanks. -/
structure DistinctCount where
  keyword : List Char
  blank : Char
  expression : List Char
  spelled : Spelled countKeyword keyword
  spaced : isBlank blank = true
  filled : expression ≠ []
  unbroken : ∀ character ∈ expression, isBlank character = false

def DistinctCount.write (count : DistinctCount) : List Char :=
  count.keyword ++ count.blank :: (count.expression ++ [')'])

def DistinctCount.text (count : DistinctCount) : String :=
  String.ofList count.write

/-! ## The keywords -/

theorem eq_toLower_iff {letter character : Char} (small : ¬letter.isUpper) :
    letter = character.toLower ↔ character = letter ∨ character = letter.toUpper := by
  constructor
  · rintro rfl
    by_cases capital : character.isUpper
    · right
      rw [Char.toUpper_toLower_eq_toUpper,
        Char.toUpper_eq_of_not_isLower (Char.not_isLower_of_isUpper capital)]
    · exact .inl (Char.toLower_eq_of_not_isUpper capital).symm
  · rintro (rfl | rfl)
    · exact (Char.toLower_eq_of_not_isUpper small).symm
    · rw [Char.toLower_toUpper_eq_toLower, Char.toLower_eq_of_not_isUpper small]

theorem spells_iff {letter character : Char} (small : ¬letter.isUpper) :
    spells letter character = true ↔ character ∈ forms letter := by
  have either : spells letter character = true ↔ letter = character.toLower ∨
      letter = 'i' ∧ (character = 'İ' ∨ character = 'ı') ∨ letter = 's' ∧ character = 'ſ' := by
    simp [spells, or_assoc]
  rw [either, eq_toLower_iff small, forms, List.mem_cons, List.mem_cons, or_assoc]
  refine or_congr_right (or_congr_right ?_)
  split
  case isTrue dotted =>
    subst dotted
    simp
  case isFalse undotted =>
    split
    case isTrue long =>
      subst long
      simp
    case isFalse short => simp [undotted, short]

theorem small_countKeyword : ∀ letter ∈ countKeyword, ¬letter.isUpper := by
  have small : countKeyword.all (!·.isUpper) = true := by decide
  simpa using small

/-- What follows a keyword is found exactly if the text begins with a spelling of it. -/
theorem afterKeyword?_eq_some {letters text rest : List Char}
    (small : ∀ letter ∈ letters, ¬letter.isUpper) :
    afterKeyword? letters text = some rest ↔
      ∃ keyword, Spelled letters keyword ∧ text = keyword ++ rest := by
  induction letters generalizing text with
  | nil =>
      constructor
      · intro found
        exact ⟨[], .nil, Option.some.inj found⟩
      · rintro ⟨keyword, spelled, rfl⟩
        cases spelled
        rfl
  | cons letter letters induction =>
      obtain ⟨first, later⟩ := List.forall_mem_cons.mp small
      cases text with
      | nil =>
          constructor
          · intro found
            cases found
          · rintro ⟨keyword, spelled, parts⟩
            cases spelled
            cases parts
      | cons character text =>
          rw [afterKeyword?]
          split
          case isTrue spells =>
            have form := (spells_iff first).mp spells
            rw [induction later]
            constructor
            · rintro ⟨keyword, spelled, rfl⟩
              exact ⟨character :: keyword, .cons form spelled, rfl⟩
            · rintro ⟨keyword, spelled, parts⟩
              cases spelled with
              | cons _ spelled => exact ⟨_, spelled, (List.cons.inj parts).2⟩
          case isFalse other =>
            refine iff_of_false (Option.some_ne_none _).symm ?_
            rintro ⟨keyword, spelled, parts⟩
            cases spelled with
            | cons form spelled =>
                rw [(List.cons.inj parts).1] at other
                exact other ((spells_iff first).mpr form)

/-! ## The expression -/

/-- The first word of a text has a closing parenthesis behind its first character exactly if the
text begins with an expression and its parenthesis. -/
theorem closes_iff {text : List Char} :
    ((text.takeWhile (!isBlank ·)).drop 1).contains ')' = true ↔
      ∃ expression after, text = expression ++ ')' :: after ∧ expression ≠ [] ∧
        ∀ character ∈ expression, isBlank character = false := by
  rw [List.contains_iff_mem]
  constructor
  · intro closes
    obtain ⟨inner, later, parts⟩ := List.append_of_mem closes
    obtain ⟨first, word⟩ : ∃ first, text.takeWhile (!isBlank ·) =
        first :: (inner ++ ')' :: later) := by
      cases word : text.takeWhile (!isBlank ·) with
      | nil => simp [word] at parts
      | cons first rest => exact ⟨first, by rw [← parts, word, List.drop_one, List.tail_cons]⟩
    refine ⟨first :: inner, later ++ text.dropWhile (!isBlank ·), ?_, List.cons_ne_nil _ _, ?_⟩
    · conv_lhs => rw [← List.takeWhile_append_dropWhile (p := (!isBlank ·)) (l := text), word]
      simp
    · intro character member
      have among : character ∈ text.takeWhile (!isBlank ·) := by
        rw [word, ← List.cons_append]
        exact List.mem_append_left _ member
      simpa using List.all_eq_true.mp List.all_takeWhile character among
  · rintro ⟨expression, after, rfl, filled, unbroken⟩
    obtain ⟨first, inner, rfl⟩ := List.exists_cons_of_ne_nil filled
    have kept : ∀ character ∈ first :: inner, (!isBlank character) = true := by
      simpa using unbroken
    have closing : (')' :: after).takeWhile (!isBlank ·) =
        ')' :: after.takeWhile (!isBlank ·) :=
      List.takeWhile_cons_of_pos (by decide)
    rw [List.takeWhile_append_of_pos kept, closing]
    simp

/-! ## Matches -/

theorem startsWithCount_iff {text : List Char} :
    startsWithCount text = true ↔ ∃ (count : DistinctCount) (after : List Char),
      text = count.write ++ after := by
  constructor
  · intro starts
    rw [startsWithCount] at starts
    split at starts
    case h_1 blank rest found =>
      obtain ⟨keyword, spelled, rfl⟩ := (afterKeyword?_eq_some small_countKeyword).mp found
      obtain ⟨spaced, closes⟩ := Bool.and_eq_true_iff.mp starts
      obtain ⟨expression, after, rfl, filled, unbroken⟩ := closes_iff.mp closes
      refine ⟨⟨keyword, blank, expression, spelled, spaced, filled, unbroken⟩, after, ?_⟩
      simp [DistinctCount.write]
    case h_2 => cases starts
  · rintro ⟨count, after, rfl⟩
    have written : count.write ++ after =
        count.keyword ++ count.blank :: (count.expression ++ ')' :: after) := by
      simp [DistinctCount.write]
    have found := (afterKeyword?_eq_some small_countKeyword).mpr ⟨_, count.spelled, written⟩
    rw [startsWithCount, found]
    exact Bool.and_eq_true_iff.mpr
      ⟨count.spaced, closes_iff.mpr ⟨_, after, rfl, count.filled, count.unbroken⟩⟩

/-- A text is recognised exactly if some match stands in it. -/
theorem isCountDistinct_iff {text : String} :
    isCountDistinct text = true ↔ ∃ count : DistinctCount, count.write <:+: text.toList := by
  rw [isCountDistinct, containsCount_iff]
  constructor
  · rintro ⟨before, later, parts, starts⟩
    obtain ⟨count, after, rfl⟩ := startsWithCount_iff.mp starts
    exact ⟨count, before, after, by rw [parts, List.append_assoc]⟩
  · rintro ⟨count, before, after, parts⟩
    refine ⟨before, count.write ++ after, ?_, startsWithCount_iff.mpr ⟨count, after, rfl⟩⟩
    rw [← parts, List.append_assoc]

theorem infix_toList_iff {part text : String} :
    part.toList <:+: text.toList ↔ ∃ before after, text = before ++ part ++ after := by
  constructor
  · rintro ⟨before, after, parts⟩
    refine ⟨.ofList before, .ofList after, String.toList_inj.mp ?_⟩
    simp [← parts]
  · rintro ⟨before, after, rfl⟩
    exact ⟨before.toList, after.toList, by simp⟩

/-- How a text is told to count distinct values. -/
structure Told (text : String) : Prop where
  /-- The text is a match with any texts before and after it. -/
  exactly : isCountDistinct text = true ↔
    ∃ (before after : String) (count : DistinctCount), text = before ++ count.text ++ after
  /-- What is recognised stays so among further text. -/
  stable : isCountDistinct text = true →
    ∀ before after, isCountDistinct (before ++ text ++ after) = true
  /-- Nothing but the matches counts: a text that holds the same ones gets the same answer. -/
  only : ∀ other : String,
    (∀ count : DistinctCount, count.text.toList <:+: other.toList ↔
      count.text.toList <:+: text.toList) → isCountDistinct other = isCountDistinct text

theorem isCountDistinct_told (text : String) : Told text where
  exactly := by
    rw [isCountDistinct_iff]
    constructor
    · rintro ⟨count, among⟩
      have part : count.text.toList <:+: text.toList := by
        rwa [DistinctCount.text, String.toList_ofList]
      obtain ⟨before, after, parts⟩ := infix_toList_iff.mp part
      exact ⟨before, after, count, parts⟩
    · rintro ⟨before, after, count, parts⟩
      refine ⟨count, ?_⟩
      have part := infix_toList_iff.mpr ⟨before, after, parts⟩
      rwa [DistinctCount.text, String.toList_ofList] at part
  stable := by
    intro found before after
    obtain ⟨count, among⟩ := isCountDistinct_iff.mp found
    have inside : text.toList <:+: (before ++ text ++ after).toList :=
      infix_toList_iff.mpr ⟨before, after, rfl⟩
    exact isCountDistinct_iff.mpr ⟨count, among.trans inside⟩
  only := by
    intro other same
    simp only [DistinctCount.text, String.toList_ofList] at same
    rw [Bool.eq_iff_iff, isCountDistinct_iff, isCountDistinct_iff]
    exact exists_congr same

end Midrange.Select
