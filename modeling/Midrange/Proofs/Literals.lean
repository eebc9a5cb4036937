import Midrange.Proofs.Quotes

/-!
# Literals

A literal is read back as the text it was written for, and the reader stops behind it
whatever the text holds, as long as no further quote follows.  In the dialect of the
store the literal of a text is told from those of numbers, truths and null by its quote,
and no number is spelled like null.
-/

namespace Midrange

open Midrange.Number
open Dialect (doubleQuotes)

/-! ## Reading literals -/

/-- The text of the literal at the beginning of a statement, and what stands behind it. -/
def readLiteral? (quote : Char) : List Char → Option (List Char × List Char)
  | [] => none
  | character :: rest => if character = quote then readQuoted? quote rest else none

variable {quote : Char} {written text rest : List Char}

/-- What ends a literal is not followed by a further quote. -/
theorem head?_of_readQuoted? (read : readQuoted? quote written = some (text, rest)) :
    rest.head? ≠ some quote := by
  fun_induction readQuoted? quote written generalizing text with
  | case1 => cases read
  | case2 =>
      cases read
      exact (Option.some_ne_none quote).symm
  | case3 => cases read
  | case4 later induction =>
      obtain ⟨⟨text, rest⟩, found, same⟩ := Option.map_eq_some_iff.mp read
      cases same
      exact induction found
  | case5 next later other =>
      cases read
      simpa using other
  | case6 character next later other induction =>
      obtain ⟨⟨text, rest⟩, found, same⟩ := Option.map_eq_some_iff.mp read
      cases same
      exact induction found

/-- Exactly what is written with its quotes doubled is read, up to the last of them. -/
theorem readLiteral?_eq_some_iff :
    readLiteral? quote written = some (text, rest) ↔
      written = quote :: doubleQuotes [quote] 0 text ++ quote :: rest ∧
        rest.head? ≠ some quote := by
  constructor
  · intro read
    cases written with
    | nil => cases read
    | cons first later =>
        obtain ⟨rfl, read⟩ := Option.ite_none_right_eq_some.mp read
        rw [eq_of_readQuoted? read]
        exact ⟨rfl, head?_of_readQuoted? read⟩
  · rintro ⟨rfl, ended⟩
    rw [List.cons_append, readLiteral?, if_pos rfl, readQuoted?_doubleQuotes text ended]

/-! ## Writing literals -/

/-- Holds for the values that stand in statements without quotes. -/
def Value.isBare : Value → Bool
  | .null | .bool _ | .int _ | .float _ | .decimal _ => true
  | _ => false

namespace Dialect

variable {dialect : Dialect}

theorem toList_quoteText (single : dialect.literalQuote.toList = [quote]) (text : String) :
    (dialect.quoteText text).toList =
      quote :: doubleQuotes [quote] 0 text.toList ++ [quote] := by
  rw [quoteText, single, String.toList_ofList]
  rfl

theorem quoteLiteral_of_quoted {value : Value} (quoted : value.isBare = false) :
    dialect.quoteLiteral value = dialect.quoteText value.toText := by
  cases value with
  | null | bool | int | float | decimal => cases quoted
  | text | list | tuple | dict | immediate => rfl

/-- A quoted text is read back, and the reader stops behind it exactly if no further quote
follows. -/
theorem readLiteral?_quoteText (single : dialect.literalQuote.toList = [quote]) (text : String)
    (rest : List Char) :
    readLiteral? quote ((dialect.quoteText text).toList ++ rest) = some (text.toList, rest) ↔
      rest.head? ≠ some quote := by
  have literal : (dialect.quoteText text).toList ++ rest =
      quote :: doubleQuotes [quote] 0 text.toList ++ quote :: rest := by
    rw [toList_quoteText single, List.append_assoc]
    rfl
  rw [readLiteral?_eq_some_iff]
  exact and_iff_right literal

/-- Different texts have different literals. -/
theorem quoteText_injective (single : dialect.literalQuote.toList = [quote]) :
    Function.Injective dialect.quoteText := by
  intro left right same
  have read (text : String) :=
    (readLiteral?_quoteText single text []).mpr (Option.some_ne_none quote).symm
  have texts := read left
  rw [same, read right] at texts
  exact String.toList_injective (congrArg Prod.fst (Option.some.inj texts)).symm

/-- The literal of a value that is quoted is read back as the text of the value, and the
reader stops behind it exactly if no further quote follows. -/
theorem quoteLiteral_readBack (single : dialect.literalQuote.toList = [quote])
    {value : Value} (quoted : value.isBare = false) (rest : List Char) :
    readLiteral? quote ((dialect.quoteLiteral value).toList ++ rest) =
        some (value.toText.toList, rest) ↔
      rest.head? ≠ some quote := by
  rw [quoteLiteral_of_quoted quoted]
  exact readLiteral?_quoteText single value.toText rest

/-- A text of quotes alone, before a bracket. -/
theorem quoteLiteral_readBack_quotes :
    let value : Value := .text "'''"
    ({} : Dialect).literalQuote.toList = ['\''] ∧ value.isBare = false ∧
      (({} : Dialect).quoteLiteral value).toList = "''''''''".toList ∧
      readLiteral? '\'' ("''''''''".toList ++ ") 'x'".toList) =
        some ("'''".toList, ") 'x'".toList) := by
  intro value
  have single : ({} : Dialect).literalQuote.toList = ['\''] := by decide
  have written : (({} : Dialect).quoteLiteral value).toList = "''''''''".toList := by decide
  have read := (quoteLiteral_readBack single (rfl : value.isBare = false) ") 'x'".toList).mpr
    (by decide)
  rw [written] at read
  exact ⟨single, rfl, written, read⟩

/-! ## Telling literals apart -/

theorem notMem_quoteLiteral {value : Value} (bare : value.isBare = true) :
    '\'' ∉ (({} : Dialect).quoteLiteral value).toList := by
  have unmarked {text : List Char} (marks : ∀ character ∈ text, isMark character = true) :
      '\'' ∉ text :=
    fun member => Bool.false_ne_true (marks _ member)
  cases value with
  | null => decide
  | bool truth => cases truth <;> decide
  | int number => exact unmarked (isMark_toString number)
  | float number => exact unmarked number.isMark_text
  | decimal number => exact unmarked number.isMark_text
  | text | list | tuple | dict | immediate => cases bare

end Dialect

namespace Number

theorem ne_null_of_figures {text : String}
    (figures : ∀ character ∈ text.toList, isFigure character = true) : text ≠ "null" := by
  rintro rfl
  exact Bool.false_ne_true (figures 'n' (by decide))

theorem Binary.text_ne_null (number : Binary) : number.text ≠ "null" := by
  cases number with
  | nan => decide
  | infinite negative => cases negative <;> decide
  | finite => exact ne_null_of_figures (isFigure_text rfl)

theorem Decimal.text_ne_null (number : Decimal) : number.text ≠ "null" := by
  cases number with
  | finite => exact ne_null_of_figures (isFigure_text rfl)
  | infinite negative => cases negative <;> decide
  | undefined negative signalling payload =>
      intro null
      have letter : 'N' ∈ (text (.undefined negative signalling payload)).toList := by
        simp only [text, String.toList_append]
        cases signalling <;> simp
      rw [null] at letter
      exact absurd letter (by decide)

end Number

namespace Dialect

/-- A literal that is in quotes is different from all that stand bare. -/
theorem quoteText_ne_quoteLiteral (text : String) {value : Value} (bare : value.isBare = true) :
    ({} : Dialect).quoteText text ≠ ({} : Dialect).quoteLiteral value := by
  intro same
  have unquoted := notMem_quoteLiteral bare
  have single : ({} : Dialect).literalQuote.toList = ['\''] := by decide
  rw [← same, toList_quoteText single] at unquoted
  exact unquoted List.mem_cons_self

/-- Null has a literal of its own. -/
theorem quoteLiteral_eq_null_iff {value : Value} :
    ({} : Dialect).quoteLiteral value = "null" ↔ value = .null := by
  refine ⟨fun same => ?_, fun null => null ▸ rfl⟩
  cases value with
  | null => rfl
  | bool truth => cases truth <;> exact absurd same (by decide)
  | int number => exact absurd same (ne_null_of_figures (isFigure_toString number))
  | float number => exact absurd same number.text_ne_null
  | decimal number => exact absurd same number.text_ne_null
  | text | list | tuple | dict | immediate =>
      exact absurd same (quoteText_ne_quoteLiteral _ (rfl : Value.null.isBare = true))

end Dialect

end Midrange
