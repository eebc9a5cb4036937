import Midrange.Dialect

/-!
# Quoted texts

A reader of a text between quotes, in which a doubled quote stands for one.  It accepts
exactly what is written by doubling the quotes of a text, and stops behind the quote that
ends it.
-/

namespace Midrange

open Dialect (doubleQuotes)

/-- A text between quotes, behind the opening one: two quotes stand for one in the text,
and the first one that is alone ends it. -/
def readQuoted? (quote : Char) : List Char → Option (List Char × List Char)
  | [] => none
  | [character] => if character = quote then some ([], []) else none
  | character :: next :: rest =>
      if character = quote then
        if next = quote then
          (readQuoted? quote rest).map fun (text, rest) => (quote :: text, rest)
        else
          some ([], next :: rest)
      else
        (readQuoted? quote (next :: rest)).map fun (text, rest) => (character :: text, rest)

variable {quote : Char} {written text rest : List Char}

theorem doubleQuotes_cons (quote character : Char) (text : List Char) :
    doubleQuotes [quote] 0 (character :: text) =
      if character = quote then quote :: quote :: doubleQuotes [quote] 0 text
      else character :: doubleQuotes [quote] 0 text := by
  by_cases same : character = quote
  · simp [doubleQuotes, same]
  · simp [doubleQuotes, same, Ne.symm same]

/-- A quote is written twice and all else once. -/
theorem length_doubleQuotes (quote : Char) (text : List Char) :
    (doubleQuotes [quote] 0 text).length = text.length + text.count quote := by
  induction text with
  | nil => rfl
  | cons character text induction =>
      rw [doubleQuotes_cons, List.count_cons]
      by_cases same : character = quote
      · simp [same, induction]
        omega
      · simp [same, induction]
        omega

theorem doubleQuotes_of_notMem (plain : quote ∉ text) : doubleQuotes [quote] 0 text = text := by
  induction text with
  | nil => rfl
  | cons character text induction =>
      rw [List.mem_cons, not_or] at plain
      rw [doubleQuotes_cons, if_neg (Ne.symm plain.1), induction plain.2]

/-- The reader stops behind a quote that no other one follows. -/
theorem readQuoted?_quote (ended : rest.head? ≠ some quote) :
    readQuoted? quote (quote :: rest) = some ([], rest) := by
  cases rest with
  | nil => simp [readQuoted?]
  | cons next rest =>
      have other : next ≠ quote := by
        simpa using ended
      simp [readQuoted?, other]

theorem readQuoted?_cons {character : Char} (other : character ≠ quote) :
    readQuoted? quote (character :: rest) =
      (readQuoted? quote rest).map fun (text, rest) => (character :: text, rest) := by
  cases rest with
  | nil => simp [readQuoted?, other]
  | cons next rest => simp [readQuoted?, other]

/-- A text whose quotes are doubled is read back. -/
theorem readQuoted?_doubleQuotes (text : List Char) (ended : rest.head? ≠ some quote) :
    readQuoted? quote (doubleQuotes [quote] 0 text ++ quote :: rest) = some (text, rest) := by
  induction text with
  | nil => exact readQuoted?_quote ended
  | cons character text induction =>
      rw [doubleQuotes_cons]
      by_cases same : character = quote
      · simp [same, readQuoted?, induction]
      · rw [if_neg same, List.cons_append, readQuoted?_cons same, induction]
        rfl

/-- Nothing else is read. -/
theorem eq_of_readQuoted? (read : readQuoted? quote written = some (text, rest)) :
    written = doubleQuotes [quote] 0 text ++ quote :: rest := by
  fun_induction readQuoted? quote written generalizing text with
  | case1 => cases read
  | case2 =>
      cases read
      rfl
  | case3 => cases read
  | case4 later induction =>
      obtain ⟨⟨text, rest⟩, found, same⟩ := Option.map_eq_some_iff.mp read
      cases same
      rw [doubleQuotes_cons, if_pos rfl, induction found]
      rfl
  | case5 =>
      cases read
      rfl
  | case6 character next later other induction =>
      obtain ⟨⟨text, rest⟩, found, same⟩ := Option.map_eq_some_iff.mp read
      cases same
      rw [doubleQuotes_cons, if_neg other, induction found]
      rfl

end Midrange
