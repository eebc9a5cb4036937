import Midrange.Dialect

/-!
# Quoting twice

An identifier is quoted part by part.  A part with its quotes is finished: quoting it
once more leaves it as it is, and it has no dot, so that the parts of what is written
are found again.
-/

namespace Midrange.Dialect

open Midrange.Text

/-- The quote is one character that neither divides parts nor is trimmed off them. -/
structure Encloses (dialect : Dialect) (quote : Char) : Prop where
  single : dialect.identifierQuote.toList = [quote]
  undotted : quote ≠ '.'
  visible : isBlank quote = false

variable {dialect : Dialect} {quote : Char}

namespace Encloses

theorem isFinished_enclosed (encloses : Encloses dialect quote) (text : List Char) :
    dialect.isFinished (quote :: text ++ [quote]) = true := by
  have last : (quote :: text ++ [quote]).getLast? = some quote := List.getLast?_concat
  rw [isFinished, encloses.single, last]
  simp

theorem trim_enclosed (encloses : Encloses dialect quote) (text : List Char) :
    trim (quote :: text ++ [quote]) = quote :: text ++ [quote] := by
  apply trim_eq_self
  · rintro character ⟨⟩
    exact encloses.visible
  · rw [List.getLast?_concat]
    rintro character ⟨⟩
    exact encloses.visible

/-- A part is written as it is if that is finished, and else between quotes. -/
theorem quotePart_eq (encloses : Encloses dialect quote) (part : List Char) :
    dialect.quotePart part =
      if dialect.isFinished (trim part) then trim part else quote :: trim part ++ [quote] := by
  rw [quotePart, encloses.single]
  rfl

theorem isFinished_quotePart (encloses : Encloses dialect quote) (part : List Char) :
    dialect.isFinished (dialect.quotePart part) = true := by
  rw [encloses.quotePart_eq]
  split
  · assumption
  · exact encloses.isFinished_enclosed _

theorem trim_quotePart (encloses : Encloses dialect quote) (part : List Char) :
    trim (dialect.quotePart part) = dialect.quotePart part := by
  rw [encloses.quotePart_eq]
  split
  · exact trim_trim part
  · exact encloses.trim_enclosed _

/-- Exactly the finished parts without blanks at their ends are left as they are. -/
theorem quotePart_eq_self_iff (encloses : Encloses dialect quote) {part : List Char} :
    dialect.quotePart part = part ↔ trim part = part ∧ dialect.isFinished part = true := by
  constructor
  · intro same
    rw [← same]
    exact ⟨encloses.trim_quotePart part, encloses.isFinished_quotePart part⟩
  · rintro ⟨trimmed, finished⟩
    rw [encloses.quotePart_eq, trimmed, if_pos finished]

theorem notMem_quotePart (encloses : Encloses dialect quote) {part : List Char}
    (free : '.' ∉ part) : '.' ∉ dialect.quotePart part := by
  have trimmed : '.' ∉ trim part := mt mem_of_mem_trim free
  rw [encloses.quotePart_eq]
  split
  · exact trimmed
  · simpa [trimmed] using encloses.undotted.symm

/-- The parts of a quoted identifier are the quoted parts. -/
theorem splitAt_quoteIdentifier (encloses : Encloses dialect quote) (name : String) :
    splitAt '.' (dialect.quoteIdentifier name).toList =
      (splitAt '.' name.toList).map dialect.quotePart := by
  rw [quoteIdentifier, String.toList_ofList, splitAt_joinWith]
  · exact mt List.map_eq_nil_iff.mp (splitAt_ne_nil '.' name.toList)
  · intro part member
    obtain ⟨piece, among, rfl⟩ := List.mem_map.mp member
    exact encloses.notMem_quotePart (notMem_of_mem_splitAt among)

end Encloses

/-- Exactly the identifiers whose parts are finished, without blanks at their ends, are
left as they are. -/
theorem quoteIdentifier_eq_self_iff (encloses : Encloses dialect quote) {name : String} :
    dialect.quoteIdentifier name = name ↔
      ∀ part ∈ splitAt '.' name.toList, trim part = part ∧ dialect.isFinished part = true := by
  have kept : (splitAt '.' name.toList).map dialect.quotePart = splitAt '.' name.toList ↔
      ∀ part ∈ splitAt '.' name.toList, trim part = part ∧ dialect.isFinished part = true := by
    have same := @List.map_inj_left _ _ (splitAt '.' name.toList) dialect.quotePart id
    rw [List.map_id] at same
    exact same.trans (forall₂_congr fun part _ => encloses.quotePart_eq_self_iff)
  rw [← kept, ← encloses.splitAt_quoteIdentifier]
  constructor
  · intro same
    rw [same]
  · intro same
    apply String.toList_injective
    rw [← joinWith_splitAt '.' (dialect.quoteIdentifier name).toList, same, joinWith_splitAt]

/-- Quoting an identifier twice is quoting it once, and it keeps the number of parts. -/
theorem quoteIdentifier_settles (encloses : Encloses dialect quote) (name : String) :
    dialect.quoteIdentifier (dialect.quoteIdentifier name) = dialect.quoteIdentifier name ∧
      (splitAt '.' (dialect.quoteIdentifier name).toList).length =
        (splitAt '.' name.toList).length ∧
      (dialect.quoteIdentifier name = name ↔
        ∀ part ∈ splitAt '.' name.toList,
          trim part = part ∧ dialect.isFinished part = true) := by
  refine ⟨?_, ?_, quoteIdentifier_eq_self_iff encloses⟩
  · rw [quoteIdentifier_eq_self_iff encloses, encloses.splitAt_quoteIdentifier]
    intro part member
    obtain ⟨piece, _, rfl⟩ := List.mem_map.mp member
    exact ⟨encloses.trim_quotePart piece, encloses.isFinished_quotePart piece⟩
  · rw [encloses.splitAt_quoteIdentifier, List.length_map]

/-- The quote of this dialect is itself the name of all columns. -/
theorem quoteIdentifier_settles_star :
    let dialect : Dialect := { identifierQuote := "*" }
    let name := "*. x ..*\u3000*"
    let quoted := "*.*x*.**.*\u3000*"
    Encloses dialect '*' ∧ dialect.quoteIdentifier name = quoted ∧
      dialect.quoteIdentifier quoted = quoted ∧
      (splitAt '.' quoted.toList).length = 4 ∧ name ≠ quoted := by
  intro dialect name quoted
  have encloses : Encloses dialect '*' := ⟨by decide, by decide, by decide⟩
  have written : dialect.quoteIdentifier name = quoted := by
    decide
  have four : (splitAt '.' name.toList).length = 4 := by
    decide
  obtain ⟨once, parts, kept⟩ := quoteIdentifier_settles encloses name
  have changed : dialect.quoteIdentifier name ≠ name := mt kept.mp (by decide)
  rw [written] at once parts changed
  exact ⟨encloses, written, once, parts.trans four, changed.symm⟩

end Midrange.Dialect
