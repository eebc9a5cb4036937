import Mathlib.Algebra.Order.BigOperators.Group.List
import Mathlib.Algebra.Order.Group.Nat
import Midrange.Proofs.Quotes

/-!
# Delimited identifiers

The store reads an identifier as parts with dots between them: the star, or a name between
quotes.  Every text is split at its dots and quoted piece by piece, and what is written is
read as these pieces exactly if each piece that is not delimited already is free of quotes:
a quote inside a piece is not doubled, and so it ends the name.
-/

namespace Midrange

open Midrange.Text
open Dialect (doubleQuotes)

/-- A part of an identifier. -/
inductive IdentifierPart where
  | all
  | named (text : List Char)
  deriving DecidableEq, Repr

namespace IdentifierPart

variable {part : IdentifierPart} {text rest : List Char}

/-! ## Reading parts -/

/-- The only way to write a part. -/
def write : IdentifierPart → List Char
  | .all => ['*']
  | .named text => '"' :: doubleQuotes ['"'] 0 text ++ ['"']

def read? : List Char → Option (IdentifierPart × List Char)
  | '*' :: rest => some (.all, rest)
  | '"' :: rest => (readQuoted? '"' rest).map fun (text, rest) => (.named text, rest)
  | _ => none

/-- What is read begins with a part, as it is written. -/
theorem eq_of_read? (read : read? text = some (part, rest)) : text = part.write ++ rest := by
  unfold read? at read
  split at read
  · cases read
    rfl
  · obtain ⟨⟨content, rest⟩, found, same⟩ := Option.map_eq_some_iff.mp read
    cases same
    rw [eq_of_readQuoted? found, write]
    simp
  · cases read

theorem write_ne_nil (part : IdentifierPart) : part.write ≠ [] := by
  cases part <;> exact List.cons_ne_nil _ _

theorem read?_write (part : IdentifierPart) (ended : rest.head? ≠ some '"') :
    read? (part.write ++ rest) = some (part, rest) := by
  cases part with
  | all => rfl
  | named text =>
      have written : (named text).write ++ rest =
          '"' :: (doubleQuotes ['"'] 0 text ++ '"' :: rest) := by
        simp [write]
      rw [written, read?, readQuoted?_doubleQuotes text ended]
      rfl

theorem length_read? (read : read? text = some (part, rest)) : rest.length < text.length := by
  have positive := List.length_pos_of_ne_nil part.write_ne_nil
  rw [eq_of_read? read, List.length_append]
  omega

/-- The parts of a text, if it holds nothing else. -/
def readAll? (text : List Char) : Option (List IdentifierPart) :=
  match _ : read? text with
  | some (part, []) => some [part]
  | some (part, '.' :: rest) => (readAll? rest).map (part :: ·)
  | _ => none
termination_by text.length
decreasing_by
  have shorter := length_read? ‹_›
  rw [List.length_cons] at shorter
  omega

theorem readAll?_last (read : read? text = some (part, [])) : readAll? text = some [part] := by
  rw [readAll?]
  split <;> simp_all

theorem readAll?_dot (read : read? text = some (part, '.' :: rest)) :
    readAll? text = (readAll? rest).map (part :: ·) := by
  rw [readAll?]
  split <;> simp_all

/-- Parts with dots between them are read back. -/
theorem readAll?_joinWith {parts : List IdentifierPart} (some' : parts ≠ []) :
    readAll? (joinWith ['.'] (parts.map write)) = some parts := by
  induction parts with
  | nil => exact absurd rfl some'
  | cons part later induction =>
      by_cases last : later = []
      · subst last
        apply readAll?_last
        have read : read? (part.write ++ []) = some (part, []) := read?_write part (by simp)
        rwa [List.append_nil] at read
      · have read : read? (part.write ++ '.' :: joinWith ['.'] (later.map write)) = _ :=
          read?_write part (by simp)
        have more : later.map write ≠ [] := by
          simpa using last
        rw [List.map_cons, joinWith_cons _ _ more, List.append_assoc, List.singleton_append,
          readAll?_dot read, induction last]
        rfl

/-- Nothing else is read. -/
theorem eq_of_readAll? {parts : List IdentifierPart} (read : readAll? text = some parts) :
    parts ≠ [] ∧ text = joinWith ['.'] (parts.map write) := by
  fun_induction readAll? text generalizing parts with
  | case1 text part first =>
      cases read
      rw [eq_of_read? first, List.append_nil]
      exact ⟨List.cons_ne_nil _ _, rfl⟩
  | case2 text part rest first induction =>
      obtain ⟨later, found, same⟩ := Option.map_eq_some_iff.mp read
      cases same
      obtain ⟨more, written⟩ := induction found
      have several : later.map write ≠ [] := by
        simpa using more
      rw [eq_of_read? first, written, List.map_cons, joinWith_cons _ _ several, List.append_assoc]
      exact ⟨List.cons_ne_nil _ _, rfl⟩
  | case3 => cases read

/-! ## Pieces of an identifier -/

/-- The part that a piece between dots stands for: the piece itself if it is a part already,
else the name that it spells. -/
def ofPiece (piece : List Char) : IdentifierPart :=
  match read? (trim piece) with
  | some (part, []) => part
  | _ => .named (trim piece)

/-- Holds for pieces that are parts already, and for those without a quote. -/
def Fits (piece : List Char) : Prop :=
  (read? (trim piece)).map (·.2) = some [] ∨ '"' ∉ trim piece

instance (piece : List Char) : Decidable (Fits piece) :=
  inferInstanceAs (Decidable (_ ∨ _))

/-- A part of its own is finished: it is written as it is. -/
theorem isFinished_write (part : IdentifierPart) : Dialect.isFinished {} part.write = true := by
  cases part with
  | all => rfl
  | named text =>
      have last : ('"' :: doubleQuotes ['"'] 0 text ++ ['"']).getLast? = some '"' :=
        List.getLast?_concat
      rw [Dialect.isFinished, write, last]
      simp

variable {piece : List Char}

/-- What is finished is the star, or has a quote at its beginning. -/
theorem eq_star_or_mem_of_isFinished (finished : Dialect.isFinished {} text = true) :
    text = ['*'] ∨ '"' ∈ text := by
  rw [Dialect.isFinished, Bool.or_eq_true, decide_eq_true_eq] at finished
  cases finished with
  | inl star => exact .inl star
  | inr quoted =>
      have quoted : (1 < text.length && text.head? = some '"' &&
          text.getLast? = some '"') = true := quoted
      simp only [Bool.and_eq_true, decide_eq_true_eq] at quoted
      exact .inr (List.mem_of_mem_head? quoted.1.2)

theorem ofPiece_of_read? (read : read? (trim piece) = some (part, [])) : ofPiece piece = part := by
  rw [ofPiece, read]

theorem ofPiece_of_ne (unread : (read? (trim piece)).map (·.2) ≠ some []) :
    ofPiece piece = .named (trim piece) := by
  rw [ofPiece]
  split
  · rename_i read
    rw [read] at unread
    exact absurd rfl unread
  · rfl

/-- Without a quote a piece is the star or a name. -/
theorem ofPiece_of_notMem (plain : '"' ∉ trim piece) :
    ofPiece piece = if trim piece = ['*'] then .all else .named (trim piece) := by
  split
  · rename_i star
    apply ofPiece_of_read?
    rw [star]
    rfl
  · rename_i other
    apply ofPiece_of_ne
    intro read
    obtain ⟨⟨part, rest⟩, read, rfl⟩ := Option.map_eq_some_iff.mp read
    have own := eq_of_read? read
    rw [List.append_nil] at own
    cases part with
    | all => exact other own
    | named text => exact plain (own ▸ List.mem_cons_self)

/-- The quotes of a piece that is a part already are its own. -/
theorem quotePart_of_read? (read : read? (trim piece) = some (part, [])) :
    Dialect.quotePart {} piece = part.write := by
  have own : trim piece = part.write := by
    rw [eq_of_read? read, List.append_nil]
  simp only [Dialect.quotePart, own, isFinished_write, if_true]

theorem quotePart_of_not_isFinished (unfinished : Dialect.isFinished {} (trim piece) = false) :
    Dialect.quotePart {} piece = '"' :: trim piece ++ ['"'] := by
  simp only [Dialect.quotePart, unfinished, Bool.false_eq_true, if_false]
  rfl

theorem length_write_named (text : List Char) :
    (named text).write.length = text.length + text.count '"' + 2 := by
  simp [write, length_doubleQuotes]

/-- A piece that is no part is written without the quotes that its own ones need. -/
theorem quotePart_of_ne (unread : (read? (trim piece)).map (·.2) ≠ some []) :
    Dialect.quotePart {} piece = '"' :: trim piece ++ ['"'] ∨
      Dialect.quotePart {} piece = trim piece ∧ '"' ∈ trim piece := by
  by_cases finished : Dialect.isFinished {} (trim piece) = true
  · cases eq_star_or_mem_of_isFinished finished with
    | inl star =>
        rw [star] at unread
        exact absurd rfl unread
    | inr marked => exact .inr ⟨if_pos finished, marked⟩
  · exact .inl (quotePart_of_not_isFinished (Bool.eq_false_iff.mpr finished))

/-- A piece that fits is written as its part is. -/
theorem Fits.quotePart (fits : Fits piece) :
    Dialect.quotePart {} piece = (ofPiece piece).write := by
  by_cases read : (read? (trim piece)).map (·.2) = some []
  · obtain ⟨⟨part, rest⟩, read, rfl⟩ := Option.map_eq_some_iff.mp read
    rw [quotePart_of_read? read, ofPiece_of_read? read]
  · have plain : '"' ∉ trim piece := fits.resolve_left read
    rw [ofPiece_of_ne read, write, doubleQuotes_of_notMem plain]
    exact (quotePart_of_ne read).resolve_right fun quoted => plain quoted.2

/-- Any other piece is written shorter than its part. -/
theorem length_quotePart (unfit : ¬Fits piece) :
    (Dialect.quotePart {} piece).length < (ofPiece piece).write.length := by
  obtain ⟨unread, marked⟩ := not_or.mp unfit
  have quotes : 0 < (trim piece).count '"' := List.count_pos_iff.mpr (not_not.mp marked)
  rw [ofPiece_of_ne unread, length_write_named]
  cases quotePart_of_ne unread with
  | inl quoted =>
      have length : ('"' :: trim piece ++ ['"']).length = (trim piece).length + 2 := by
        simp
      rw [quoted, length]
      omega
  | inr finished =>
      rw [finished.1]
      omega

end IdentifierPart

open IdentifierPart

/-- Pieces that are together written as their parts are each written so. -/
theorem fits_of_joinWith {pieces : List (List Char)}
    (same : joinWith ['.'] (pieces.map (Dialect.quotePart {})) =
      joinWith ['.'] ((pieces.map ofPiece).map write)) : ∀ piece ∈ pieces, Fits piece := by
  by_contra unfit
  simp only [not_forall] at unfit
  obtain ⟨piece, among, unfit⟩ := unfit
  have shorter : (pieces.map (Dialect.quotePart {})).flatten.length <
      ((pieces.map ofPiece).map write).flatten.length := by
    rw [List.length_flatten, List.length_flatten, List.map_map, List.map_map, List.map_map]
    apply List.sum_lt_sum
    · intro piece _
      by_cases fits : Fits piece
      · exact Nat.le_of_eq (congrArg List.length fits.quotePart)
      · exact Nat.le_of_lt (length_quotePart fits)
    · exact ⟨piece, among, length_quotePart unfit⟩
  have lengths := congrArg List.length same
  rw [length_joinWith, length_joinWith, List.length_map, List.length_map, List.length_map]
    at lengths
  omega

/-- An identifier is read as its pieces exactly if each of them is a part already or has no
quote.  So a name without quotes cannot end its own. -/
theorem Dialect.quoteIdentifier_delimits (name : String) :
    (readAll? (quoteIdentifier {} name).toList = some ((splitAt '.' name.toList).map ofPiece) ↔
        ∀ piece ∈ splitAt '.' name.toList, Fits piece) ∧
      ('"' ∉ name.toList →
        readAll? (quoteIdentifier {} name).toList =
          some ((splitAt '.' name.toList).map fun piece =>
            if trim piece = ['*'] then .all else .named (trim piece))) := by
  have text : (quoteIdentifier {} name).toList =
      joinWith ['.'] ((splitAt '.' name.toList).map (quotePart {})) := by
    rw [quoteIdentifier, String.toList_ofList]
  have several : (splitAt '.' name.toList).map ofPiece ≠ [] := by
    simpa using splitAt_ne_nil '.' name.toList
  have read_of_fits (fits : ∀ piece ∈ splitAt '.' name.toList, Fits piece) :
      readAll? (quoteIdentifier {} name).toList =
        some ((splitAt '.' name.toList).map ofPiece) := by
    have written : (splitAt '.' name.toList).map (quotePart {}) =
        ((splitAt '.' name.toList).map ofPiece).map write := by
      rw [List.map_map]
      exact List.map_congr_left fun piece among => (fits piece among).quotePart
    rw [text, written, readAll?_joinWith several]
  refine ⟨⟨fun read => ?_, read_of_fits⟩, fun plain => ?_⟩
  · have written := (eq_of_readAll? read).2
    rw [text] at written
    exact fits_of_joinWith written
  · have bare {piece : List Char} (among : piece ∈ splitAt '.' name.toList) :
        '"' ∉ trim piece :=
      fun member => plain (mem_of_mem_splitAt among (mem_of_mem_trim member))
    rw [read_of_fits fun piece among => .inr (bare among)]
    exact congrArg some (List.map_congr_left fun piece among => ofPiece_of_notMem (bare among))

end Midrange
