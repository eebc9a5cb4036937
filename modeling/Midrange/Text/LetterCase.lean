import Midrange.Text.CharacterRange
import Midrange.Text.LetterTable

/-!
# Letter case

`small` and `capital` change the letter case of a whole text.  A letter may
become several characters, and a capital sigma at the end of a word has a small
form of its own.
-/

namespace Midrange.Text

private def formOf
    (sequences : Array (Nat × List Nat)) (runs : Array LetterRun)
    (character : Char) : List Char :=
  match sequences.find? (·.1 == character.toNat) with
  | some (_, codes) => codes.map Char.ofNat
  | none =>
      match runs.findSome? (·.image? character.toNat) with
      | some letter => [letter]
      | none => [character]

/-- The next character that case rules do not look through carries case. -/
def casedAhead : List Char → Bool
  | [] => false
  | character :: rest =>
      if inRanges caseIgnorableRanges character then
        casedAhead rest
      else
        inRanges casedRanges character

private def smallFrom (before : List Char) : List Char → List Char
  | [] => []
  | character :: rest =>
      let form :=
        if character = 'Σ' then
          if casedAhead before && !casedAhead rest then ['ς'] else ['σ']
        else
          formOf smallSequences smallRuns character
      form ++ smallFrom (character :: before) rest

/-- The text with every letter in its small form. -/
def small (text : String) : String :=
  String.ofList (smallFrom [] text.toList)

/-- The text with every letter in its capital form. -/
def capital (text : String) : String :=
  String.ofList (text.toList.flatMap (formOf capitalSequences capitalRuns))

/-! ## Texts without capitals -/

private theorem formOf_of_uncovered {sequences : Array (Nat × List Nat)}
    {runs : Array LetterRun} {character : Char}
    (unlisted : ∀ entry ∈ sequences, entry.1 ≠ character.toNat)
    (uncovered : ∀ run ∈ runs, character.toNat < run.first ∨ run.last < character.toNat) :
    formOf sequences runs character = [character] := by
  have sequence : sequences.find? (·.1 == character.toNat) = none := by
    simpa using unlisted
  have run : runs.findSome? (·.image? character.toNat) = none := by
    refine Array.findSome?_eq_none_iff.mpr fun run member => if_neg ?_
    have outside := uncovered run member
    omega
  rw [formOf, sequence]
  dsimp only
  rw [run]

/-- Holds of the characters below the accented letters, but for capitals. -/
def isUnraised (character : Char) : Bool :=
  character.toNat < 0xC0 && (character.toNat < 0x41 || 0x5A < character.toNat)

/-- A text without capitals and accented letters is its own small form. -/
theorem small_eq_self {text : String} (unraised : text.toList.all isUnraised = true) :
    small text = text := by
  have listed : ∀ entry ∈ smallSequences.toList, 0xC0 ≤ entry.1 := by decide
  have runs : ∀ run ∈ smallRuns.toList,
      0xC0 ≤ run.first ∨ run.first = 0x41 ∧ run.last = 0x5A := by decide +kernel
  have kept (before rest : List Char) (unraised : rest.all isUnraised = true) :
      smallFrom before rest = rest := by
    induction rest generalizing before with
    | nil => rfl
    | cons character rest induction =>
        rw [List.all_cons, Bool.and_eq_true] at unraised
        obtain ⟨first, later⟩ := unraised
        simp only [isUnraised, Bool.and_eq_true, Bool.or_eq_true, decide_eq_true_eq] at first
        obtain ⟨low, apart⟩ := first
        have other : character ≠ 'Σ' := by
          rintro rfl
          exact absurd low (by decide)
        have form : formOf smallSequences smallRuns character = [character] := by
          refine formOf_of_uncovered (fun entry member => ?_) fun run member => ?_
          · have high := listed entry (Array.mem_toList_iff.mpr member)
            omega
          · have bounds := runs run (Array.mem_toList_iff.mpr member)
            omega
        rw [smallFrom, if_neg other, form, induction _ later]
        rfl
  rw [small, kept [] text.toList unraised, String.ofList_toList]

end Midrange.Text
