import Mathlib.Algebra.Ring.Nat
import Midrange.Text.Quoted

/-!
# Quoted texts

A reader takes one character at a time from between the quotes.  What is written for a
character is read as that character, so texts that are displayed alike are the same.
-/

namespace Midrange.Text

/-- The value of a hexadecimal digit. -/
def digitValue (digit : Char) : Nat :=
  if digit.toNat < 0x61 then digit.toNat - 0x30 else digit.toNat - 0x57

/-- The number that hexadecimal digits denote. -/
def hexadecimalValue (digits : List Char) : Nat :=
  digits.foldl (fun value digit => 16 * value + digitValue digit) 0

/-- How many digits follow a mark. -/
def digitsAfter? : Char → Option Nat
  | 'x' => some 2
  | 'u' => some 4
  | 'U' => some 8
  | _ => none

/-- The character that a mark without digits stands for. -/
def markedCharacter : Char → Char
  | 'n' => '\n'
  | 'r' => '\r'
  | 't' => '\t'
  | character => character

/-- Reads the first character of a text between quotes. -/
def readCharacter? : List Char → Option (Char × List Char)
  | [] => none
  | '\\' :: mark :: rest =>
      match digitsAfter? mark with
      | some width => some (Char.ofNat (hexadecimalValue (rest.take width)), rest.drop width)
      | none => some (markedCharacter mark, rest)
  | character :: rest => some (character, rest)

/-! ## Digits -/

theorem hexadecimalValue_append (digits : List Char) (last : Char) :
    hexadecimalValue (digits ++ [last]) = 16 * hexadecimalValue digits + digitValue last := by
  simp [hexadecimalValue]

theorem digitValue_digitChar {digit : Nat} (small : digit < 16) :
    digitValue digit.digitChar = digit := by
  have each : ∀ digit < 16, digitValue digit.digitChar = digit := by decide
  exact each digit small

theorem hexadecimalValue_toDigits (number : Nat) :
    hexadecimalValue (Nat.toDigits 16 number) = number := by
  induction number using Nat.strongRecOn with
  | ind number induction =>
      by_cases small : number < 16
      · rw [Nat.toDigits_of_lt_base small]
        simpa [hexadecimalValue] using digitValue_digitChar small
      · rw [Nat.toDigits_of_base_le (by decide) (Nat.le_of_not_lt small), hexadecimalValue_append,
          induction _ (by omega), digitValue_digitChar (Nat.mod_lt _ (by decide)),
          Nat.div_add_mod]

theorem hexadecimalValue_hexadecimal (width number : Nat) :
    hexadecimalValue (hexadecimal width number) = number := by
  have zeros (count : Nat) (digits : List Char) :
      hexadecimalValue (List.replicate count '0' ++ digits) = hexadecimalValue digits := by
    induction count with
    | zero => rfl
    | succ count induction => exact induction
  rw [hexadecimal, zeros, hexadecimalValue_toDigits]

theorem length_hexadecimal {width number : Nat} (fits : number < 16 ^ width) (filled : 0 < width) :
    (hexadecimal width number).length = width := by
  have short := (Nat.length_toDigits_le_iff (by decide) filled).mpr fits
  rw [hexadecimal, List.length_append, List.length_replicate]
  omega

/-! ## Characters -/

theorem readCharacter?_digits {mark : Char} {width : Nat} (marked : digitsAfter? mark = some width)
    (filled : 0 < width) {character : Char} (fits : character.toNat < 16 ^ width)
    (rest : List Char) :
    readCharacter? ('\\' :: mark :: (hexadecimal width character.toNat ++ rest)) =
      some (character, rest) := by
  have length := length_hexadecimal fits filled
  rw [readCharacter?, marked]
  dsimp only
  rw [List.take_left' length, List.drop_left' length, hexadecimalValue_hexadecimal,
    Char.ofNat_toNat]

theorem readCharacter?_plain {character : Char} (plain : character ≠ '\\') (rest : List Char) :
    readCharacter? (character :: rest) = some (character, rest) := by
  cases rest with
  | nil => simp [readCharacter?]
  | cons => simp [readCharacter?, plain]

/-- What is written for a character between quotes is read as the character. -/
theorem readCharacter?_escaped {quote : Char} (mark : quote = '\'' ∨ quote = '"')
    (character : Char) (rest : List Char) :
    readCharacter? (escaped quote character ++ rest) = some (character, rest) := by
  rw [escaped]
  by_cases special : (character = quote || character = '\\') = true
  · rw [if_pos special]
    rw [Bool.or_eq_true, decide_eq_true_eq, decide_eq_true_eq] at special
    rcases special with rfl | rfl
    · rcases mark with rfl | rfl <;> rfl
    · rfl
  rw [if_neg special]
  by_cases line : character = '\n'
  · rw [if_pos line, line]
    rfl
  rw [if_neg line]
  by_cases carriage : character = '\r'
  · rw [if_pos carriage, carriage]
    rfl
  rw [if_neg carriage]
  by_cases tab : character = '\t'
  · rw [if_pos tab, tab]
    rfl
  rw [if_neg tab]
  by_cases printable : isPrintable character = true
  · rw [if_pos printable]
    refine readCharacter?_plain ?_ rest
    rintro rfl
    exact special (Bool.or_true _)
  rw [if_neg printable]
  -- The digits are as many as the number needs at most.
  split
  · exact readCharacter?_digits rfl (by decide) (by omega) rest
  · split
    · exact readCharacter?_digits rfl (by decide) (by omega) rest
    · exact readCharacter?_digits rfl (by decide) character.val.toNat_lt rest

theorem flatMap_escaped_inj {quote : Char} (mark : quote = '\'' ∨ quote = '"')
    {text other : List Char} (same : text.flatMap (escaped quote) = other.flatMap (escaped quote)) :
    text = other := by
  have written (character : Char) (rest : List Char) :
      escaped quote character ++ rest.flatMap (escaped quote) ≠ [] := by
    intro empty
    have read := readCharacter?_escaped mark character (rest.flatMap (escaped quote))
    rw [empty] at read
    cases read
  induction text generalizing other with
  | nil =>
      cases other with
      | nil => rfl
      | cons character rest => exact absurd same.symm (written character rest)
  | cons character rest induction =>
      cases other with
      | nil => exact absurd same (written character rest)
      | cons first later =>
          rw [List.flatMap_cons, List.flatMap_cons] at same
          have read := readCharacter?_escaped mark character (rest.flatMap (escaped quote))
          rw [same, readCharacter?_escaped mark] at read
          obtain ⟨rfl, rests⟩ := Prod.mk.inj (Option.some.inj read)
          rw [induction rests.symm]

theorem quoteFor_mark (characters : List Char) :
    quoteFor characters = '\'' ∨ quoteFor characters = '"' := by
  rw [quoteFor]
  split
  · exact .inr rfl
  · exact .inl rfl

/-- Texts that are displayed alike are the same. -/
theorem quoted_inj {text other : String} (same : quoted text = quoted other) : text = other := by
  have written := congrArg String.toList same
  rw [quoted, quoted, String.toList_ofList, String.toList_ofList, List.cons_append,
    List.cons_append] at written
  obtain ⟨quotes, rest⟩ := List.cons.inj written
  rw [← quotes] at rest
  exact String.toList_inj.mp
    (flatMap_escaped_inj (quoteFor_mark text.toList) (List.append_cancel_right rest))

end Midrange.Text
