/-!
# Blank characters

Text is trimmed and split at the blank characters: the controls from tab to
carriage return and from file separator to unit separator, the next-line
control, and the space separators of every script.  Zero-width characters are
not blank.
-/

namespace Midrange.Text

/-- Holds for the characters that count as white space. -/
def isBlank (character : Char) : Bool :=
  let code := character.toNat
  (0x09 ≤ code && code ≤ 0x0D) || (0x1C ≤ code && code ≤ 0x20) ||
    code == 0x85 || code == 0xA0 || code == 0x1680 ||
    (0x2000 ≤ code && code ≤ 0x200A) || code == 0x2028 || code == 0x2029 ||
    code == 0x202F || code == 0x205F || code == 0x3000

/-- Blanks that may surround a numeral; the separator controls may not. -/
def isNumeralBlank (character : Char) : Bool :=
  isBlank character && !(0x1C ≤ character.toNat && character.toNat ≤ 0x1F)

/-- Drops the characters of a class from both ends. -/
def trimBy (drop : Char → Bool) (characters : List Char) : List Char :=
  ((characters.dropWhile drop).reverse.dropWhile drop).reverse

/-- The characters without the blank ones at either end. -/
def trim (characters : List Char) : List Char :=
  trimBy isBlank characters

theorem trim_blank_append {blank : List Char}
    (blanks : ∀ character ∈ blank, isBlank character = true) (text : List Char) :
    trim (blank ++ text) = trim text := by
  rw [trim, trimBy, List.dropWhile_append_of_pos blanks]
  rfl

theorem trim_append_blank (text : List Char) {blank : List Char}
    (blanks : ∀ character ∈ blank, isBlank character = true) :
    trim (text ++ blank) = trim text := by
  have reversed : ∀ character ∈ blank.reverse, isBlank character = true :=
    fun character member => blanks character (List.mem_reverse.mp member)
  rw [trim, trim, trimBy, trimBy, List.dropWhile_append]
  split
  · rename_i none
    rw [List.isEmpty_iff.mp none]
    have dropped : (blank ++ []).dropWhile isBlank = [].dropWhile isBlank :=
      List.dropWhile_append_of_pos blanks
    rw [List.append_nil] at dropped
    rw [dropped]
    rfl
  · rw [List.reverse_append, List.dropWhile_append_of_pos reversed]

theorem trimBy_congr {drop other : Char → Bool} {text : List Char}
    (same : ∀ character ∈ text, drop character = other character) :
    trimBy drop text = trimBy other text := by
  have front {text : List Char} (same : ∀ character ∈ text, drop character = other character) :
      text.dropWhile drop = text.dropWhile other := by
    induction text with
    | nil => rfl
    | cons first rest induction =>
        rw [List.dropWhile_cons, List.dropWhile_cons, same first List.mem_cons_self,
          induction fun character member => same character (List.mem_cons_of_mem _ member)]
  rw [trimBy, trimBy, front same, front]
  intro character member
  exact same character ((List.dropWhile_sublist _).subset (List.mem_reverse.mp member))

/-- Only characters of the class are dropped. -/
theorem exists_trimBy (drop : Char → Bool) (text : List Char) :
    ∃ before after, text = before ++ trimBy drop text ++ after ∧
      (∀ character ∈ before, drop character = true) ∧
      ∀ character ∈ after, drop character = true := by
  refine ⟨text.takeWhile drop, ((text.dropWhile drop).reverse.takeWhile drop).reverse, ?_, ?_, ?_⟩
  · rw [trimBy, List.append_assoc, ← List.reverse_append, List.takeWhile_append_dropWhile,
      List.reverse_reverse, List.takeWhile_append_dropWhile]
  · exact List.all_eq_true.mp List.all_takeWhile
  · exact fun character member =>
      List.all_eq_true.mp List.all_takeWhile character (List.mem_reverse.mp member)

theorem mem_trimBy {drop : Char → Bool} {character : Char} {text : List Char}
    (kept : drop character = false) (member : character ∈ text) :
    character ∈ trimBy drop text := by
  obtain ⟨before, after, parts, front, back⟩ := exists_trimBy drop text
  rw [parts, List.mem_append, List.mem_append] at member
  rcases member with (first | inside) | last
  · cases kept.symm.trans (front character first)
  · exact inside
  · cases kept.symm.trans (back character last)

theorem trim_trimBy_isNumeralBlank (text : List Char) :
    trim (trimBy isNumeralBlank text) = trim text := by
  obtain ⟨before, after, parts, front, back⟩ := exists_trimBy isNumeralBlank text
  have blank {character : Char} (numeral : isNumeralBlank character = true) :
      isBlank character = true :=
    (Bool.and_eq_true_iff.mp numeral).1
  calc
    trim (trimBy isNumeralBlank text)
    _ = trim (before ++ trimBy isNumeralBlank text) :=
      (trim_blank_append (fun character member => blank (front character member)) _).symm
    _ = trim (before ++ trimBy isNumeralBlank text ++ after) :=
      (trim_append_blank _ fun character member => blank (back character member)).symm
    _ = trim text := by rw [← parts]

theorem length_trim_le (text : List Char) : (trim text).length ≤ text.length := by
  obtain ⟨before, after, parts, -, -⟩ := exists_trimBy isBlank text
  have lengths := congrArg List.length parts
  rw [List.length_append, List.length_append] at lengths
  rw [trim]
  omega

theorem mem_of_mem_trim {character : Char} {text : List Char}
    (member : character ∈ trim text) : character ∈ text := by
  have kept := (List.dropWhile_sublist _).subset (List.mem_reverse.mp member)
  exact (List.dropWhile_sublist _).subset (List.mem_reverse.mp kept)

private theorem dropWhile_eq_self {drop : Char → Bool} {text : List Char}
    (kept : ∀ character ∈ text.head?, drop character = false) : text.dropWhile drop = text := by
  cases text with
  | nil => rfl
  | cons first rest =>
      have stays : ¬drop first = true := Bool.eq_false_iff.mp (kept first rfl)
      exact List.dropWhile_cons_of_neg stays

private theorem kept_of_mem_head? {drop : Char → Bool} {text : List Char} {character : Char}
    (first : character ∈ (text.dropWhile drop).head?) : drop character = false := by
  have kept := List.head?_dropWhile_not drop text
  rwa [Option.mem_def.mp first] at kept

/-- A text without blanks at its ends is trimmed already. -/
theorem trim_eq_self {text : List Char}
    (first : ∀ character ∈ text.head?, isBlank character = false)
    (last : ∀ character ∈ text.getLast?, isBlank character = false) : trim text = text := by
  have reversed : ∀ character ∈ text.reverse.head?, isBlank character = false := by
    rwa [List.head?_reverse]
  rw [trim, trimBy, dropWhile_eq_self first, dropWhile_eq_self reversed, List.reverse_reverse]

theorem trim_trim (text : List Char) : trim (trim text) = trim text := by
  apply trim_eq_self
  · intro character first
    obtain ⟨blanks, parts⟩ : trim text <+: text.dropWhile isBlank := by
      have suffix := List.dropWhile_suffix (l := (text.dropWhile isBlank).reverse) isBlank
      rw [← List.reverse_prefix, List.reverse_reverse] at suffix
      exact suffix
    have leads : character ∈ (text.dropWhile isBlank).head? := by
      rw [← parts, List.head?_append, Option.mem_def.mp first]
      rfl
    exact kept_of_mem_head? leads
  · intro character last
    rw [trim, trimBy, List.getLast?_reverse] at last
    exact kept_of_mem_head? last

/-- The pieces between the separators; there is always at least one. -/
def splitAt (separator : Char) : List Char → List (List Char)
  | [] => [[]]
  | character :: rest =>
      if character = separator then
        [] :: splitAt separator rest
      else
        match splitAt separator rest with
        | [] => [[character]]
        | piece :: pieces => (character :: piece) :: pieces

/-- The pieces hold the characters of the text but for the separators. -/
theorem of_mem_splitAt {separator character : Char} {text piece : List Char}
    (among : piece ∈ splitAt separator text) (member : character ∈ piece) :
    character ∈ text ∧ character ≠ separator := by
  induction text generalizing piece with
  | nil =>
      rw [splitAt, List.mem_singleton] at among
      subst among
      cases member
  | cons first rest induction =>
      have further {piece : List Char} (among : piece ∈ splitAt separator rest)
          (member : character ∈ piece) : character ∈ first :: rest ∧ character ≠ separator :=
        (induction among member).imp_left (List.mem_cons_of_mem _)
      rw [splitAt] at among
      split at among
      · rcases List.mem_cons.mp among with rfl | later
        · cases member
        · exact further later member
      · rename_i other
        split at among
        · rw [List.mem_singleton] at among
          subst among
          rw [List.mem_singleton] at member
          subst member
          exact ⟨List.mem_cons_self, other⟩
        · rename_i head pieces parts
          rw [parts] at further
          rcases List.mem_cons.mp among with rfl | later
          · rcases List.mem_cons.mp member with rfl | inside
            · exact ⟨List.mem_cons_self, other⟩
            · exact further List.mem_cons_self inside
          · exact further (List.mem_cons_of_mem _ later) member

theorem mem_of_mem_splitAt {separator character : Char} {text piece : List Char}
    (among : piece ∈ splitAt separator text) (member : character ∈ piece) :
    character ∈ text :=
  (of_mem_splitAt among member).1

theorem notMem_of_mem_splitAt {separator : Char} {text piece : List Char}
    (among : piece ∈ splitAt separator text) : separator ∉ piece :=
  fun member => (of_mem_splitAt among member).2 rfl

theorem splitAt_ne_nil (separator : Char) (text : List Char) : splitAt separator text ≠ [] := by
  cases text with
  | nil => exact List.cons_ne_nil _ _
  | cons first rest =>
      rw [splitAt]
      split
      · exact List.cons_ne_nil _ _
      · split <;> exact List.cons_ne_nil _ _

theorem splitAt_eq_splitOn (separator : Char) (text : List Char) :
    splitAt separator text = text.splitOn separator := by
  induction text with
  | nil => rfl
  | cons character rest induction =>
      obtain ⟨piece, pieces, parts⟩ :=
        List.exists_cons_of_ne_nil (List.splitOn_ne_nil separator rest)
      rw [splitAt, induction, List.splitOn_cons_eq_if_modifyHead, parts]
      by_cases same : character = separator <;> simp [same]

/-- The pieces with the separator between neighbours. -/
def joinWith (separator : List Char) : List (List Char) → List Char
  | [] => []
  | [piece] => piece
  | piece :: pieces => piece ++ separator ++ joinWith separator pieces

theorem joinWith_cons (separator piece : List Char) {pieces : List (List Char)}
    (more : pieces ≠ []) :
    joinWith separator (piece :: pieces) = piece ++ separator ++ joinWith separator pieces := by
  cases pieces with
  | nil => exact absurd rfl more
  | cons => rfl

theorem joinWith_eq_intercalate (separator : List Char) (pieces : List (List Char)) :
    joinWith separator pieces = separator.intercalate pieces := by
  induction pieces with
  | nil => rfl
  | cons piece later induction =>
      by_cases last : later = []
      · simp [joinWith, last]
      · rw [joinWith_cons separator piece last, List.intercalate_cons_of_ne_nil last, induction]

/-- Pieces without the separator are found again between the separators. -/
theorem splitAt_joinWith {separator : Char} {pieces : List (List Char)} (some : pieces ≠ [])
    (free : ∀ piece ∈ pieces, separator ∉ piece) :
    splitAt separator (joinWith [separator] pieces) = pieces := by
  rw [splitAt_eq_splitOn, joinWith_eq_intercalate, List.splitOn_intercalate separator free some]

theorem joinWith_splitAt (separator : Char) (text : List Char) :
    joinWith [separator] (splitAt separator text) = text := by
  rw [joinWith_eq_intercalate, splitAt_eq_splitOn, List.intercalate_splitOn]

/-- The separators come on top of the pieces. -/
theorem length_joinWith (separator : List Char) (pieces : List (List Char)) :
    (joinWith separator pieces).length =
      pieces.flatten.length + (pieces.length - 1) * separator.length := by
  induction pieces with
  | nil => simp [joinWith]
  | cons piece later induction =>
      by_cases last : later = []
      · simp [joinWith, last]
      · obtain ⟨more, many⟩ := Nat.exists_eq_succ_of_ne_zero (mt List.length_eq_zero_iff.mp last)
        rw [joinWith_cons separator piece last, List.length_append, List.length_append,
          induction, List.flatten_cons, List.length_append, List.length_cons, many]
        simp only [Nat.succ_eq_add_one, Nat.add_sub_cancel, Nat.succ_mul]
        omega

/-- One text among others stands between texts that it does not change. -/
theorem intercalate_middle (separator : String) (earlier later : List String) :
    ∃ before after, ∀ text,
      String.intercalate separator (earlier ++ text :: later) = before ++ text ++ after := by
  obtain ⟨after, follows⟩ : ∃ after, ∀ text,
      String.intercalate separator (text :: later) = text ++ after := by
    by_cases last : later = []
    · exact ⟨"", fun text => by simp [last]⟩
    · refine ⟨separator ++ String.intercalate separator later, fun text => ?_⟩
      rw [String.intercalate_cons_of_ne_nil last, String.append_assoc]
  by_cases first : earlier = []
  · exact ⟨"", after, fun text => by simp [first, follows]⟩
  · refine ⟨String.intercalate separator earlier ++ separator, after, fun text => ?_⟩
    rw [String.intercalate_append_of_ne_nil first (List.cons_ne_nil _ _), follows,
      String.append_assoc, String.append_assoc, String.append_assoc]

end Midrange.Text
