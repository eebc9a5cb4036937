import Midrange.Dialect

/-!
# Items between brackets

A reader of the items of a statement, as the store has them: they stand between the
first bracket and its match, with commas between them.  A comma or a bracket inside a
literal or a delimited identifier is part of that, and a comma inside further brackets
is part of its item.
-/

namespace Midrange

open Midrange.Text

/-! ## The reader -/

/-- What the next character belongs to. -/
inductive Place where
  | bare
  | literal
  | identifier
  deriving DecidableEq, Repr

/-- The items up to the bracket that ends them: the first one, the later ones, and the
text behind the bracket. -/
structure Items where
  first : List Char
  later : List (List Char)
  rest : List Char
  deriving DecidableEq, Repr

/-- The items with a text before the first one. -/
def Items.keep (text : List Char) (items : Option Items) : Option Items :=
  items.map fun items => { items with first := text ++ items.first }

/-- Reads items at a depth of brackets.  Two quotes in a literal stand for one. -/
def Items.read? : Place → Nat → List Char → Option Items
  | _, _, [] => none
  | .literal, depth, '\'' :: '\'' :: rest => keep ['\'', '\''] (read? .literal depth rest)
  | .literal, depth, '\'' :: rest => keep ['\''] (read? .bare depth rest)
  | .literal, depth, character :: rest => keep [character] (read? .literal depth rest)
  | .identifier, depth, character :: rest =>
      keep [character] (read? (if character = '"' then .bare else .identifier) depth rest)
  | .bare, depth, '\'' :: rest => keep ['\''] (read? .literal depth rest)
  | .bare, depth, '"' :: rest => keep ['"'] (read? .identifier depth rest)
  | .bare, depth, '(' :: rest => keep ['('] (read? .bare (depth + 1) rest)
  | .bare, 0, ')' :: rest => some ⟨[], [], rest⟩
  | .bare, depth + 1, ')' :: rest => keep [')'] (read? .bare depth rest)
  | .bare, 0, ',' :: rest =>
      (read? .bare 0 rest).map fun items =>
        ⟨[], items.first :: items.later, items.rest⟩
  | .bare, depth, character :: rest => keep [character] (read? .bare depth rest)

attribute [local simp] Items.read?

/-- The text behind the first bracket outside delimited identifiers. -/
def behindBracket? : Place → List Char → Option (List Char)
  | _, [] => none
  | .identifier, character :: rest =>
      behindBracket? (if character = '"' then .bare else .identifier) rest
  | _, character :: rest =>
      if character = '(' then some rest
      else behindBracket? (if character = '"' then .identifier else .bare) rest

/-- The items of a statement that ends with them, without the blanks around each. -/
def itemsOf? (statement : List Char) : Option (List (List Char)) := do
  let body ← behindBracket? .bare statement
  let items ← Items.read? .bare 0 body
  if items.rest = [] then some ((items.first :: items.later).map trim) else none

theorem behindBracket?_append {text : List Char} (bare : '"' ∉ text)
    (unopened : '(' ∉ text) (rest : List Char) :
    behindBracket? .bare (text ++ rest) = behindBracket? .bare rest := by
  induction text with
  | nil => rfl
  | cons character later induction =>
      rw [List.mem_cons, not_or] at bare unopened
      simp [behindBracket?, Ne.symm bare.1, Ne.symm unopened.1,
        induction bare.2 unopened.2]

/-! ## Closed texts -/

/-- The characters that the reader takes as they are. -/
def isPlain (character : Char) : Bool :=
  character ≠ '\'' && character ≠ '"' && character ≠ '(' && character ≠ ')' && character ≠ ','

/-- A kind of characters that the reader gives no meaning is plain. -/
theorem isPlain_of_kind {kind : Char → Bool} {character : Char}
    (unread : ['\'', '"', '(', ')', ','].any kind = false)
    (holds : kind character = true) : isPlain character = true := by
  have other (special : Char) (among : special ∈ ['\'', '"', '(', ')', ',']) :
      character ≠ special := by
    rintro rfl
    exact List.any_eq_false.mp unread character among holds
  simp only [List.mem_cons, List.not_mem_nil, or_false, forall_eq_or_imp, forall_eq] at other
  simp [isPlain, other]

/-- Texts that end what they begin: literals, delimited identifiers and brackets.  A comma
outside of these stands only in texts that are themselves inside brackets. -/
inductive Closed : Bool → List Char → Prop where
  | plain {inside : Bool} {text : List Char}
      (plain : ∀ character ∈ text, isPlain character = true) : Closed inside text
  | delimited {inside : Bool} {text : List Char} (bare : '"' ∉ text) :
      Closed inside ('"' :: text ++ ['"'])
  | literal {inside : Bool} (text : List Char) :
      Closed inside (['\''] ++ Dialect.doubleQuotes ['\''] 0 text ++ ['\''])
  | comma : Closed true [',']
  | bracketed {inside : Bool} {text : List Char} (closed : Closed true text) :
      Closed inside ('(' :: text ++ [')'])
  | append {inside : Bool} {left right : List Char} (first : Closed inside left)
      (second : Closed inside right) : Closed inside (left ++ right)

theorem Closed.bare {inside : Bool} {text : List Char}
    (plain : text.all isPlain = true) : Closed inside text :=
  .plain (List.all_eq_true.mp plain)

namespace Items

@[simp] theorem keep_keep (left right : List Char) (items : Option Items) :
    keep left (keep right items) = keep (left ++ right) items := by
  cases items <;> simp [keep]

@[simp] theorem keep_nil (items : Option Items) : keep [] items = items := by
  cases items <;> rfl

theorem read?_plain {text : List Char} (plain : ∀ character ∈ text, isPlain character = true)
    (depth : Nat) (rest : List Char) :
    read? .bare depth (text ++ rest) = keep text (read? .bare depth rest) := by
  induction text with
  | nil => simp
  | cons character later induction =>
      have first := plain character List.mem_cons_self
      have later := induction fun other member => plain other (List.mem_cons_of_mem _ member)
      simp only [isPlain, Bool.and_eq_true, decide_eq_true_eq] at first
      obtain ⟨⟨⟨⟨quote, mark⟩, opening⟩, closing⟩, comma⟩ := first
      rw [List.cons_append, read?]
      · simp [later]
      all_goals simp_all

theorem read?_identifier {text : List Char} (bare : '"' ∉ text) (depth : Nat)
    (rest : List Char) :
    read? .identifier depth (text ++ '"' :: rest) =
      keep (text ++ ['"']) (read? .bare depth rest) := by
  induction text with
  | nil => simp
  | cons character later induction =>
      rw [List.mem_cons, not_or] at bare
      simp [Ne.symm bare.1, induction bare.2]

/-- A single quote ends a literal; if another one follows, that begins a literal anew. -/
theorem read?_quote (depth : Nat) (rest : List Char) :
    read? .literal depth ('\'' :: rest) = keep ['\''] (read? .bare depth rest) := by
  cases rest with
  | nil => rfl
  | cons character later =>
      by_cases quote : character = '\''
      · subst quote
        simp
      · rw [read?]
        simp [quote]

theorem read?_literal (text : List Char) (depth : Nat) (rest : List Char) :
    read? .literal depth (Dialect.doubleQuotes ['\''] 0 text ++ '\'' :: rest) =
      keep (Dialect.doubleQuotes ['\''] 0 text ++ ['\'']) (read? .bare depth rest) := by
  induction text with
  | nil => simp [Dialect.doubleQuotes, read?_quote]
  | cons character later induction =>
      by_cases quote : character = '\''
      · subst quote
        simp [Dialect.doubleQuotes, induction]
      · simp [Dialect.doubleQuotes, quote, Ne.symm quote, induction]

/-- A closed text is part of the item that it begins in. -/
theorem read?_closed {inside : Bool} {text : List Char} (closed : Closed inside text)
    {depth : Nat} (deep : inside = true → 0 < depth) (rest : List Char) :
    read? .bare depth (text ++ rest) = keep text (read? .bare depth rest) := by
  induction closed generalizing depth rest with
  | plain plain => exact read?_plain plain depth rest
  | delimited bare => simp [read?_identifier bare]
  | literal text => simp [read?_literal]
  | comma =>
      obtain ⟨below, rfl⟩ := Nat.exists_eq_succ_of_ne_zero (Nat.ne_of_gt (deep rfl))
      simp
  | bracketed _ induction =>
      have inner := @induction (depth + 1) fun _ => Nat.succ_pos depth
      simp [inner]
  | append _ _ left right => simp [left deep, right deep]

/-- Closed texts with commas between them are the items up to the bracket behind them.
The blanks around them do not matter. -/
theorem read?_items {first : List Char} {later : List (List Char)}
    (closed : ∀ item ∈ first :: later, Closed false item) (before between after : List Char)
    (leads : ∀ character ∈ before, isBlank character = true)
    (parts : ∀ character ∈ between, isBlank character = true)
    (ends : ∀ character ∈ after, isBlank character = true) :
    ∃ items, read? .bare 0 (before ++ first ++
        (later.flatMap fun item => ',' :: between ++ item) ++ after ++ [')']) = some items ∧
      (items.first :: items.later).map trim = (first :: later).map trim ∧ items.rest = [] := by
  have plain {blanks : List Char} (all : ∀ character ∈ blanks, isBlank character = true) :
      Closed false blanks :=
    .plain fun character member => isPlain_of_kind (by decide) (all character member)
  have kept {item : List Char} (closed : Closed false item) (rest : List Char) :
      read? .bare 0 (item ++ rest) = keep item (read? .bare 0 rest) :=
    read?_closed closed (fun nested => nomatch nested) rest
  induction later generalizing first before with
  | nil =>
      refine ⟨⟨before ++ first ++ after, [], []⟩, ?_, ?_, rfl⟩
      · have whole : Closed false (before ++ first ++ after) :=
          .append (.append (plain leads) (closed first List.mem_cons_self)) (plain ends)
        simpa [keep] using kept whole [')']
      · simp [trim_append_blank _ ends, trim_blank_append leads]
  | cons next others induction =>
      obtain ⟨items, found, same, none⟩ :=
        induction (fun item member => closed item (List.mem_cons_of_mem _ member)) between
          parts
      have whole : Closed false (before ++ first) :=
        .append (plain leads) (closed first List.mem_cons_self)
      refine ⟨⟨before ++ first, items.first :: items.later, []⟩, ?_, ?_, rfl⟩
      · have comma : read? .bare 0 (',' :: (between ++ next ++
            (others.flatMap fun item => ',' :: between ++ item) ++ after ++ [')'])) =
            some ⟨[], items.first :: items.later, []⟩ := by
          rw [read?, found, Option.map_some, none]
        have text := kept whole (',' :: (between ++ next ++
            (others.flatMap fun item => ',' :: between ++ item) ++ after ++ [')']))
        rw [comma] at text
        simpa [keep] using text
      · rw [List.map_cons, same, trim_blank_append leads]
        rfl

end Items

end Midrange
