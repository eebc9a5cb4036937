import Midrange.Proofs.Pages

/-!
# Pages of distinct rows

A page numbers the rows before the store removes equal ones, and the number is one of the
columns that are compared.  No two rows are equal then, so nothing is removed: a page of a
query for distinct rows has the same rows as without that word.  It is a page of the
distinct rows exactly as far as no two rows are equal.
-/

namespace Midrange

variable {α : Type}

/-! ## Lists without repetitions -/

section

variable [DecidableEq α]

theorem nodup_eraseDups (items : List α) : items.eraseDups.Nodup := by
  match items with
  | [] => exact List.nodup_nil
  | item :: later =>
      rw [List.eraseDups_cons]
      apply List.nodup_cons.mpr
      constructor
      · intro member
        have kept := (List.mem_filter.mp (List.mem_eraseDups.mp member)).2
        simp at kept
      · exact nodup_eraseDups _
termination_by items.length
decreasing_by exact Nat.lt_succ_of_le (List.length_filter_le _ _)

theorem eraseDups_of_nodup {items : List α} (distinct : items.Nodup) :
    items.eraseDups = items := by
  induction items with
  | nil => rfl
  | cons item later induction =>
      obtain ⟨absent, distinct⟩ := List.nodup_cons.mp distinct
      have kept : later.filter (fun other => !other == item) = later := by
        apply List.filter_eq_self.mpr
        intro other member
        have different : other ≠ item := fun same => absent (same ▸ member)
        simp [different]
      rw [List.eraseDups_cons, kept, induction distinct]

/-- The first items stay where they are exactly if no two of them are equal. -/
theorem take_eraseDups {items : List α} {count : Nat} :
    items.eraseDups.take count = items.take count ↔ (items.take count).Nodup := by
  constructor
  · intro same
    rw [← same]
    exact (nodup_eraseDups items).sublist (List.take_sublist count _)
  · intro distinct
    have parts : (items.take count ++ items.drop count).eraseDups = _ := List.eraseDups_append
    rw [List.take_append_drop, eraseDups_of_nodup distinct] at parts
    by_cases enough : count ≤ items.length
    · rw [parts]
      exact List.take_left' (List.length_take_of_le enough)
    · have whole := List.take_of_length_le (Nat.le_of_not_le enough)
      rw [whole] at distinct
      rw [eraseDups_of_nodup distinct]

/-- All windows behind the first item show the same in both lists, up to a bound, exactly if
the lists with their equal first items are the same up to it. -/
theorem windows_eraseDups {items : List α} {bound : Nat} :
    (∀ offset count, 0 < offset → 0 < count → offset + count ≤ bound →
        (items.drop offset).take count = (items.eraseDups.drop offset).take count) ↔
      (items.take bound).Nodup := by
  rw [← take_eraseDups]
  constructor
  · intro windows
    cases items with
    | nil => rfl
    | cons item later =>
        rw [List.eraseDups_cons]
        cases bound with
        | zero => rfl
        | succ last =>
            rcases Nat.eq_zero_or_pos last with none | more
            · simp [none]
            · have window := windows 1 last Nat.one_pos more (by omega)
              rw [List.eraseDups_cons, List.drop_one, List.drop_one, List.tail_cons,
                List.tail_cons] at window
              rw [List.take_succ_cons, List.take_succ_cons, window]
  · intro same offset count _ _ within
    have kept : items.take (offset + count) = items.eraseDups.take (offset + count) := by
      have cut := congrArg (List.take (offset + count)) same
      rw [List.take_take, List.take_take, Nat.min_eq_left within] at cut
      exact cut.symm
    rw [List.take_drop, List.take_drop, kept]

end

/-! ## Numbered rows -/

/-- Numbered rows are different from one another. -/
theorem Ranked.nodup_number (rows : List (Ranked α)) : (number rows).Nodup := by
  have ranks : (number rows).map rank = (List.range' 1 rows.length).map some := by
    rw [number, List.map_map, ← List.zipIdx_map_snd 1 rows, List.map_map]
    rfl
  apply List.Nodup.of_map rank
  rw [ranks]
  exact List.Nodup.map (Option.some_injective _) List.nodup_range'

/-! ## The statements of pages -/

namespace Select

/-- The columns of a page, its numbers among them, and all that stands behind them. -/
def ranked (dialect : Dialect) (query : Select) : String :=
  query.selects ++ (", " ++ Dialect.rowNumber query.orderClause) ++ query.clauses dialect

theorem statement_of_ranked {query : Select} {offset rows : Value} (dialect : Dialect)
    (paged : query.limit = .page offset rows) (alone : query.union = "") :
    query.statement dialect =
      Dialect.offsetWindow ("select " ++ query.distinctWord ++ query.ranked dialect) offset
        rows := by
  have body : query.body dialect = "select " ++ query.distinctWord ++ query.ranked dialect := by
    rw [body_of_page dialect paged, ranked, String.append_assoc, String.append_assoc]
  have limited : query.limited dialect =
      Dialect.offsetWindow ("select " ++ query.distinctWord ++ query.ranked dialect) offset
        rows := by
    simp only [Select.limited, paged, body]
  rw [statement, limited, alone, clause_empty]
  cases Dialect.offsetWindow ("select " ++ query.distinctWord ++ query.ranked dialect) offset
      rows with
  | error fault => rfl
  | ok window => exact congrArg Except.ok String.append_empty

end Select

namespace Store

variable {store : Store α} {dialect : Dialect} {query : Select} {rows : List (Ranked α)}

/-- A page whose rows are numbered keeps the rows after its offset, as many as its length. -/
theorem page_ranked (alone : query.union = "")
    (numbered : store.answer ("select " ++ query.distinctWord ++ query.ranked dialect) =
      Ranked.number rows)
    {offset count : Nat} (later : 0 < offset)
    (short : offset + count < 10 ^ Fault.numeralLimit) :
    store.page dialect query [.int count, .int offset] =
      .ok (((rows.drop offset).take count).map Ranked.row) := by
  let paged : Select := { query with limit := .page (.int offset) (.int count) }
  have said : paged.statement dialect = .ok ((Limiter.window offset (offset + count)).write
      ("select " ++ query.distinctWord ++ query.ranked dialect)) := by
    rw [Select.statement_of_ranked dialect (rfl : paged.limit = _) alone]
    exact Dialect.offsetWindow_int _ short
  have kept := store.limits (.window offset (offset + count))
    ("select " ++ query.distinctWord ++ query.ranked dialect)
  rw [numbered] at kept
  simp only [page, Limit.ofArguments_later count later, bind, Except.bind, ask]
  rw [said]
  simp only [Except.map, kept, Ranked.keep_window_number]
  rfl

variable [DecidableEq α]

/-- `distinct` removes every row that is equal to an earlier one in all columns. -/
def RemovesEqual (store : Store α) (rest : String) : Prop :=
  store.answer ("select distinct " ++ rest) = (store.answer ("select " ++ rest)).eraseDups

/-- What pages of a query for distinct rows show. -/
structure Repeats (store : Store α) (dialect : Dialect) (query : Select)
    (rows : List (Ranked α)) : Prop where
  /-- Each page has the rows after its offset, equal ones among them. -/
  page : ∀ offset count, 0 < offset → offset + count < 10 ^ Fault.numeralLimit →
    store.page dialect query [.int (count : Nat), .int (offset : Nat)] =
      .ok (((rows.drop offset).take count).map Ranked.row)
  /-- It has them without `distinct` as well. -/
  plain : ∀ offset count, 0 < offset → offset + count < 10 ^ Fault.numeralLimit →
    store.page dialect { query with distinct := false } [.int (count : Nat), .int (offset : Nat)] =
      store.page dialect query [.int count, .int offset]
  /-- All pages up to a last row are those of the distinct rows exactly if no two rows up to
  that one are equal. -/
  distinct : ∀ bound, bound < 10 ^ Fault.numeralLimit →
    ((∀ offset count, 0 < offset → 0 < count → offset + count ≤ bound →
        store.page dialect query [.int (count : Nat), .int (offset : Nat)] =
          .ok (((rows.map Ranked.row).eraseDups.drop offset).take count)) ↔
      ((rows.map Ranked.row).take bound).Nodup)

/-- Pages of a query for distinct rows show the rows as they are numbered, equal ones among
them. -/
theorem distinct_pages (alone : query.union = "") (distinct : query.distinct = true)
    (uncounted : Select.isCountDistinct query.selects = false)
    (numbered : store.answer ("select " ++ query.ranked dialect) = Ranked.number rows)
    (removes : store.RemovesEqual (query.ranked dialect)) :
    Repeats store dialect query rows := by
  have word : "select " ++ query.distinctWord = "select distinct " := by
    rw [Select.distinctWord, distinct, uncounted]
    rfl
  have unremoved : store.answer ("select " ++ query.distinctWord ++ query.ranked dialect) =
      Ranked.number rows := by
    rw [word, removes, numbered, eraseDups_of_nodup (Ranked.nodup_number rows)]
  have page {offset count : Nat} (later : 0 < offset)
      (short : offset + count < 10 ^ Fault.numeralLimit) :=
    page_ranked alone unremoved later short
  constructor
  · intro offset count later short
    exact page later short
  · intro offset count later short
    rw [page later short]
    exact @page_ranked _ _ _ { query with distinct := false } _ alone numbered _ _ later short
  · intro bound short
    rw [← windows_eraseDups]
    apply forall₂_congr
    intro offset count
    apply imp_congr_right
    intro later
    apply imp_congr_right
    intro _
    apply imp_congr_right
    intro within
    rw [page later (Nat.lt_of_le_of_lt within short), List.map_take, List.map_drop]
    exact ⟨Except.ok.inj, congrArg Except.ok⟩

end Store

/-! ## The pages of some names -/

/-- The query of the names of the users, each of them once. -/
def Select.names : Select :=
  { table := "users", selects := "name", distinct := true, orderBy := "name" }

/-- The store of the names of some users. -/
def Store.names [DecidableEq α] (rows : List α) : Store α :=
  .ofTables fun text =>
    let numbered := Ranked.number (rows.map (⟨·, none⟩))
    if "select distinct ".toList.isPrefixOf text then numbered.eraseDups else numbered

theorem Store.distinct_pages_names :
    let store := Store.names ["ann", "bob", "bob", "eve"]
    let rows : List (Ranked String) := ["ann", "bob", "bob", "eve"].map (⟨·, none⟩)
    Select.names.union = "" ∧ Select.names.distinct = true ∧
      Select.isCountDistinct Select.names.selects = false ∧
      store.answer ("select " ++ Select.names.ranked {}) = Ranked.number rows ∧
      store.RemovesEqual (Select.names.ranked {}) ∧
      Repeats store {} Select.names rows ∧
      store.page {} Select.names [.int (2 : Nat), .int (1 : Nat)] = .ok ["bob", "bob"] := by
  intro store rows
  have numbered : store.answer ("select " ++ Select.names.ranked {}) = Ranked.number rows := by
    have unread : Limiter.read? ("select " ++ Select.names.ranked {}).toList = none := by
      decide
    exact readAnswer_of_none _ unread
  have removes : store.RemovesEqual (Select.names.ranked {}) := by
    have unread : Limiter.read? ("select distinct " ++ Select.names.ranked {}).toList = none := by
      decide
    rw [RemovesEqual, numbered]
    exact readAnswer_of_none _ unread
  have uncounted : Select.isCountDistinct Select.names.selects = false := by
    decide
  have pages : Repeats store {} Select.names rows :=
    distinct_pages rfl rfl uncounted numbered removes
  have digits : 10 ^ 1 ≤ 10 ^ Fault.numeralLimit := Nat.pow_le_pow_right (by decide) (by decide)
  have short : 1 + 2 < 10 ^ Fault.numeralLimit := Nat.lt_of_lt_of_le (by decide) digits
  exact ⟨rfl, rfl, uncounted, numbered, removes, pages, pages.page 1 2 Nat.one_pos short⟩

end Midrange
