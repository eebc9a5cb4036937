import Mathlib
import Midrange.Proofs.Pagination
import Midrange.Proofs.Store

/-!
# Pages of a result

The column that numbers the rows of a query ranks them from one.  That is enough for
a page to keep the rows after its offset, and for pages one after another to make up
the whole result, as long as their bounds can be written.
-/

namespace Midrange

variable {α : Type}

/-! ## Windows of ranked rows -/

namespace Ranked

/-- The rows with their ranks, from one. -/
def number (rows : List (Ranked α)) : List (Ranked α) :=
  (rows.zipIdx 1).map fun entry => ⟨entry.1.row, some entry.2⟩

theorem filter_zipIdx_inWindow (rows : List α) (offset count : Nat) :
    ((rows.zipIdx 1).filter fun entry =>
        Limiter.inWindow offset (offset + count) entry.2).map (·.1) =
      (rows.drop offset).take count := by
  let start := 1 + (rows.take offset).length
  have parts : rows.zipIdx 1 = (rows.take offset).zipIdx 1 ++
      (((rows.drop offset).take count).zipIdx start ++
        ((rows.drop offset).drop count).zipIdx
          (start + ((rows.drop offset).take count).length)) := by
    rw [← List.zipIdx_append, ← List.zipIdx_append, List.take_append_drop,
      List.take_append_drop]
  have before : ((rows.take offset).zipIdx 1).filter (fun entry =>
      Limiter.inWindow offset (offset + count) entry.2) = [] := by
    apply List.filter_eq_nil_iff.mpr
    intro entry member
    have bound := List.snd_lt_of_mem_zipIdx member
    grind [Limiter.inWindow]
  have inside : (((rows.drop offset).take count).zipIdx start).filter (fun entry =>
      Limiter.inWindow offset (offset + count) entry.2) =
        ((rows.drop offset).take count).zipIdx start := by
    apply List.filter_eq_self.mpr
    intro entry member
    have bound := List.snd_lt_of_mem_zipIdx member
    have least := List.le_snd_of_mem_zipIdx member
    grind [Limiter.inWindow]
  have behind : (((rows.drop offset).drop count).zipIdx
      (start + ((rows.drop offset).take count).length)).filter (fun entry =>
        Limiter.inWindow offset (offset + count) entry.2) = [] := by
    apply List.filter_eq_nil_iff.mpr
    intro entry member
    have bound := List.snd_lt_of_mem_zipIdx member
    have least := List.le_snd_of_mem_zipIdx member
    grind [Limiter.inWindow]
  rw [parts, List.filter_append, List.filter_append, before, inside, behind,
    List.nil_append, List.append_nil, List.zipIdx_map_fst]

theorem keep_window_number (rows : List (Ranked α)) (offset count : Nat) :
    ((Limiter.window offset (offset + count)).keep (number rows)).map row =
      ((rows.drop offset).take count).map row := by
  rw [← filter_zipIdx_inWindow, Limiter.keep, number, List.filter_map, List.map_map,
    List.map_map]
  rfl

end Ranked

/-! ## The statements of pages -/

theorem Value.isLong_int (number : Nat) :
    (Value.int number).isLong = decide (10 ^ Fault.numeralLimit ≤ number) := by
  rw [isLong, Int.natAbs_natCast]
  -- The bound itself is too great to be evaluated.
  generalize Fault.numeralLimit = digits
  rfl

theorem Value.write_int_of_long {number : Nat} (long : 10 ^ Fault.numeralLimit ≤ number) :
    (Value.int number).write = .error .longNumber := by
  rw [write, writing_singleton, isLong_int, decide_eq_true long, if_pos rfl]

theorem Value.writing_int {number : Nat} (short : number < 10 ^ Fault.numeralLimit)
    (text : String) : writing [.int number] text = .ok text := by
  rw [writing_singleton, isLong_int, decide_eq_false (Nat.not_le_of_lt short),
    if_neg Bool.false_ne_true]

theorem Value.write_int {number : Nat} (short : number < 10 ^ Fault.numeralLimit) :
    (Value.int number).write = .ok (Value.int number).toText :=
  writing_int short _

theorem Dialect.offsetWindow_int {offset count : Nat} (inner : String)
    (short : offset + count < 10 ^ Fault.numeralLimit) :
    Dialect.offsetWindow inner (.int offset) (.int count) =
      .ok ((Limiter.window offset (offset + count)).write inner) := by
  have first := Value.write_int (Nat.lt_of_le_of_lt (Nat.le_add_right offset count) short)
  have last := Value.write_int short
  simp only [offsetWindow, bind, Except.bind, first, Value.add_int, ← Int.natCast_add, last]
  rfl

/-- A window whose end cannot be written fails. -/
theorem Dialect.offsetWindow_int_of_long {offset count : Nat} (inner : String)
    (short : offset < 10 ^ Fault.numeralLimit)
    (long : 10 ^ Fault.numeralLimit ≤ offset + count) :
    Dialect.offsetWindow inner (.int offset) (.int count) = .error .longNumber := by
  have first := Value.write_int short
  have last := Value.write_int_of_long long
  simp only [offsetWindow, bind, Except.bind, first, Value.add_int, ← Int.natCast_add, last]

namespace Select

/-- The query with all its rows in their order. -/
def whole (query : Select) : Select :=
  { query with limit := .unlimited }

variable {query : Select}

theorem statement_count (dialect : Dialect) {count : Nat} (positive : 0 < count)
    (short : count < 10 ^ Fault.numeralLimit) (alone : query.union = "") :
    ({ query with limit := .count (.int count) } : Select).statement dialect =
      (query.whole.statement dialect).map (· ++ " " ++ Dialect.fetchFirst (.int count)) := by
  have counts : (Value.int count).isTrue = true := by
    simp [Value.isTrue]
    omega
  have counted : ({ query with limit := .count (.int count) } : Select).limited dialect =
      .ok (query.whole.body dialect ++ " " ++ Dialect.fetchFirst (.int count)) :=
    (if_pos counts).trans (Value.writing_int short _)
  have unlimited : query.whole.limited dialect = .ok (query.whole.body dialect) := rfl
  have ended : clause " union " query.whole.union = "" := by
    rw [whole, alone, clause_empty]
  rw [statement, statement, counted, unlimited]
  simp [Except.map, alone, ended]

end Select

/-- The offset that the arguments of a limit after its length ask for. -/
inductive Skips : List Value → Nat → Prop where
  | missing : Skips [] 0
  | null : Skips [.null] 0
  | offset (number : Nat) : Skips [.int number] number

/-- A length and an offset ask for a page. -/
theorem Limit.ofArguments_later (count : Nat) {offset : Nat} (later : 0 < offset) :
    Limit.ofArguments [.int count, .int offset] = .ok (.page (.int offset) (.int count)) := by
  have isTrue : (Value.int offset).isTrue = true := by
    simp [Value.isTrue]
    omega
  simp [Limit.ofArguments, Limit.ofLength, isTrue]

/-- The rows of a query with the limit that arguments ask for. -/
def Store.page (store : Store α) (dialect : Dialect) (query : Select)
    (arguments : List Value) : Except Fault (List α) := do
  let limit ← Limit.ofArguments arguments
  let rows ← store.ask ({ query with limit }.statement dialect)
  return rows.map Ranked.row

section

variable {store : Store α} {dialect : Dialect} {query : Select} {rows : List (Ranked α)}
  {count : Nat}

theorem Store.page_first (alone : query.union = "")
    (result : store.ask (query.whole.statement dialect) = .ok rows)
    (positive : 0 < count) (short : count < 10 ^ Fault.numeralLimit) {arguments : List Value}
    (plain : Limit.ofArguments (.int count :: arguments) = .ok (.count (.int count))) :
    store.page dialect query (.int count :: arguments) =
      .ok ((rows.take count).map Ranked.row) := by
  obtain ⟨text, written, rfl⟩ := Store.ask_eq_ok result
  have limits := store.limits (.first count) text
  have said : ({ query with limit := .count (.int count) } : Select).statement dialect =
      .ok ((Limiter.first count).write text) := by
    rw [Select.statement_count dialect positive short alone, written]
    rfl
  simp only [page, plain, bind, Except.bind, ask, said, Except.map, limits, Limiter.keep]
  rfl

/-- A page after an offset asks for a window of the numbered rows. -/
theorem Store.page_later (alone : query.union = "") (single : query.distinct = false)
    {offset : Nat} (later : 0 < offset) {text : String}
    (written : query.numbered.statement dialect = .ok text) :
    store.page dialect query [.int count, .int offset] =
      (store.ask (Dialect.offsetWindow text (.int offset) (.int count))).map
        (·.map Ranked.row) := by
  have given := Limit.ofArguments_later count later
  let paged : Select := { query with limit := .page (.int offset) (.int count) }
  have inner : paged.numbered.statement dialect = .ok text := written
  have said : paged.statement dialect =
      Dialect.offsetWindow text (.int offset) (.int count) := by
    rw [Select.statement_of_page dialect (rfl : paged.limit = _) (.inl single), inner,
      Except.bind]
    cases Dialect.offsetWindow text (.int offset) (.int count) with
    | error fault => rfl
    | ok window => simp [Except.map, paged, alone]
  simp only [page, given, bind, Except.bind]
  rw [said]
  cases store.ask (Dialect.offsetWindow text (.int offset) (.int count)) <;> rfl

theorem Store.page_window (alone : query.union = "") (single : query.distinct = false)
    (numbered : store.ask (query.numbered.statement dialect) = .ok (Ranked.number rows))
    {offset : Nat} (later : 0 < offset)
    (short : offset + count < 10 ^ Fault.numeralLimit) :
    store.page dialect query [.int count, .int offset] =
      .ok (((rows.drop offset).take count).map Ranked.row) := by
  obtain ⟨text, written, answered⟩ := Store.ask_eq_ok numbered
  have limits := store.limits (.window offset (offset + count)) text
  rw [Store.page_later alone single later written, Dialect.offsetWindow_int text short, ask,
    Except.map, limits, answered, Except.map, Ranked.keep_window_number]

/-- There is no page whose last row has no numeral. -/
theorem Store.page_of_long (alone : query.union = "") (single : query.distinct = false)
    {offset : Nat} (short : offset < 10 ^ Fault.numeralLimit)
    (long : 10 ^ Fault.numeralLimit ≤ offset + count) (later : 0 < offset) :
    store.page dialect query [.int count, .int offset] = .error .longNumber := by
  have written := Select.statement_numbered dialect (.inl single)
  rw [Store.page_later alone single later written,
    Dialect.offsetWindow_int_of_long _ short long]
  rfl

/-- A page keeps the rows after its offset, as many as its length. -/
theorem Store.page_of_skips (alone : query.union = "") (single : query.distinct = false)
    (result : store.ask (query.whole.statement dialect) = .ok rows)
    (numbered : store.ask (query.numbered.statement dialect) = .ok (Ranked.number rows))
    (positive : 0 < count) {arguments : List Value} {offset : Nat}
    (skips : Skips arguments offset) (short : offset + count < 10 ^ Fault.numeralLimit) :
    store.page dialect query (.int count :: arguments) =
      .ok (((rows.drop offset).take count).map Ranked.row) := by
  have fits : count < 10 ^ Fault.numeralLimit :=
    Nat.lt_of_le_of_lt (Nat.le_add_left count offset) short
  cases skips with
  | missing | null => exact Store.page_first alone result positive fits rfl
  | offset =>
      rcases Nat.eq_zero_or_pos offset with rfl | later
      · exact Store.page_first alone result positive fits rfl
      · exact Store.page_window alone single numbered later short

/-- The first pages have the first rows. -/
theorem Store.first_pages (parts : List Value → Except Fault (List α))
    (page : ∀ offset, offset + count < 10 ^ Fault.numeralLimit →
      parts [.int count, .int offset] =
        .ok (((rows.drop offset).take count).map Ranked.row))
    (pages : Nat) (short : pages * count < 10 ^ Fault.numeralLimit) :
    ∃ found, (List.range pages).mapM (fun number =>
        parts [.int count, .int (number * count : Nat)]) = .ok found ∧
      found.flatten = (rows.take (pages * count)).map Ranked.row := by
  induction pages with
  | zero => exact ⟨[], rfl, by simp⟩
  | succ pages induction =>
      rw [Nat.succ_mul] at short ⊢
      obtain ⟨found, gathered, joined⟩ :=
        induction (Nat.lt_of_le_of_lt (Nat.le_add_right _ _) short)
      have next := page (pages * count) short
      refine ⟨found ++ [((rows.drop (pages * count)).take count).map Ranked.row], ?_, ?_⟩
      · rw [List.range_succ, List.mapM_append, gathered, List.mapM_cons, next]
        rfl
      · rw [List.flatten_append, joined, List.take_add, List.map_append]
        simp

end

/-! ## The pages of some users -/

/-- The query of the users in their order. -/
def Select.users : Select :=
  { table := "users", orderBy := "id" }

/-- The store of some users. -/
def Store.users (rows : List α) : Store α :=
  .ofTables fun text =>
    if text = "select *, row_number() over(order by id) rn from \"users\"".toList then
      Ranked.number (rows.map (⟨·, none⟩))
    else
      rows.map (⟨·, none⟩)

theorem Store.ask_users (rows : List α) :
    (Store.users rows).ask (Select.users.whole.statement {}) = .ok (rows.map (⟨·, none⟩)) := by
  have written : Select.users.whole.statement {} =
      .ok "select * from \"users\" order by id" := rfl
  have unread : Limiter.read? "select * from \"users\" order by id".toList = none := by
    decide
  rw [ask, written, users, Except.map, ofTables]
  simp only [readAnswer_of_none _ unread]
  rw [if_neg (by decide)]

theorem Store.ask_users_numbered (rows : List α) :
    (Store.users rows).ask (Select.users.numbered.statement {}) =
      .ok (Ranked.number (rows.map (⟨·, none⟩))) := by
  have written : Select.users.numbered.statement {} =
      .ok "select *, row_number() over(order by id) rn from \"users\"" := rfl
  have unread : Limiter.read?
      "select *, row_number() over(order by id) rn from \"users\"".toList = none := by
    decide
  rw [ask, written, users, Except.map, ofTables]
  simp only [readAnswer_of_none _ unread, if_true]

/-! ## Pages one after another -/

/-- The pages of a result. -/
structure Paged (store : Store α) (dialect : Dialect) (query : Select)
    (rows : List (Ranked α)) (count : Nat) : Prop where
  /-- Each page has the rows after its offset. -/
  page : ∀ arguments offset, Skips arguments offset →
    offset + count < 10 ^ Fault.numeralLimit →
    store.page dialect query (.int count :: arguments) =
      .ok (((rows.drop offset).take count).map Ranked.row)
  /-- Pages one after another make up the result. -/
  pages : ∀ pages : Nat, rows.length ≤ pages * count →
    pages * count < 10 ^ Fault.numeralLimit →
    ∃ parts, (List.range pages).mapM (fun page =>
        store.page dialect query [.int count, .int (page * count : Nat)]) = .ok parts ∧
      parts.flatten = rows.map Ranked.row

/-- Pages tile the result. -/
theorem Store.pages_tile (store : Store α) (dialect : Dialect) (query : Select)
    (alone : query.union = "") (single : query.distinct = false)
    {rows : List (Ranked α)}
    (result : store.ask (query.whole.statement dialect) = .ok rows)
    (numbered : store.ask (query.numbered.statement dialect) = .ok (Ranked.number rows))
    {count : Nat} (positive : 0 < count) : Paged store dialect query rows count where
  page := fun _ _ skips short =>
    Store.page_of_skips alone single result numbered positive skips short
  pages := by
    intro pages enough short
    obtain ⟨found, gathered, joined⟩ :=
      Store.first_pages (store.page dialect query)
        (fun offset => Store.page_of_skips alone single result numbered positive
          (.offset offset)) pages short
    rw [List.take_of_length_le enough] at joined
    exact ⟨found, gathered, joined⟩

theorem Store.pages_tile_users :
    Paged (Store.users [1, 2, 3, 4, 5]) {} Select.users
      ([1, 2, 3, 4, 5].map (⟨·, none⟩)) 2 :=
  Store.pages_tile _ _ _ rfl rfl (Store.ask_users _) (Store.ask_users_numbered _)
    (by decide)

/-- A page far behind the end is not empty; it fails. -/
theorem Store.pages_end_users :
    let far : Nat := 10 ^ Fault.numeralLimit - 1
    (Store.users [1]).ask (Select.users.whole.statement {}) = .ok [⟨1, none⟩] ∧
      (Store.users [1]).ask (Select.users.numbered.statement {}) =
        .ok (Ranked.number [⟨1, none⟩]) ∧
      Skips [.int far] far ∧
      (Store.users [1]).page {} Select.users [.int (1 : Nat), .int far] =
        .error .longNumber ∧
      ¬∀ arguments offset, Skips arguments offset →
        (Store.users [1]).page {} Select.users (.int (1 : Nat) :: arguments) =
          .ok ((([⟨1, none⟩] : List (Ranked Nat)).drop offset).take 1 |>.map Ranked.row) := by
  intro far
  have positive : 1 < 10 ^ Fault.numeralLimit := Nat.one_lt_pow (by decide) (by decide)
  have fails : (Store.users [1]).page {} Select.users [.int (1 : Nat), .int far] =
      .error .longNumber := by
    apply Store.page_of_long rfl rfl <;> omega
  refine ⟨Store.ask_users [1], Store.ask_users_numbered [1], .offset far, fails, ?_⟩
  intro pages
  rw [pages _ far (.offset far)] at fails
  cases fails

end Midrange
