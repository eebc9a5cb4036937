import Midrange.Select

/-!
# Fragments in their places

A statement is made of pieces in a fixed order.  Some are fragments that the caller has
written: the join, the bodies of the clauses and the union.  Each fragment has one place,
where it stands as it was given behind its keyword, and none of the other pieces depends
on it.  A page has its order inside the numbering column and its union behind the window.
-/

namespace Midrange.Select

/-- The parts of a query that the caller has written. -/
inductive Fragment where
  | join
  | condition
  | orderBy
  | groupBy
  | having
  | union
  deriving DecidableEq, Repr

namespace Fragment

def body (query : Select) : Fragment → String
  | .join => query.join
  | .condition => query.condition
  | .orderBy => query.orderBy
  | .groupBy => query.groupBy
  | .having => query.having
  | .union => query.union

/-- The query with another text for a fragment. -/
def put (query : Select) (text : String) : Fragment → Select
  | .join => { query with join := text }
  | .condition => { query with condition := text }
  | .orderBy => { query with orderBy := text }
  | .groupBy => { query with groupBy := text }
  | .having => { query with having := text }
  | .union => { query with union := text }

/-- The order of a page stands in brackets, with no blank before it. -/
def keyword (query : Select) : Fragment → String
  | .join => " from "
  | .condition => " where "
  | .orderBy => if query.isPaginated then "order by " else " order by "
  | .groupBy => " group by "
  | .having => " having "
  | .union => " union "

/-- The text does not put a join in the place of the table, nor the other way round. -/
def KeepsSource (query : Select) (text : String) (fragment : Fragment) : Prop :=
  fragment = .join → (text = "" ↔ query.join = "")

end Fragment

/-- A piece of a statement. -/
inductive Piece where
  | fixed (text : String)
  | fragment (fragment : Fragment)
  deriving DecidableEq, Repr

/-- A fragment is written behind its keyword; an empty one is left out. -/
def Piece.write (query : Select) : Piece → String
  | .fixed text => text
  | .fragment part => clause (part.keyword query) (part.body query)

def write (query : Select) (pieces : List Piece) : String :=
  String.join (pieces.map (Piece.write query))

/-! ## The places -/

/-- The beginning of a select statement, up to its columns. -/
def opening (query : Select) : String :=
  "select " ++ query.distinctWord ++ query.selects

/-- The table, if there is no join. -/
def tableSource (dialect : Dialect) (query : Select) : String :=
  if query.join = "" then " from " ++ dialect.quoteIdentifier query.table else ""

/-- The clause that limits the rows of a statement that is no page. -/
def rowLimit (query : Select) : String :=
  match query.limit with
  | .count rows => if rows.isTrue then " " ++ Dialect.fetchFirst rows else ""
  | _ => ""

/-- The pieces of a statement that is no page. -/
def plainPieces (dialect : Dialect) (query : Select) : List Piece :=
  [.fixed query.opening, .fragment .join, .fixed (query.tableSource dialect),
    .fragment .condition, .fragment .orderBy, .fragment .groupBy, .fragment .having,
    .fixed query.rowLimit, .fragment .union]

/-- The pieces of a page with its bounds. -/
def pagePieces (dialect : Dialect) (query : Select) (first last : String) : List Piece :=
  [.fixed ("select * from (" ++ query.opening ++ ", " ++ "row_number() over("),
    .fragment .orderBy, .fixed ") rn", .fragment .join, .fixed (query.tableSource dialect),
    .fragment .condition, .fragment .groupBy, .fragment .having,
    .fixed (") tmp where tmp.rn > " ++ first ++ " and tmp.rn <= " ++ last), .fragment .union]

/-- The bounds of a page as they are written, if they can be. -/
def bounds (offset rows : Value) : Except Fault (String × String) := do
  let first ← offset.write
  let last ← offset.add rows
  return (first, ← last.write)

/-- The pieces of a statement from its beginning to its end, unless its limit cannot be
written. -/
def pieces (dialect : Dialect) (query : Select) : Except Fault (List Piece) :=
  match query.limit with
  | .unlimited => .ok (query.plainPieces dialect)
  | .count rows =>
      if rows.isTrue && rows.isLong then .error .longNumber
      else .ok (query.plainPieces dialect)
  | .page offset rows =>
      (bounds offset rows).map fun (first, last) => query.pagePieces dialect first last

variable {dialect : Dialect} {query : Select}

theorem from_source (dialect : Dialect) (query : Select) (rest : String) :
    " from " ++ (query.source dialect ++ rest) =
      clause " from " query.join ++ (query.tableSource dialect ++ rest) := by
  by_cases joined : query.join = ""
  · simp [source, clause, tableSource, joined, String.append_assoc]
  · simp [source, clause, tableSource, joined, String.append_assoc]

theorem write_nil (query : Select) : query.write [] = "" := rfl

theorem write_cons (query : Select) (piece : Piece) (later : List Piece) :
    query.write (piece :: later) = piece.write query ++ query.write later :=
  String.join_cons

theorem write_append (query : Select) (earlier later : List Piece) :
    query.write (earlier ++ later) = query.write earlier ++ query.write later := by
  rw [write, List.map_append, String.join_append]
  rfl

/-- The body of a statement with its fragments apart. -/
theorem body_eq_fragments (dialect : Dialect) (query : Select) :
    query.body dialect =
      query.opening ++
        (if query.isPaginated then ", " ++ Dialect.rowNumber query.orderClause else "") ++
        clause " from " query.join ++ query.tableSource dialect ++
        clause " where " query.condition ++
        (if query.isPaginated then "" else clause " order by " query.orderBy) ++
        clause " group by " query.groupBy ++ clause " having " query.having := by
  have unfolded : query.body dialect =
      "select " ++ query.distinctWord ++ (query.selects ++
        if query.isPaginated then ", " ++ Dialect.rowNumber query.orderClause else "") ++
        " from " ++ query.source dialect ++ clause " where " query.condition ++
        (if query.isPaginated then "" else clause " order by " query.orderBy) ++
        clause " group by " query.groupBy ++ clause " having " query.having := rfl
  simp only [unfolded, opening, from_source, String.append_assoc]

theorem write_plainPieces (dialect : Dialect) (unpaged : query.isPaginated = false) :
    query.write (query.plainPieces dialect) =
      query.body dialect ++ query.rowLimit ++ clause " union " query.union := by
  simp only [plainPieces, write_cons, write_nil, Piece.write, Fragment.keyword, Fragment.body,
    body_eq_fragments, unpaged, String.append_assoc, String.append_empty,
    Bool.false_eq_true, if_false]

theorem write_pagePieces (dialect : Dialect) (paged : query.isPaginated = true)
    (first last : String) :
    query.write (query.pagePieces dialect first last) =
      Dialect.window (query.body dialect) first last ++ clause " union " query.union := by
  have numbering : Dialect.rowNumber query.orderClause =
      "row_number() over(" ++ clause "order by " query.orderBy ++ ") rn" := rfl
  have window (inner : String) : Dialect.window inner first last =
      "select * from (" ++ inner ++ ") tmp where tmp.rn > " ++ first ++
        " and tmp.rn <= " ++ last := rfl
  simp only [pagePieces, write_cons, write_nil, Piece.write, Fragment.keyword, Fragment.body,
    body_eq_fragments, numbering, window, paged, String.append_assoc, String.append_empty,
    if_true]

theorem offsetWindow_eq_bounds (inner : String) (offset rows : Value) :
    Dialect.offsetWindow inner offset rows =
      (bounds offset rows).map fun (first, last) => Dialect.window inner first last := by
  simp only [Dialect.offsetWindow, bounds, bind, Except.bind]
  cases offset.write with
  | error fault => rfl
  | ok first =>
      cases offset.add rows with
      | error fault => rfl
      | ok last =>
          dsimp only
          cases last.write <;> rfl

/-- A statement is its pieces one after another. -/
theorem statement_eq_pieces (dialect : Dialect) (query : Select) :
    query.statement dialect = (query.pieces dialect).map query.write := by
  cases limit : query.limit with
  | unlimited =>
      have unpaged : query.isPaginated = false := by
        rw [isPaginated, limit]
      have written := write_plainPieces dialect unpaged
      simp only [statement, limited, pieces, limit, Except.map, written, rowLimit,
        String.append_empty]
  | count rows =>
      have unpaged : query.isPaginated = false := by
        rw [isPaginated, limit]
      have written := write_plainPieces dialect unpaged
      simp only [statement, limited, pieces, limit, Value.writing_singleton]
      rw [rowLimit, limit] at written
      cases counts : rows.isTrue with
      | false =>
          simp only [counts, Bool.false_eq_true, if_false, String.append_empty] at written
          exact congrArg Except.ok written.symm
      | true =>
          cases long : rows.isLong with
          | true => rfl
          | false =>
              simp only [counts, if_true, ← String.append_assoc] at written
              exact congrArg Except.ok written.symm
  | page offset rows =>
      have paged : query.isPaginated = true := by
        rw [isPaginated, limit]
      simp only [statement, limited, pieces, limit, offsetWindow_eq_bounds]
      cases bounds offset rows with
      | error fault => rfl
      | ok bounds =>
          exact congrArg Except.ok (write_pagePieces dialect paged bounds.1 bounds.2).symm

/-! ## Other texts for fragments -/

namespace Fragment

variable {fragment : Fragment} {text : String}

theorem body_put (fragment : Fragment) (query : Select) (text : String) :
    fragment.body (fragment.put query text) = text := by
  cases fragment <;> rfl

theorem isPaginated_put (fragment : Fragment) (query : Select) (text : String) :
    (fragment.put query text).isPaginated = query.isPaginated := by
  cases fragment <;> rfl

theorem keyword_put (fragment other : Fragment) (query : Select) (text : String) :
    other.keyword (fragment.put query text) = other.keyword query := by
  cases other <;> simp only [keyword, isPaginated_put]

theorem body_put_of_ne {part : Fragment} (other : part ≠ fragment) :
    part.body (fragment.put query text) = part.body query := by
  cases fragment <;> cases part <;> simp_all [body, put]

/-- Only the piece of the fragment itself is written differently. -/
theorem write_put_of_ne {piece : Piece} (other : piece ≠ .fragment fragment) :
    piece.write (fragment.put query text) = piece.write query := by
  cases piece with
  | fixed => rfl
  | fragment part =>
      have apart : part ≠ fragment := fun same => other (congrArg Piece.fragment same)
      rw [Piece.write, Piece.write, body_put_of_ne apart, keyword_put]

/-- No piece depends on the text of a fragment. -/
theorem pieces_put (dialect : Dialect) (keeps : fragment.KeepsSource query text) :
    (fragment.put query text).pieces dialect = query.pieces dialect := by
  have limit : (fragment.put query text).limit = query.limit := by
    cases fragment <;> rfl
  have opening : (fragment.put query text).opening = query.opening := by
    cases fragment <;> rfl
  have rows : (fragment.put query text).rowLimit = query.rowLimit := by
    cases fragment <;> rfl
  have source : (fragment.put query text).tableSource dialect = query.tableSource dialect := by
    cases fragment with
    | join =>
        have same : (text = "") = (query.join = "") := propext (keeps rfl)
        simp only [put, tableSource, same]
    | condition | orderBy | groupBy | having | union => rfl
  simp only [pieces, plainPieces, pagePieces, limit, opening, rows, source]

end Fragment

/-- Every fragment has one place. -/
theorem count_pieces {pieces : List Piece} (made : query.pieces dialect = .ok pieces)
    (fragment : Fragment) : pieces.count (.fragment fragment) = 1 := by
  have plain : (query.plainPieces dialect).count (.fragment fragment) = 1 := by
    cases fragment <;> rfl
  rw [Select.pieces] at made
  split at made
  case h_1 =>
    cases made
    exact plain
  case h_2 =>
    split at made <;> cases made
    exact plain
  case h_3 offset rows _ =>
    cases found : bounds offset rows with
    | error fault =>
        rw [found] at made
        cases made
    | ok bounds =>
        rw [found] at made
        cases made
        cases fragment <;> rfl

/-- Pieces without a fragment do not depend on it. -/
theorem write_put_of_notMem {pieces : List Piece} {fragment : Fragment} {text : String}
    (absent : .fragment fragment ∉ pieces) :
    (fragment.put query text).write pieces = query.write pieces := by
  apply congrArg String.join
  apply List.map_congr_left
  intro piece member
  apply Fragment.write_put_of_ne
  rintro rfl
  exact absent member

/-- What a statement makes of its fragments. -/
structure InPlace (dialect : Dialect) (query : Select) : Prop where
  /-- The statement is its pieces in their order. -/
  statement : query.statement dialect = (query.pieces dialect).map query.write
  /-- Every fragment has one place. -/
  once : ∀ pieces, query.pieces dialect = .ok pieces →
    ∀ fragment : Fragment, pieces.count (.fragment fragment) = 1
  /-- Whatever its text, a fragment stands there behind its keyword, and what is before and
  behind it stays the same. -/
  verbatim : ∀ pieces, query.pieces dialect = .ok pieces →
    ∀ fragment : Fragment, ∃ earlier later, pieces = earlier ++ .fragment fragment :: later ∧
      ∀ text, fragment.KeepsSource query text →
        (fragment.put query text).statement dialect =
          .ok (query.write earlier ++ clause (fragment.keyword query) text ++ query.write later)
  /-- A limit that cannot be written leaves no statement, whatever the fragments. -/
  refused : ∀ fault, query.pieces dialect = .error fault →
    ∀ (fragment : Fragment) (text : String), fragment.KeepsSource query text →
      (fragment.put query text).statement dialect = .error fault
  /-- A join stands for the table. -/
  joined : query.join ≠ "" →
    ∀ table, { query with table }.statement dialect = query.statement dialect

theorem fragments_inPlace (dialect : Dialect) (query : Select) : InPlace dialect query where
  statement := statement_eq_pieces dialect query
  once := fun pieces made => count_pieces made
  verbatim := by
    intro pieces made fragment
    have once := count_pieces made fragment
    have member : Piece.fragment fragment ∈ pieces := by
      rw [← List.count_pos_iff, once]
      exact Nat.one_pos
    obtain ⟨earlier, later, rfl⟩ := List.append_of_mem member
    rw [List.count_append, List.count_cons_self] at once
    have before : Piece.fragment fragment ∉ earlier := List.count_eq_zero.mp (by omega)
    have behind : Piece.fragment fragment ∉ later := List.count_eq_zero.mp (by omega)
    refine ⟨earlier, later, rfl, fun text keeps => ?_⟩
    rw [statement_eq_pieces, Fragment.pieces_put dialect keeps, made]
    apply congrArg Except.ok
    rw [write_append, write_cons, write_put_of_notMem before, write_put_of_notMem behind,
      Piece.write, Fragment.body_put, Fragment.keyword_put, String.append_assoc]
  refused := by
    intro fault refused fragment text keeps
    rw [statement_eq_pieces, Fragment.pieces_put dialect keeps, refused]
    rfl
  joined := by
    intro joined table
    have body : body dialect { query with table } = query.body dialect := by
      rw [body_eq_fragments, body_eq_fragments]
      simp only [tableSource, if_neg joined]
      rfl
    simp only [Select.statement, limited, body]

/-- The order stands before the groups, and the limit before the union. -/
example :
    let query : Select :=
      { table := "users", condition := "a = 1", orderBy := "b", groupBy := "c", having := "d",
        union := "select 2", limit := .count (.int 5) }
    query.write (query.plainPieces {}) = "select * from \"users\" where a = 1 order by b " ++
      "group by c having d fetch first 5 rows only union select 2" :=
  rfl

end Midrange.Select
