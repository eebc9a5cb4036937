import Midrange.Proofs.Recognition

/-!
# Pages as windows

The statement of a page is a window of another statement: that of the same query
without order, limit and union, and with one more column that numbers the rows in
the order of the page.
-/

namespace Midrange.Select

/-- The query inside the window of a page. -/
def numbered (query : Select) : Select :=
  { query with
    selects := query.selects ++ (", " ++ Dialect.rowNumber query.orderClause)
    orderBy := ""
    union := ""
    limit := .unlimited }

/-- The query with all its rows, in any order. -/
def bare (query : Select) : Select :=
  { query with orderBy := "", union := "", limit := .unlimited }

/-- The clauses after the select list, but for the order. -/
def clauses (dialect : Dialect) (query : Select) : String :=
  " from " ++ query.source dialect ++ clause " where " query.condition ++
    clause " group by " query.groupBy ++ clause " having " query.having

variable {query : Select}

@[simp] theorem clause_empty (keyword : String) : clause keyword "" = "" := rfl

theorem distinctWord_numbered
    (undisturbed : query.distinct = false ∨
      isCountDistinct (query.orderBy ++ ")") = false) :
    query.numbered.distinctWord = query.distinctWord := by
  have found : isCountDistinct query.numbered.selects =
      (isCountDistinct query.selects || isCountDistinct (query.orderBy ++ ")")) :=
    isCountDistinct_numbered query.selects query.orderBy
  rcases undisturbed with plain | unmatched
  · simp [distinctWord, numbered, plain]
  · rw [distinctWord, found, unmatched, Bool.or_false]
    rfl

theorem statement_of_unlimited (dialect : Dialect) (unlimited : query.limit = .unlimited)
    (unordered : query.orderBy = "") (alone : query.union = "") :
    query.statement dialect =
      .ok ("select " ++ query.distinctWord ++ query.selects ++ query.clauses dialect) := by
  simp [statement, limited, body, columns, isPaginated, clauses, unlimited, unordered,
    alone, Except.map, String.append_assoc]

theorem statement_bare (dialect : Dialect) (query : Select) :
    query.bare.statement dialect =
      .ok ("select " ++ query.distinctWord ++ query.selects ++ query.clauses dialect) :=
  statement_of_unlimited dialect rfl rfl rfl

theorem statement_numbered (dialect : Dialect)
    (undisturbed : query.distinct = false ∨
      isCountDistinct (query.orderBy ++ ")") = false) :
    query.numbered.statement dialect =
      .ok ("select " ++ query.distinctWord ++
        (query.selects ++ (", " ++ Dialect.rowNumber query.orderClause)) ++
        query.clauses dialect) := by
  rw [← distinctWord_numbered undisturbed]
  exact statement_of_unlimited dialect rfl rfl rfl

theorem body_of_page {offset rows : Value} (dialect : Dialect)
    (paged : query.limit = .page offset rows) :
    query.body dialect =
      "select " ++ query.distinctWord ++
        (query.selects ++ (", " ++ Dialect.rowNumber query.orderClause)) ++
        query.clauses dialect := by
  simp [body, columns, isPaginated, paged, clauses, String.append_assoc]

theorem statement_of_page {offset rows : Value} (dialect : Dialect)
    (paged : query.limit = .page offset rows)
    (undisturbed : query.distinct = false ∨
      isCountDistinct (query.orderBy ++ ")") = false) :
    query.statement dialect =
      (query.numbered.statement dialect).bind fun inner =>
        (Dialect.offsetWindow inner offset rows).map
          (· ++ clause " union " query.union) := by
  rw [statement_numbered dialect undisturbed, statement, limited, paged,
    body_of_page dialect paged]
  rfl

/-- What a page is made of. -/
structure Windowed (dialect : Dialect) (query : Select) (offset rows : Value) :
    Prop where
  /-- The statement is a window of the numbered one, with the union behind it. -/
  window : query.statement dialect =
    (query.numbered.statement dialect).bind fun inner =>
      (Dialect.offsetWindow inner offset rows).map fun page =>
        if query.union = "" then page else page ++ " union " ++ query.union
  /-- The order stands in the numbering column alone, and nothing limits the rows
  inside the window. -/
  inner : query.numbered.statement dialect =
    .ok ("select " ++ query.distinctWord ++
      (query.selects ++ (", " ++ Dialect.rowNumber query.orderClause)) ++
      query.clauses dialect)
  /-- Without a page, order and union, the query has the same clauses. -/
  plain : query.bare.statement dialect =
    .ok ("select " ++ query.distinctWord ++ query.selects ++ query.clauses dialect)

/-- A page is a window of the plain query, unless its order completes a count of
distinct values. -/
theorem page_windowed {offset rows : Value} (dialect : Dialect)
    (paged : query.limit = .page offset rows)
    (undisturbed : query.distinct = false ∨
      isCountDistinct (query.orderBy ++ ")") = false) :
    Windowed dialect query offset rows where
  window := by
    rw [statement_of_page dialect paged undisturbed]
    by_cases alone : query.union = ""
    · simp [alone]
    · simp [clause, alone, String.append_assoc]
  inner := statement_numbered dialect undisturbed
  plain := statement_bare dialect query

theorem page_windowed_distinct :
    let query : Select :=
      { table := "users", selects := "name", distinct := true,
        orderBy := "count(distinct\u2009", union := "select 1",
        limit := .page (.int 10) (.int 5) }
    query.distinct = true ∧ isCountDistinct (query.orderBy ++ ")") = false ∧
      Windowed {} query (.int 10) (.int 5) :=
  ⟨rfl, by decide, page_windowed {} rfl (.inr (by decide))⟩

end Midrange.Select
