import Midrange.Dialect
import Midrange.Select.CountDistinct
import Midrange.Select.Limit

/-!
# Queries

A query is a table with rendered clause bodies and a row limit.
`Select.statement` is its text.  A page numbers the rows in the order of the
query and keeps a window of them, so the order is used up inside the window.
-/

namespace Midrange

/-- A query of one table.  Clause bodies come without their keywords, and an
empty one is left out. -/
structure Select where
  table : String
  selects : String := "*"
  distinct : Bool := false
  join : String := ""
  condition : String := ""
  orderBy : String := ""
  groupBy : String := ""
  having : String := ""
  union : String := ""
  limit : Limit Value := .unlimited
  deriving Repr

namespace Select

/-- A clause with its keyword, or nothing if the body is empty. -/
def clause (keyword body : String) : String :=
  if body = "" then "" else keyword ++ body

def isPaginated (query : Select) : Bool :=
  match query.limit with
  | .page .. => true
  | _ => false

/-- The word that removes equal rows. -/
def distinctWord (query : Select) : String :=
  if query.distinct && !isCountDistinct query.selects then "distinct " else ""

/-- The order clause. -/
def orderClause (query : Select) : String :=
  clause "order by " query.orderBy

/-- The select list; a page also numbers its rows. -/
def columns (query : Select) : String :=
  query.selects ++
    if query.isPaginated then ", " ++ Dialect.rowNumber query.orderClause else ""

/-- What the rows are taken from: the join, if there is one, or the table. -/
def source (dialect : Dialect) (query : Select) : String :=
  if query.join = "" then dialect.quoteIdentifier query.table else query.join

/-- The statement without its limit and union. -/
def body (dialect : Dialect) (query : Select) : String :=
  "select " ++ query.distinctWord ++ query.columns ++
    " from " ++ query.source dialect ++ clause " where " query.condition ++
    (if query.isPaginated then "" else clause " order by " query.orderBy) ++
    clause " group by " query.groupBy ++ clause " having " query.having

/-- The body kept to the rows of the limit.  A count that is nothing keeps all
rows. -/
def limited (dialect : Dialect) (query : Select) : Except Fault String :=
  let body := query.body dialect
  match query.limit with
  | .unlimited => .ok body
  | .count rows =>
      if rows.isTrue then Value.writing [rows] (body ++ " " ++ Dialect.fetchFirst rows)
      else .ok body
  | .page offset rows => Dialect.offsetWindow body offset rows

/-- The statement of a query, unless its limit cannot be written. -/
def statement (dialect : Dialect) (query : Select) : Except Fault String :=
  (query.limited dialect).map (· ++ clause " union " query.union)

end Select

end Midrange
