import SqlMapper.Dialect.Basic

/-!
# The text of a select

A select is made of nine parts in a fixed order. A part that does not apply is the empty text and is
left out; the others are separated by a space. Clauses stand one after another with their connectors
and without parentheses. A list of values gives one placeholder for each value; an empty list gives
a condition that never holds, or always when it is negated.
-/

namespace SqlMapper

/-- The parts of a select. -/
inductive SelectPart where
  /-- The selected columns. -/
  | columns
  /-- The table. -/
  | from_
  /-- The joins. -/
  | joins
  /-- The conditions on rows. -/
  | wheres
  /-- The columns to group by. -/
  | groups
  /-- The conditions on groups. -/
  | havings
  /-- The columns to sort by. -/
  | orders
  /-- The largest number of rows. -/
  | limit
  /-- The number of rows to skip. -/
  | offset
deriving DecidableEq, Inhabited

namespace SelectPart

/-- All parts, in the order of the statement. -/
def all : List SelectPart :=
  [.columns, .from_, .joins, .wheres, .groups, .havings, .orders, .limit, .offset]

/-- The name of a part. -/
def title : SelectPart → String
  | .columns => "Columns"
  | .from_ => "From"
  | .joins => "Joins"
  | .wheres => "Wheres"
  | .groups => "Groups"
  | .havings => "Havings"
  | .orders => "Orders"
  | .limit => "Limit"
  | .offset => "Offset"

end SelectPart

namespace Dialect

/-- A text after a keyword, or nothing where there is nothing to write. -/
def headed (keyword : String) (absent : Bool) (text : String) : String :=
  if absent then "" else keyword ++ text

/-- A join, its table and operands as they were given. -/
def joinText (j : Join) : String :=
  j.kind.sql ++ " JOIN " ++ j.table ++ " ON " ++ j.left ++ " " ++ j.operator.sql ++ " " ++ j.right

/-- A column to sort by. -/
def orderText (d : Dialect) (o : Ordering) : String :=
  d.wrap o.column ++ " " ++ o.direction.sql

/-- One part of a select, given the texts of the conditions on rows and on groups. -/
def partText (d : Dialect) (q : Query) (wheres havings : String) : SelectPart → String
  | .columns =>
    (if q.distinct then "SELECT DISTINCT " else "SELECT ") ++
      (if q.columns.isEmpty then "*" else d.wrapAll q.columns)
  | .from_ => headed "FROM " (q.table == "") (d.wrap q.table)
  | .joins => " ".intercalate (q.joins.map joinText)
  | .wheres => headed "WHERE " q.wheres.isEmpty wheres
  | .groups => headed "GROUP BY " q.groups.isEmpty (d.wrapAll q.groups)
  | .havings => headed "HAVING " q.havings.isEmpty havings
  | .orders => headed "ORDER BY " q.orders.isEmpty (", ".intercalate (q.orders.map d.orderText))
  | .limit => match q.limit with
    | some rows => "LIMIT " ++ Nat.repr rows
    | none => ""
  | .offset => match q.offset with
    | some rows => "OFFSET " ++ Nat.repr rows
    | none => ""

/-- The parts of a select put together, given the texts of the conditions on rows and on groups. -/
def assemble (d : Dialect) (q : Query) (wheres havings : String) : String :=
  " ".intercalate ((SelectPart.all.map (d.partText q wheres havings)).filter (fun part => part != ""))

/-- The word between a column and what a negated predicate says about it. -/
def negation (negated : Bool) : String :=
  if negated then " NOT" else ""

mutual

/-- The text of a select. -/
def select (d : Dialect) : Query → String
  | { table, columns, distinct, wheres, joins, groups, havings, orders, limit, offset, assignments,
      insertColumns, insertRows, bindings } =>
    d.assemble
      { table, columns, distinct, wheres, joins, groups, havings, orders, limit, offset, assignments,
        insertColumns, insertRows, bindings }
      (clauses d wheres) (clauses d havings)

/-- The text of a list of clauses. The first connector is left out. -/
def clauses (d : Dialect) : List (Clause Query) → String
  | [] => ""
  | ⟨_, first⟩ :: rest => predicate d first ++ connected d rest

/-- The text of clauses that follow another one. -/
def connected (d : Dialect) : List (Clause Query) → String
  | [] => ""
  | ⟨connector, next⟩ :: rest => " " ++ connector.sql ++ " " ++ predicate d next ++ connected d rest

/-- The text of a predicate. -/
def predicate (d : Dialect) : Predicate Query → String
  | .compare column operator _ => d.wrap column ++ " " ++ operator.sql ++ " " ++ d.placeholder
  | .nullCheck column negated => d.wrap column ++ " IS" ++ negation negated ++ " NULL"
  | .among column values negated =>
    if values.isEmpty then (if negated then "1 = 1" else "0 = 1")
    else d.wrap column ++ negation negated ++ " IN (" ++ d.placeholders values.length ++ ")"
  | .amongSelect column child negated =>
    d.wrap column ++ negation negated ++ " IN (" ++ select d child ++ ")"

end

/-- One part of the select of a query; empty when it does not apply. -/
def part (d : Dialect) (q : Query) (p : SelectPart) : String :=
  d.partText q (d.clauses q.wheres) (d.clauses q.havings) p

/-- A select is its parts, without the empty ones, separated by spaces. -/
theorem select_eq (d : Dialect) (q : Query) :
    d.select q = " ".intercalate ((SelectPart.all.map (d.part q)).filter (fun part => part != "")) := by
  cases q
  rw [select]
  rfl

end Dialect

end SqlMapper
