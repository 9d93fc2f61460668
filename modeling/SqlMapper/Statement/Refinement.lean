import SqlMapper.Statement.Query

/-!
# Refinements

A refinement is one step of building a query, as data. A caller's text for an operator or a
direction is checked when the step is applied, and a step that fails leaves no query behind, so the
caller goes on with the one it had. `Query.Built` says which queries can be reached at all.
-/

namespace SqlMapper

/-- One step of building a query. -/
inductive Refinement where
  /-- Names the table. -/
  | table (name : String)
  /-- Names the selected columns, in place of those named before. -/
  | select (columns : List String)
  /-- Asks for distinct rows. -/
  | distinct
  /-- Adds a condition on rows. -/
  | where_ (connector : Connector) (predicate : Predicate Query)
  /-- Adds a comparison as a condition on rows, its operator given as text. -/
  | whereText (connector : Connector) (column operator : String) (value : Value)
  /-- Adds a join, its operator given as text. -/
  | join (kind : JoinKind) (table left operator right : String)
  /-- Adds columns to group by. -/
  | groupBy (columns : List String)
  /-- Adds a condition on groups. -/
  | having (connector : Connector) (predicate : Predicate Query)
  /-- Adds a comparison as a condition on groups, its operator given as text. -/
  | havingText (connector : Connector) (column operator : String) (value : Value)
  /-- Adds a column to sort by. -/
  | orderBy (column : String) (direction : Direction)
  /-- Adds a column to sort by, its direction given as text. -/
  | orderByText (column direction : String)
  /-- Sets the largest number of rows. -/
  | limit (rows : Nat)
  /-- Sets the number of rows to skip. -/
  | offset (rows : Nat)
  /-- Stages assignments for an update. -/
  | stageUpdate (values : ColumnValues)
  /-- Stages the rows of an insert. -/
  | stageInsert (rows : List ColumnValues)
deriving Inhabited

namespace Query

/-- The query after one step. -/
def refine (q : Query) : Refinement → Except QueryFault Query
  | .table name => .ok { q with table := name }
  | .select columns => .ok { q with columns := columns }
  | .distinct => .ok { q with distinct := true }
  | .where_ connector predicate => .ok (q.addWhere connector predicate)
  | .whereText connector column operator value => do
    let operator ← Operator.ofText operator
    return q.addWhere connector (.comparison column operator value)
  | .join kind table left operator right => do
    let operator ← Operator.ofText operator
    return { q with joins := q.joins ++ [{ kind, table, left, operator, right }] }
  | .groupBy columns => .ok { q with groups := q.groups ++ columns }
  | .having connector predicate => .ok (q.addHaving connector predicate)
  | .havingText connector column operator value => do
    let operator ← Operator.ofText operator
    return q.addHaving connector (.comparison column operator value)
  | .orderBy column direction => .ok { q with orders := q.orders ++ [{ column, direction }] }
  | .orderByText column direction => do
    let direction ← Direction.ofText direction
    return { q with orders := q.orders ++ [{ column, direction }] }
  | .limit rows => .ok { q with limit := some rows }
  | .offset rows => .ok { q with offset := some rows }
  | .stageUpdate values => .ok (q.stageUpdate values)
  | .stageInsert rows => q.stageInsert rows

/-- The query after all steps, or the first fault. -/
def refineAll (q : Query) (steps : List Refinement) : Except QueryFault Query :=
  steps.foldlM refine q

/-- The query after the steps that succeed, taken one by one; a step that fails is left out. -/
def refineEach (q : Query) (steps : List Refinement) : Query :=
  steps.foldl (fun current step => (current.refine step).toOption.getD current) q

/-- The sub-select that a step brings in. -/
def Refinement.child? : Refinement → Option Query
  | .where_ _ (.amongSelect _ select _) => some select
  | .having _ (.amongSelect _ select _) => some select
  | _ => none

/-- The queries that can be built: from a query on a table, or on none, by steps whose sub-selects
were built the same way. -/
inductive Built : Query → Prop where
  /-- A fresh query is built. -/
  | fresh (table : String) : Built (ofTable table)
  /-- A step on a built query with a built sub-select gives a built query. -/
  | step {q next : Query} (step : Refinement) (built : Built q)
    (children : ∀ child, Refinement.child? step = some child → Built child)
    (refined : q.refine step = .ok next) : Built next

end Query

end SqlMapper
