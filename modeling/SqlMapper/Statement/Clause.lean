import SqlMapper.Data.Value
import SqlMapper.Statement.Operator

/-!
# Clauses

A clause is a predicate with the connector that joins it to the clause before. Clauses are data;
their text is made by a dialect. The type of sub-selects is a parameter, since a sub-select is a
query and queries hold clauses.
-/

namespace SqlMapper

/-- How a clause is joined to the one before it. The connector of a first clause has no effect. -/
inductive Connector where
  /-- Both clauses have to hold. -/
  | and
  /-- One of the clauses has to hold. -/
  | or
deriving DecidableEq, Inhabited

/-- The keyword of a connector. -/
def Connector.sql : Connector → String
  | .and => "AND"
  | .or => "OR"

/-- A condition on one column. -/
inductive Predicate (σ : Type) where
  /-- The column compared with a value. -/
  | compare (column : String) (operator : Operator) (value : Value)
  /-- The column is null, or is not. -/
  | nullCheck (column : String) (negated : Bool)
  /-- The column has one of the values, or none of them. -/
  | among (column : String) (values : List Value) (negated : Bool)
  /-- The column has one of the values a sub-select gives, or none of them. -/
  | amongSelect (column : String) (select : σ) (negated : Bool)
deriving Inhabited

namespace Predicate

variable {σ : Type}

/-- The column a predicate is about. -/
def column : Predicate σ → String
  | .compare column _ _ => column
  | .nullCheck column _ => column
  | .among column _ _ => column
  | .amongSelect column _ _ => column

/-- The comparison of a column with a value. Comparing with null asks whether the column is null, or
whether it is not when the operator is one of the two inequalities. -/
def comparison (column : String) (operator : Operator) (value : Value) : Predicate σ :=
  if value.isNull then .nullCheck column operator.isInequality
  else .compare column operator value

/-- A predicate with no comparison with null. -/
def normalize : Predicate σ → Predicate σ
  | .compare column operator value => comparison column operator value
  | p => p

/-- Normalizing a second time changes nothing. -/
theorem normalize_normalize (p : Predicate σ) : p.normalize.normalize = p.normalize := by
  cases p with
  | compare column operator value =>
    by_cases h : value.isNull = true <;> simp [normalize, comparison, h]
  | _ => rfl

/-- A comparison needs no normalizing. -/
theorem normalize_comparison (column : String) (operator : Operator) (value : Value) :
    (comparison column operator value : Predicate σ).normalize =
      comparison column operator value := by
  by_cases h : value.isNull = true <;> simp [normalize, comparison, h]

end Predicate

/-- A predicate with its connector. -/
structure Clause (σ : Type) where
  /-- How the clause is joined to the one before. -/
  connector : Connector
  /-- The condition. -/
  predicate : Predicate σ
deriving Inhabited

/-- Kinds of joins. -/
inductive JoinKind where
  /-- Rows with a partner. -/
  | inner
  /-- Also left rows without a partner. -/
  | left
  /-- Also right rows without a partner. -/
  | right
  /-- All rows of both sides. -/
  | outer
deriving DecidableEq, Inhabited

/-- The keywords before `JOIN`. -/
def JoinKind.sql : JoinKind → String
  | .inner => "INNER"
  | .left => "LEFT"
  | .right => "RIGHT"
  | .outer => "FULL OUTER"

/-- A join of the table with another one. The table and the operands stand in the statement as they
are given. -/
structure Join where
  /-- The kind of join. -/
  kind : JoinKind
  /-- The joined table. -/
  table : String
  /-- The left operand of the condition. -/
  left : String
  /-- The operator of the condition. -/
  operator : Operator
  /-- The right operand of the condition. -/
  right : String
deriving DecidableEq, Inhabited

/-- Sort directions. -/
inductive Direction where
  /-- Small to large. -/
  | ascending
  /-- Large to small. -/
  | descending
deriving DecidableEq, Inhabited

namespace Direction

/-- The keyword of a direction. -/
def sql : Direction → String
  | .ascending => "ASC"
  | .descending => "DESC"

/-- The direction a caller's text names. -/
def ofText (text : String) : Except QueryFault Direction :=
  if Text.sameWord (Text.trim text) "asc" then .ok .ascending
  else if Text.sameWord (Text.trim text) "desc" then .ok .descending
  else .error (.invalidDirection text)

end Direction

/-- A column to sort by. -/
structure Ordering where
  /-- The column. -/
  column : String
  /-- The direction. -/
  direction : Direction
deriving DecidableEq, Inhabited

end SqlMapper
