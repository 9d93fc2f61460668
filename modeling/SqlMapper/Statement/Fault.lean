import SqlMapper.Lifecycle.EventKind

/-!
# Faults of a query

A query can be refused while it is built, while rows are staged, when it is compiled, and when a
listener calls off a statement that cannot be called off. Each fault is its cause; the wording is
in `QueryFault.message`.
-/

namespace SqlMapper

/-- Why a query is refused. -/
inductive QueryFault where
  /-- A text is not one of the operators. -/
  | invalidOperator (text : String)
  /-- A text is not a sort direction. -/
  | invalidDirection (text : String)
  /-- An insert row has another number of columns than the first one. -/
  | insertRowMismatch (row expected found : Nat)
  /-- An insert row lacks a column of the first one. -/
  | insertColumnMismatch (row : Nat) (column : String)
  /-- An insert has no row, or no column. -/
  | emptyInsert
  /-- An update assigns nothing. -/
  | emptyAssignment
  /-- The query has no table. -/
  | missingTable
  /-- A listener called off a statement at a moment when it cannot be called off. -/
  | notCancelable (kind : EventKind)
  /-- The staged values do not fill the placeholders. -/
  | bindingMismatch (placeholders bindings : Nat)
deriving DecidableEq, Inhabited

namespace QueryFault

/-- The wording of a fault. -/
def message : QueryFault → String
  | .invalidOperator text => "invalid operator: " ++ text
  | .invalidDirection text => "invalid sort direction: " ++ text
  | .insertRowMismatch row expected found =>
    "inconsistent column count in insert row " ++ Nat.repr row ++ ": expected " ++
      Nat.repr expected ++ ", found " ++ Nat.repr found
  | .insertColumnMismatch row column =>
    "insert row " ++ Nat.repr row ++ " is missing column `" ++ column ++ "`"
  | .emptyInsert => "insert requires at least one row with at least one column"
  | .emptyAssignment => "update requires at least one assignment"
  | .missingTable => "query has no table"
  | .notCancelable kind => "event `" ++ kind.name ++ "` is not cancelable"
  | .bindingMismatch placeholders bindings =>
    "statement has " ++ Nat.repr placeholders ++ " placeholders but " ++ Nat.repr bindings ++
      " bindings"

end QueryFault

end SqlMapper
