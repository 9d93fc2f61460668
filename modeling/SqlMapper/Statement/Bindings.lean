import SqlMapper.Data.Value

/-!
# Bound values by purpose

The values a query holds are kept in four sections, one for each purpose. A statement fills its
placeholders from the sections it uses, section after section.
-/

namespace SqlMapper

/-- What a bound value is for. -/
inductive Section where
  /-- A cell of an inserted row. -/
  | insert
  /-- A new value of an update. -/
  | update
  /-- A value in a condition on rows. -/
  | rows
  /-- A value in a condition on groups. -/
  | groups
deriving DecidableEq, Inhabited

namespace Section

/-- All sections, in the order in which they are walked. -/
def all : List Section := [.insert, .update, .rows, .groups]

/-- The name of a section. -/
def title : Section → String
  | .insert => "Insert"
  | .update => "Update"
  | .rows => "Where"
  | .groups => "Having"

end Section

/-- The statements a query can be compiled into. -/
inductive StatementKind where
  /-- The rows of the query. -/
  | select
  /-- Whether the query has rows. -/
  | existence
  /-- One new row. -/
  | insert
  /-- New rows. -/
  | insertMany
  /-- New values in the rows of the query. -/
  | update
  /-- The removal of the rows of the query. -/
  | delete
deriving DecidableEq, Inhabited

namespace StatementKind

/-- All kinds of statements. -/
def all : List StatementKind := [.select, .existence, .insert, .insertMany, .update, .delete]

/-- The name of a kind, in words joined by underscores. -/
def name : StatementKind → String
  | .select => "select"
  | .existence => "exists"
  | .insert => "insert"
  | .insertMany => "insert_many"
  | .update => "update"
  | .delete => "delete"

/-- The sections that fill the placeholders of a statement, in the order of the placeholders. -/
def sections : StatementKind → List Section
  | .select | .existence => [.rows, .groups]
  | .insert | .insertMany => [.insert]
  | .update => [.update, .rows]
  | .delete => [.rows]

end StatementKind

/-- Bound values, by section. -/
structure Bindings where
  /-- Cells of inserted rows, row after row. -/
  inserts : List Value := []
  /-- New values of an update. -/
  updates : List Value := []
  /-- Values of the conditions on rows. -/
  wheres : List Value := []
  /-- Values of the conditions on groups. -/
  havings : List Value := []
deriving DecidableEq, Inhabited

namespace Bindings

/-- The values of a section. -/
def valuesOf (b : Bindings) : Section → List Value
  | .insert => b.inserts
  | .update => b.updates
  | .rows => b.wheres
  | .groups => b.havings

/-- Adds values at the end of a section. -/
def append (b : Bindings) (s : Section) (values : List Value) : Bindings :=
  match s with
  | .insert => { b with inserts := b.inserts ++ values }
  | .update => { b with updates := b.updates ++ values }
  | .rows => { b with wheres := b.wheres ++ values }
  | .groups => { b with havings := b.havings ++ values }

/-- Adds a value at the end of a section. -/
def push (b : Bindings) (s : Section) (value : Value) : Bindings :=
  b.append s [value]

/-- The values that fill the placeholders of a statement, in order. -/
def forStatement (b : Bindings) (kind : StatementKind) : List Value :=
  kind.sections.flatMap b.valuesOf

/-- All values, section after section. -/
def flatten (b : Bindings) : List Value :=
  Section.all.flatMap b.valuesOf

/-- The number of values. -/
def size (b : Bindings) : Nat :=
  Section.all.foldr (fun s count => (b.valuesOf s).length + count) 0

/-- Whether there are no values. -/
def isEmpty (b : Bindings) : Bool :=
  b.size == 0

/-- Adding to a section adds to that section and to no other. -/
theorem valuesOf_append (b : Bindings) (s t : Section) (values : List Value) :
    (b.append s values).valuesOf t = if t = s then b.valuesOf t ++ values else b.valuesOf t := by
  cases s <;> cases t <;> rfl

/-- The size counts the values that flattening lists. -/
theorem length_flatten (b : Bindings) : b.flatten.length = b.size := by
  simp [flatten, size, Section.all]

end Bindings

end SqlMapper
