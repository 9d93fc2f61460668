import SqlMapper.Data.ColumnValues

/-!
# Snapshots

A snapshot is what an entity's attributes were when its row was last read or written. A column is
dirty when the snapshot lacks it or holds a value that is not equal; so a NaN is always dirty.
-/

namespace SqlMapper

/-- The attributes an entity had when its row was last read or written. -/
structure Snapshot where
  /-- The attributes. -/
  persisted : ColumnValues := {}
deriving DecidableEq, Inhabited

namespace Snapshot

/-- The snapshot of nothing; every column is dirty. -/
def empty : Snapshot := {}

/-- The snapshot of some attributes. -/
def of (attributes : ColumnValues) : Snapshot :=
  ⟨ColumnValues.ofList attributes.entries⟩

/-- The value a column had. -/
def recorded? (s : Snapshot) (column : String) : Option Value :=
  s.persisted.get? column

/-- The attributes that differ from the snapshot, in order. -/
def changes (s : Snapshot) (attributes : ColumnValues) : ColumnValues :=
  attributes.filter (fun column value => !s.persisted.holds column value)

/-- The columns that differ from the snapshot, in order. -/
def dirtyColumns (s : Snapshot) (attributes : ColumnValues) : List String :=
  (s.changes attributes).columns

/-- Whether a column differs from the snapshot. -/
def isDirty (s : Snapshot) (attributes : ColumnValues) : Bool :=
  !(s.dirtyColumns attributes).isEmpty

/-- The columns of the snapshot in the order of their names. -/
def sorted (s : Snapshot) : List (String × Value) :=
  s.persisted.entries.mergeSort (fun a b => decide (a.1 ≤ b.1))

end Snapshot

end SqlMapper
