import SqlMapper.Data.Value

/-!
# Columns with values

An insert row, the assignments of an update, the attributes of an entity and a row of a result are
all lists of columns with a value each, in an order that shows. Setting a column that is present
replaces its value where it stands; a new column goes to the end.
-/

namespace SqlMapper

/-- Columns and their values, in order. -/
structure ColumnValues where
  /-- The columns from first to last. -/
  entries : List (String × Value) := []
deriving DecidableEq, Inhabited

namespace ColumnValues

/-- No columns. -/
def empty : ColumnValues := {}

/-- A list of entries with the value of one column replaced where it stands, or added at the end. -/
def setEntry (column : String) (value : Value) : List (String × Value) → List (String × Value)
  | [] => [(column, value)]
  | (name, old) :: rest =>
    if name = column then (name, value) :: rest else (name, old) :: setEntry column value rest

/-- Gives a column a value, in its place if it is there and at the end if it is not. -/
def set (cv : ColumnValues) (column : String) (value : Value) : ColumnValues :=
  ⟨setEntry column value cv.entries⟩

/-- The value of a column. -/
def get? (cv : ColumnValues) (column : String) : Option Value :=
  (cv.entries.find? (fun entry => entry.1 == column)).map Prod.snd

/-- Whether a column is there. -/
def contains (cv : ColumnValues) (column : String) : Bool :=
  (cv.get? column).isSome

/-- All columns but one. -/
def erase (cv : ColumnValues) (column : String) : ColumnValues :=
  ⟨cv.entries.eraseP (fun entry => entry.1 == column)⟩

/-- The columns for which a test holds, in the same order. -/
def filter (cv : ColumnValues) (keep : String → Value → Bool) : ColumnValues :=
  ⟨cv.entries.filter (fun entry => keep entry.1 entry.2)⟩

/-- The names of the columns, in order. -/
def columns (cv : ColumnValues) : List String :=
  cv.entries.map Prod.fst

/-- The values, in the order of the columns. -/
def values (cv : ColumnValues) : List Value :=
  cv.entries.map Prod.snd

/-- The number of columns. -/
def size (cv : ColumnValues) : Nat :=
  cv.entries.length

/-- Whether there are no columns. -/
def isEmpty (cv : ColumnValues) : Bool :=
  cv.entries.isEmpty

/-- Sets pair after pair. -/
def setAll (cv : ColumnValues) (pairs : List (String × Value)) : ColumnValues :=
  pairs.foldl (fun acc pair => acc.set pair.1 pair.2) cv

/-- The columns made by setting pair after pair, starting from none: a repeated name keeps its first
place and has its last value. -/
def ofList (pairs : List (String × Value)) : ColumnValues :=
  empty.setAll pairs

/-- Whether two lists have the same columns in the same order with equal values. -/
def equals (a b : ColumnValues) : Bool :=
  a.columns == b.columns && (a.values.zip b.values).all (fun pair => pair.1.equals pair.2)

/-- Whether a column is there with a value equal to the given one. -/
def holds (cv : ColumnValues) (column : String) (value : Value) : Bool :=
  match cv.get? column with
  | some present => present.equals value
  | none => false

/-- Whether a column is absent or null. -/
def isUnset (cv : ColumnValues) (column : String) : Bool :=
  match cv.get? column with
  | some present => present.isNull
  | none => true

@[simp] theorem get?_empty (column : String) : empty.get? column = none := rfl

/-- A column just set has the value it was given. -/
theorem get?_set_self (cv : ColumnValues) (column : String) (value : Value) :
    (cv.set column value).get? column = some value := by
  obtain ⟨entries⟩ := cv
  induction entries with
  | nil => simp [set, setEntry, get?]
  | cons entry rest ih =>
    obtain ⟨name, old⟩ := entry
    by_cases h : name = column
    · simp [set, setEntry, get?, h]
    · simpa [set, setEntry, get?, h, List.find?_cons] using ih

/-- Setting a column leaves every other column as it was. -/
theorem get?_set_of_ne (cv : ColumnValues) {column other : String} (value : Value)
    (h : other ≠ column) : (cv.set column value).get? other = cv.get? other := by
  obtain ⟨entries⟩ := cv
  induction entries with
  | nil => simp [set, setEntry, get?, h.symm]
  | cons entry rest ih =>
    obtain ⟨name, old⟩ := entry
    by_cases hn : name = column
    · subst hn
      simp [set, setEntry, get?, h.symm]
    · by_cases ho : name = other
      · subst ho
        simp [set, setEntry, get?, hn]
      · simpa [set, setEntry, get?, hn, ho, List.find?_cons] using ih

/-- Setting a column keeps the names and their order, with a new name at the end. -/
theorem columns_set (cv : ColumnValues) (column : String) (value : Value) :
    (cv.set column value).columns =
      if column ∈ cv.columns then cv.columns else cv.columns ++ [column] := by
  obtain ⟨entries⟩ := cv
  induction entries with
  | nil => simp [set, setEntry, columns]
  | cons entry rest ih =>
    obtain ⟨name, old⟩ := entry
    by_cases hn : name = column
    · subst hn
      simp [set, setEntry, columns]
    · simp only [set, setEntry, columns, if_neg hn, List.map_cons, List.mem_cons,
        Ne.symm hn, false_or] at ih ⊢
      rw [ih]
      by_cases hr : column ∈ List.map Prod.fst rest <;> simp [hr]

end ColumnValues

end SqlMapper
