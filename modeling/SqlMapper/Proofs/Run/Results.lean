import SqlMapper.Proofs.Protocol.Job
import SqlMapper.Proofs.Values.Editing

/-!
# Rows of a result

A database gives each row of a result as a list of columns in which names may repeat, as they do
where two tables are joined. The row that is made of them has one column for each name: it stands
where the name occurs first, and it has the value of the last column of that name
(`Row.ReadsLast`). So a row has all columns of the result exactly if their names are distinct, and
what a caller is given as the value of the first column is that of the last column with the name of
the first one (`Executor.reads_last_named`).
-/

namespace SqlMapper

namespace ColumnValues

/-- The first value is the one that is found under the first name. -/
theorem head?_values (cv : ColumnValues) : cv.values.head? = cv.columns.head?.bind cv.get? := by
  obtain ⟨entries⟩ := cv
  cases entries with
  | nil => rfl
  | cons entry rest => simp [values, columns, get?]

/-- Collecting pairs leaves them as they are exactly if their names are distinct. -/
theorem entries_ofList_eq_iff (pairs : List (String × Value)) :
    (ofList pairs).entries = pairs ↔ (pairs.map Prod.fst).Nodup := by
  constructor
  · intro same
    have nodup : ((ofList pairs).entries.map Prod.fst).Nodup := (made_ofList pairs).nodup
    rwa [same] at nodup
  · intro nodup
    induction pairs using List.reverseRecOn with
    | nil => rfl
    | append_singleton pairs pair ih =>
      rw [List.map_append, List.map_singleton, List.nodup_append] at nodup
      -- the pair that is set last goes to the end only if its name is new
      have fresh : pair.1 ∉ (ofList pairs).columns := by
        rw [columns_ofList, List.mem_eraseDups]
        exact fun seen => nodup.2.2 _ seen _ List.mem_cons_self rfl
      rw [ofList_concat, entries_set_of_notMem fresh, ih nodup.1]

end ColumnValues

namespace Row

/-- The value of the first column of a name. -/
def firstValue? (columns : List (String × Value)) (name : String) : Option Value :=
  (columns.find? fun column => column.1 == name).map Prod.snd

/-- The value of the last column of a name. -/
def lastValue? (columns : List (String × Value)) (name : String) : Option Value :=
  firstValue? columns.reverse name

/-- The value of the last column that has the name of the leading one. -/
def lastOfLeading? (columns : List (String × Value)) : Option Value :=
  columns.head?.bind fun leading => lastValue? columns leading.1

/-- A row as it is read from the columns of a result. -/
structure ReadsLast (columns : List (String × Value)) (row : Row) : Prop where
  /-- There is one column for each name, and they stand in the order in which the names occur
  first. -/
  names : row.values.columns = (columns.map Prod.fst).eraseDups
  /-- Each has the value of the last column of its name. -/
  value : ∀ name, row.value? name = lastValue? columns name
  /-- So has the first one. -/
  first : row.first? = lastOfLeading? columns
  /-- No column is lost exactly if the names are distinct. -/
  whole : row.values.entries = columns ↔ (columns.map Prod.fst).Nodup
  /-- For distinct names the values are those that stand first. -/
  distinct : (columns.map Prod.fst).Nodup →
    (∀ name, row.value? name = firstValue? columns name) ∧
      row.first? = columns.head?.map Prod.snd

/-- A row is made by reading the columns of a result one after another. -/
theorem readsLast_ofResult (columns : List (String × Value)) :
    ReadsLast columns (ofResult columns) where
  names := ColumnValues.columns_ofList columns
  value := ColumnValues.get?_ofList columns
  first := by
    have leading : ((columns.map Prod.fst).eraseDups).head? = columns.head?.map Prod.fst := by
      cases columns with
      | nil => rfl
      | cons column rest => simp [List.eraseDups_cons]
    have found : (ColumnValues.ofList columns).get? = lastValue? columns :=
      funext (ColumnValues.get?_ofList columns)
    show (ColumnValues.ofList columns).values.head? = _
    rw [ColumnValues.head?_values, ColumnValues.columns_ofList, leading, found, Option.bind_map]
    rfl
  whole := ColumnValues.entries_ofList_eq_iff columns
  distinct nodup := by
    have whole : ColumnValues.ofList columns = ⟨columns⟩ :=
      congrArg ColumnValues.mk ((ColumnValues.entries_ofList_eq_iff columns).2 nodup)
    rw [ofResult, whole]
    exact ⟨fun _ => rfl, List.head?_map⟩

end Row

namespace Executor

/-- **A row has the last value of each name.** Whatever a database tells of a caller's text, each
row has one column for each name, with the value of the last column of that name, and it has all
columns of the result exactly if their names are distinct. So the value of the first column, which a
caller may ask for of the first row or of every row, is that of the last column with the name of the
first one. -/
theorem reads_last_named {m : Type → Type} [Monad m] [LawfulMonad m] {ℓ : Type} (x : Executor m ℓ)
    (sql : String) (bindings : List Value) :
    let told := x.sendOne x.source.fetch (rawStatement sql bindings)
    x.raw sql bindings = (fun results => results.map Row.ofResult) <$> told ∧
      x.firstColumn sql bindings =
        (fun results => results.head?.bind Row.lastOfLeading?) <$> told ∧
      x.firstColumnValues sql bindings =
        (fun results => results.filterMap Row.lastOfLeading?) <$> told ∧
      ∀ columns, Row.ReadsLast columns (Row.ofResult columns) := by
  intro told
  have rows : x.raw sql bindings = (fun results => results.map Row.ofResult) <$> told := by
    rw [raw, fetch_eq, map_eq_pure_bind]
  have first : Row.first? ∘ Row.ofResult = Row.lastOfLeading? :=
    funext fun columns => (Row.readsLast_ofResult columns).first
  refine ⟨rows, ?_, ?_, Row.readsLast_ofResult⟩
  · rw [firstColumn, firstRow, rows]
    simp only [map_eq_pure_bind, bind_assoc, pure_bind, List.head?_map, Option.bind_map, first]
  · rw [firstColumnValues, rows]
    simp only [map_eq_pure_bind, bind_assoc, pure_bind, List.filterMap_map, first]

/-- The columns of a joined row in which two tables have a column of one name. -/
def joinedColumns : List (String × Value) :=
  [("id", .int 1), ("title", .text "Emma"), ("id", .int 2)]

/-- An executor whose database gives one joined row. -/
def joining : Executor Id String where
  dialect := .sqlite
  source :=
    { acquire := .ok ()
      fetch := fun _ => .ok [joinedColumns]
      execute := fun _ => .ok { affected := 0, lastRowId := 0 } }
  hear := fun _ event => { operation := event.operation, verdict := .proceed }
  notice := fun _ => ()

/-- The row that is made of three joined columns has two, and the first one has the value of the
third. -/
theorem reads_last_named_joining :
    LawfulMonad Id ∧
      (joining.raw "SELECT *" []).run = .ok [⟨⟨[("id", .int 2), ("title", .text "Emma")]⟩⟩] ∧
      (joining.firstColumn "SELECT *" []).run = .ok (Row.lastOfLeading? joinedColumns) ∧
      (joining.firstColumnValues "SELECT *" []).run = .ok [.int 2] ∧
      Row.ReadsLast joinedColumns (Row.ofResult joinedColumns) := by
  obtain ⟨rows, first, firsts, row⟩ := joining.reads_last_named "SELECT *" []
  exact ⟨inferInstance, by rw [rows]; rfl, by rw [first]; rfl, by rw [firsts]; rfl,
    row joinedColumns⟩

/-- Of two columns with one name the first one is lost, and its value is not what a caller is given
as the value of the first column. -/
theorem loses_leading_column :
    joinedColumns.head? = some ("id", .int 1) ∧
      (Row.ofResult joinedColumns).values.columns ≠ joinedColumns.map Prod.fst ∧
      (Row.ofResult joinedColumns).value? "id" ≠ Row.firstValue? joinedColumns "id" ∧
      (Row.ofResult joinedColumns).first? ≠ joinedColumns.head?.map Prod.snd ∧
      (joining.firstColumn "SELECT *" []).run = .ok (some (.int 2)) ∧
      (joining.firstColumnValues "SELECT *" []).run = .ok [.int 2] :=
  ⟨rfl, by decide, by decide, by decide, rfl, rfl⟩

end Executor

end SqlMapper
