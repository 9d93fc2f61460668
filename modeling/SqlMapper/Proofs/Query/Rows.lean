import Mathlib.Data.List.Perm.Subperm
import SqlMapper.Lifecycle.Operation
import SqlMapper.Proofs.Query.Staging
import SqlMapper.Proofs.Values.Columns

/-!
# Rows that can be staged

Staging compares the number of columns of each row with that of the first row, and looks up each
column of the first row in it. For distinct columns this asks for just the same columns in any order
(`Query.fits_iff_perm`). A traversal ends at the first element that is refused
(`mapM_eq_error_iff`), so the fault of staging is that of the first row that does not fit, and there
of the first column that it lacks (`Query.Unstageable`). A call that is refused leaves the operation
as it was; one that succeeds sets the columns and the number of the rows and appends their values
(`Operation.attempt_stageInsert`).
-/

namespace SqlMapper

section Traversal

variable {ε α β : Type} {f : α → Except ε β} {xs : List α}

/-- A list is traversed to its end exactly if no element is refused. -/
theorem exists_mapM_eq_ok : (∃ out, xs.mapM f = .ok out) ↔ ∀ x ∈ xs, ∃ b, f x = .ok b := by
  induction xs with
  | nil => exact ⟨fun _ => nofun, fun _ => ⟨[], rfl⟩⟩
  | cons x rest ih =>
    rw [List.mapM_cons, List.forall_mem_cons, ← ih]
    cases hx : f x with
    | error e => simp [bind, Except.bind]
    | ok b => cases hrest : rest.mapM f <;> simp [bind, Except.bind, pure, Except.pure]

/-- A traversal is refused exactly at an element behind others that are not. -/
theorem mapM_eq_error_iff {e : ε} : xs.mapM f = .error e ↔ ∃ before x after,
    xs = before ++ x :: after ∧ (∀ y ∈ before, ∃ b, f y = .ok b) ∧ f x = .error e := by
  constructor
  · intro h
    induction xs with
    | nil => cases h
    | cons first rest ih =>
      rw [List.mapM_cons] at h
      cases hfirst : f first with
      | error e' =>
        rw [hfirst] at h
        cases h
        exact ⟨[], first, rest, rfl, nofun, hfirst⟩
      | ok b =>
        have later : rest.mapM f = .error e := by
          cases hrest : rest.mapM f with
          | error e' => simpa [hfirst, hrest, bind, Except.bind] using h
          | ok out => simp [hfirst, hrest, bind, Except.bind, pure, Except.pure] at h
        obtain ⟨before, x, after, rfl, hbefore, hx⟩ := ih later
        exact ⟨first :: before, x, after, rfl, List.forall_mem_cons.2 ⟨⟨b, hfirst⟩, hbefore⟩, hx⟩
  · rintro ⟨before, x, after, rfl, hbefore, hx⟩
    obtain ⟨out, hout⟩ := exists_mapM_eq_ok.2 hbefore
    rw [List.mapM_append, hout, List.mapM_cons, hx]
    rfl

/-- A result that is changed is there exactly if there is one to change. -/
theorem exists_map_eq_ok {x : Except ε α} {g : α → β} :
    (∃ b, x.map g = .ok b) ↔ ∃ a, x = .ok a := by
  cases x <;> simp [Except.map]

/-- A fault is there exactly if it was there before a change of the result. -/
theorem map_eq_error_iff {x : Except ε α} {g : α → β} {e : ε} :
    x.map g = .error e ↔ x = .error e := by
  cases x <;> simp [Except.map]

end Traversal

namespace Query

/-- A row has as many columns as are asked for, and each of these. -/
structure Fits (columns : List String) (row : ColumnValues) : Prop where
  size : row.size = columns.length
  mem : columns ⊆ row.columns

/-- Why a row at a place does not fit columns. -/
inductive Misfit (columns : List String) (index : Nat) (row : ColumnValues) :
    QueryFault → Prop where
  /-- The number of columns is another one. -/
  | count (differs : row.size ≠ columns.length) :
      Misfit columns index row (.insertRowMismatch index columns.length row.size)
  /-- A column is lacking, and those before it are not. -/
  | column {present rest : List String} {column : String} (size : row.size = columns.length)
      (order : columns = present ++ column :: rest) (has : present ⊆ row.columns)
      (lacks : column ∉ row.columns) :
      Misfit columns index row (.insertColumnMismatch index column)

/-- The value of a row for one column. -/
def lookUp (index : Nat) (row : ColumnValues) (column : String) : Except QueryFault Value :=
  match row.get? column with
  | some value => .ok value
  | none => .error (.insertColumnMismatch index column)

/-- The values of a row for columns, if it has as many columns. -/
def alignCounted (columns : List String) (index : Nat) (row : ColumnValues) :
    Except QueryFault (List Value) :=
  if row.size ≠ columns.length then .error (.insertRowMismatch index columns.length row.size)
  else columns.mapM (lookUp index row)

variable {columns : List String} {index : Nat} {row : ColumnValues} {fault : QueryFault}

/-- Distinct columns fit a row exactly if they are its columns in another order. -/
theorem fits_iff_perm (h : columns.Nodup) : Fits columns row ↔ row.columns.Perm columns := by
  have size : row.columns.length = row.size := List.length_map _
  constructor
  · intro fits
    have fewer : row.columns.length ≤ columns.length := Nat.le_of_eq (size.trans fits.size)
    exact ((List.subperm_of_subset h fits.mem).perm_of_length_le fewer).symm
  · exact fun perm => ⟨size ▸ perm.length_eq, perm.symm.subset⟩

/-- Distinct columns fit rows exactly if they are the columns of each in another order. -/
theorem forall_fits_iff_perm {rows : List ColumnValues} (h : columns.Nodup) :
    (∀ row ∈ rows, Fits columns row) ↔ ∀ row ∈ rows, row.columns.Perm columns :=
  forall₂_congr fun _ _ => fits_iff_perm h

/-- Just the columns of a row have a value. -/
theorem exists_lookUp_eq_ok {column : String} :
    (∃ value, lookUp index row column = .ok value) ↔ column ∈ row.columns := by
  unfold lookUp
  cases hv : row.get? column with
  | some value => simp [ColumnValues.mem_columns_of_get? hv]
  | none => simp [ColumnValues.notMem_columns_of_get? hv]

/-- The fault of a column without a value names the row and the column. -/
theorem lookUp_eq_error_iff {column : String} : lookUp index row column = .error fault ↔
    column ∉ row.columns ∧ fault = .insertColumnMismatch index column := by
  unfold lookUp
  cases hv : row.get? column with
  | some value => simp [ColumnValues.mem_columns_of_get? hv]
  | none => simp [ColumnValues.notMem_columns_of_get? hv, eq_comm]

/-- A row is aligned exactly if it fits. -/
theorem exists_alignCounted_eq_ok :
    (∃ values, alignCounted columns index row = .ok values) ↔ Fits columns row := by
  unfold alignCounted
  split
  · next differs => exact ⟨nofun, fun fits => absurd fits.size differs⟩
  · next same =>
    rw [exists_mapM_eq_ok]
    constructor
    · exact fun present => ⟨Decidable.not_not.1 same, fun column hc =>
        exists_lookUp_eq_ok.1 (present column hc)⟩
    · exact fun fits column hc => exists_lookUp_eq_ok.2 (fits.mem hc)

/-- A row that is not aligned does not fit. -/
theorem alignCounted_eq_error_iff :
    alignCounted columns index row = .error fault ↔ Misfit columns index row fault := by
  unfold alignCounted
  split
  · next differs =>
    constructor
    · rintro ⟨⟩
      exact .count differs
    · rintro (_ | ⟨size, _, _, _⟩)
      · rfl
      · exact absurd size differs
  · next same =>
    rw [mapM_eq_error_iff]
    constructor
    · rintro ⟨present, column, rest, order, has, refused⟩
      obtain ⟨lacks, rfl⟩ := lookUp_eq_error_iff.1 refused
      exact .column (Decidable.not_not.1 same) order
        (fun other hother => exists_lookUp_eq_ok.1 (has other hother)) lacks
    · rintro (differs | ⟨_, order, has, lacks⟩)
      · exact absurd differs same
      · exact ⟨_, _, _, order, fun other hother => exists_lookUp_eq_ok.2 (has hother),
          lookUp_eq_error_iff.2 ⟨lacks, rfl⟩⟩

/-- A row is aligned by looking up the columns one after another. -/
theorem alignRow_eq_mapM (columns : List String) (index : Nat) (row : ColumnValues) :
    alignRow columns index row = columns.mapM (lookUp index row) := rfl

/-- Rows are aligned by traversing them with their places. -/
theorem alignRows_eq_mapM (columns : List String) (index : Nat) (rows : List ColumnValues) :
    alignRows columns index rows =
      ((rows.zipIdx index).mapM fun entry => alignCounted columns entry.2 entry.1).map
        List.flatten := by
  induction rows generalizing index with
  | nil => rfl
  | cons row rest ih =>
    rw [alignRows, ih, List.zipIdx_cons, List.mapM_cons, alignCounted, alignRow_eq_mapM]
    generalize (rest.zipIdx (index + 1)).mapM
      (fun entry => alignCounted columns entry.2 entry.1) = others
    by_cases differs : row.size ≠ columns.length
    · rw [if_pos differs, if_pos differs]
      rfl
    · rw [if_neg differs, if_neg differs]
      cases columns.mapM (lookUp index row) <;> cases others <;> rfl

/-- No row at its place is refused exactly if all rows fit. -/
theorem forall_zipIdx_alignCounted_iff {rows : List ColumnValues} :
    (∀ entry ∈ rows.zipIdx index, ∃ values, alignCounted columns entry.2 entry.1 = .ok values) ↔
      ∀ row ∈ rows, Fits columns row := by
  constructor
  · intro aligned row hrow
    rw [← List.zipIdx_map_fst index rows] at hrow
    obtain ⟨entry, hentry, rfl⟩ := List.exists_of_mem_map hrow
    exact exists_alignCounted_eq_ok.1 (aligned entry hentry)
  · intro fits entry hentry
    exact exists_alignCounted_eq_ok.2 (fits entry.1 (List.fst_mem_of_mem_zipIdx hentry))

/-- Just rows that fit are aligned. -/
theorem exists_alignRows_eq_ok {rows : List ColumnValues} :
    (∃ values, alignRows columns index rows = .ok values) ↔ ∀ row ∈ rows, Fits columns row := by
  rw [alignRows_eq_mapM, exists_map_eq_ok, exists_mapM_eq_ok, forall_zipIdx_alignCounted_iff]

/-- The fault of rows is that of the first one that does not fit. -/
theorem alignRows_eq_error_iff {rows : List ColumnValues} :
    alignRows columns index rows = .error fault ↔ ∃ before row after,
      rows = before ++ row :: after ∧ (∀ r ∈ before, Fits columns r) ∧
        Misfit columns (index + before.length) row fault := by
  rw [alignRows_eq_mapM, map_eq_error_iff, mapM_eq_error_iff]
  constructor
  · rintro ⟨placed, entry, rest, split, aligned, refused⟩
    obtain ⟨before, others, rfl, rfl, hothers⟩ := List.zipIdx_eq_append_iff.1 split
    obtain ⟨row, after, rfl, rfl, -⟩ := List.zipIdx_eq_cons_iff.1 hothers.symm
    exact ⟨before, row, after, rfl, forall_zipIdx_alignCounted_iff.1 aligned,
      alignCounted_eq_error_iff.1 refused⟩
  · rintro ⟨before, row, after, rfl, fits, misfit⟩
    refine ⟨before.zipIdx index, (row, index + before.length),
      after.zipIdx (index + before.length + 1), ?_, forall_zipIdx_alignCounted_iff.2 fits,
      alignCounted_eq_error_iff.2 misfit⟩
    rw [List.zipIdx_append, List.zipIdx_cons]

/-- Rows with the same columns, of which there is one at least, in any order. -/
structure Uniform (rows : List ColumnValues) : Prop where
  nonempty : rows ≠ []
  columns : columnsOfFirst rows ≠ []
  perm : ∀ row ∈ rows, row.columns.Perm (columnsOfFirst rows)

/-- Why rows cannot be staged. -/
inductive Unstageable (rows : List ColumnValues) : QueryFault → Prop where
  /-- There is no row, or the first one has no column. -/
  | empty (columns : columnsOfFirst rows = []) : Unstageable rows .emptyInsert
  /-- A row has other columns than the first one, and the rows before it have the same. -/
  | row {before after : List ColumnValues} {row : ColumnValues} {fault : QueryFault}
      (columns : columnsOfFirst rows ≠ []) (split : rows = before ++ row :: after)
      (earlier : ∀ r ∈ before, r.columns.Perm (columnsOfFirst rows))
      (misfit : Misfit (columnsOfFirst rows) before.length row fault) : Unstageable rows fault

/-- Staging aligns the rows with the columns of the first one, if that has any. -/
theorem stageInsert_eq (q : Query) (rows : List ColumnValues) :
    q.stageInsert rows =
      if columnsOfFirst rows = [] then .error .emptyInsert
      else (alignRows (columnsOfFirst rows) 0 rows).map fun staged =>
        { q with
          insertColumns := columnsOfFirst rows
          insertRows := rows.length
          bindings := q.bindings.append .insert staged } := by
  cases rows with
  | nil => rfl
  | cons first rest =>
    have same : first.isEmpty = true ↔ columnsOfFirst (first :: rest) = [] := by
      simp [columnsOfFirst, ColumnValues.columns, ColumnValues.isEmpty]
    rw [stageInsert]
    simp only [same]
    split
    · rfl
    · show _ = (alignRows first.columns 0 (first :: rest)).map _
      cases alignRows first.columns 0 (first :: rest) <;> rfl

/-- The columns of the first row are distinct if those of every row are. -/
theorem nodup_columnsOfFirst {rows : List ColumnValues} (made : ∀ row ∈ rows, row.Made) :
    (columnsOfFirst rows).Nodup := by
  cases rows with
  | nil => exact List.nodup_nil
  | cons first _ => exact (made first List.mem_cons_self).nodup

/-- Just uniform rows are staged. -/
theorem exists_stageInsert_eq_ok {q : Query} {rows : List ColumnValues}
    (h : (columnsOfFirst rows).Nodup) :
    (∃ next, q.stageInsert rows = .ok next) ↔ Uniform rows := by
  rw [stageInsert_eq]
  by_cases columns : columnsOfFirst rows = []
  · rw [if_pos columns]
    exact ⟨nofun, fun uniform => absurd columns uniform.columns⟩
  · have nonempty : rows ≠ [] := by
      rintro rfl
      exact columns rfl
    rw [if_neg columns, exists_map_eq_ok, exists_alignRows_eq_ok, forall_fits_iff_perm h]
    exact ⟨fun perm => ⟨nonempty, columns, perm⟩, Uniform.perm⟩

/-- The fault of staging says why the rows cannot be staged. -/
theorem stageInsert_eq_error_iff {q : Query} {rows : List ColumnValues} {fault : QueryFault}
    (h : (columnsOfFirst rows).Nodup) :
    q.stageInsert rows = .error fault ↔ Unstageable rows fault := by
  rw [stageInsert_eq]
  by_cases columns : columnsOfFirst rows = []
  · rw [if_pos columns]
    constructor
    · rintro ⟨⟩
      exact .empty columns
    · rintro (_ | ⟨filled, _, _, _⟩)
      · rfl
      · exact absurd columns filled
  · rw [if_neg columns, map_eq_error_iff, alignRows_eq_error_iff]
    constructor
    · rintro ⟨before, row, after, split, earlier, misfit⟩
      rw [Nat.zero_add] at misfit
      exact .row columns split ((forall_fits_iff_perm h).1 earlier) misfit
    · rintro (empty | ⟨_, split, earlier, misfit⟩)
      · exact absurd empty columns
      · refine ⟨_, _, _, split, (forall_fits_iff_perm h).2 earlier, ?_⟩
        rwa [Nat.zero_add]

end Query

/-- Each cell of rows that can be staged is the value that its row has for its column. -/
theorem Stageable.map_some_cells {rows : List ColumnValues} (h : Stageable rows) :
    (cells rows).map some = rows.flatMap fun row => (columnsOfFirst rows).map row.get? := by
  rw [cells, List.map_flatMap]
  refine List.flatMap_congr fun row hrow => ?_
  have present : ∀ column ∈ columnsOfFirst rows, (row.get? column).isSome := h.complete row hrow
  generalize columnsOfFirst rows = columns at present
  induction columns with
  | nil => rfl
  | cons column rest ih =>
    rw [List.forall_mem_cons] at present
    obtain ⟨value, hvalue⟩ := Option.isSome_iff_exists.1 present.1
    rw [List.filterMap_cons_some hvalue, List.map_cons, List.map_cons, ih present.2, hvalue]

/-- **Staging rows takes effect as a whole or not at all.** It succeeds exactly for rows with the
same columns, of which there is one at least, in any order. Then the columns and the number of these
rows take the place of those before, the value that each row has for each column is bound after
those before, row after row in the order of the first one, and nothing else changes. Otherwise the
operation is left as it was, and the fault is that of the first row that has other columns than the
first one: their number if that is another one, and the first column that it lacks if not. -/
theorem Operation.attempt_stageInsert {ℓ : Type} (op : Operation ℓ) {rows : List ColumnValues}
    (made : ∀ row ∈ rows, row.Made) :
    let after := op.attempt fun op => op.refine (.stageInsert rows)
    (after.2 = .ok () ↔ Query.Uniform rows) ∧
      (Query.Uniform rows → ∃ staged : List Value,
        staged.map some = (rows.flatMap fun row => (columnsOfFirst rows).map row.get?) ∧
          after.1 = { op with query := { op.query with
            insertColumns := columnsOfFirst rows
            insertRows := rows.length
            bindings := { op.query.bindings with
              inserts := op.query.bindings.inserts ++ staged } } }) ∧
      (¬ Query.Uniform rows → after.1 = op) ∧
      ∀ fault, after.2 = .error fault ↔ Query.Unstageable rows fault := by
  have nodup := Query.nodup_columnsOfFirst made
  have succeeds : (∃ next, op.query.stageInsert rows = .ok next) ↔ Query.Uniform rows :=
    Query.exists_stageInsert_eq_ok nodup
  have fails (fault : QueryFault) :
      op.query.stageInsert rows = .error fault ↔ Query.Unstageable rows fault :=
    Query.stageInsert_eq_error_iff nodup
  cases h : op.query.stageInsert rows with
  | error fault =>
    have left : op.attempt (fun op => op.refine (.stageInsert rows)) = (op, .error fault) := by
      rw [attempt, refine, Query.refine, h]
    have mixed : ¬ Query.Uniform rows := by simp [← succeeds, h]
    rw [left]
    refine ⟨⟨nofun, fun uniform => absurd uniform mixed⟩, fun uniform => absurd uniform mixed,
      fun _ => rfl, fun other => ?_⟩
    rw [← fails other, h]
    simp
  | ok next =>
    have reached : op.attempt (fun op => op.refine (.stageInsert rows)) =
        ({ op with query := next }, .ok ()) := by
      rw [attempt, refine, Query.refine, h]
    have uniform : Query.Uniform rows := succeeds.1 ⟨next, h⟩
    obtain ⟨stageable, rfl⟩ := Query.stageInsert_eq_ok h
    rw [reached]
    refine ⟨⟨fun _ => uniform, fun _ => rfl⟩, fun _ => ⟨cells rows, stageable.map_some_cells, rfl⟩,
      fun mixed => absurd uniform mixed, fun other => ?_⟩
    rw [← fails other, h]
    simp

/-- Three rows: the second has the columns of the first in another order, and the third lacks one
of them. -/
def bookRows : List ColumnValues :=
  [.ofList [("title", .text "Emma"), ("pages", .int 474)],
    .ofList [("pages", .int 249), ("title", .text "Persuasion")],
    .ofList [("pages", .int 409), ("author", .text "Austen")]]

/-- The first two rows are staged together, and with the third one nothing is. -/
theorem Operation.attempt_stageInsert_books :
    ((Operation.ofTable "books" : Operation String).attempt fun op =>
      op.refine (.stageInsert (bookRows.take 2))).2 = .ok () ∧
    ((Operation.ofTable "books" : Operation String).attempt fun op =>
      op.refine (.stageInsert bookRows)).2 = .error (.insertColumnMismatch 2 "title") ∧
    ((Operation.ofTable "books" : Operation String).attempt fun op =>
      op.refine (.stageInsert bookRows)).1 = .ofTable "books" := by
  have made : ∀ row ∈ bookRows, row.Made := by
    simp [bookRows, ColumnValues.made_ofList]
  have firstTwo : ∀ row ∈ bookRows.take 2, row.Made :=
    fun row hrow => made row (List.mem_of_mem_take hrow)
  have two := Operation.attempt_stageInsert (Operation.ofTable "books" : Operation String) firstTwo
  have three := Operation.attempt_stageInsert (Operation.ofTable "books" : Operation String) made
  have uniform : Query.Uniform (bookRows.take 2) := ⟨by decide, by decide, by decide⟩
  have mixed : ¬ Query.Uniform bookRows := fun uniform => absurd uniform.perm (by decide)
  have order : ["title", "pages"] = [] ++ "title" :: ["pages"] := rfl
  have lacking : Query.Misfit ["title", "pages"] 2
      (.ofList [("pages", .int 409), ("author", .text "Austen")])
      (.insertColumnMismatch 2 "title") :=
    .column rfl order (by decide) (by decide)
  have split : bookRows =
      bookRows.take 2 ++ [.ofList [("pages", .int 409), ("author", .text "Austen")]] := rfl
  have unstageable : Query.Unstageable bookRows (.insertColumnMismatch 2 "title") :=
    .row (by decide) split uniform.perm lacking
  exact ⟨two.1.2 uniform, (three.2.2.2 _).2 unstageable, three.2.2.1 mixed⟩

end SqlMapper
