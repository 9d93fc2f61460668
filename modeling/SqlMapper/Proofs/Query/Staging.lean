import SqlMapper.Proofs.Query.Change

/-!
# Staged values

Staging takes the value that every row has for every column of the first row and appends these
values row after row (`Query.stageInsert_eq_ok`). A query that was reached by a sequence of steps,
failing ones included, holds exactly what these steps supplied: the columns and values of all
assignments, the cells of all rows that were staged, and the columns and the number of the rows
staged last (`Query.Supplied.refineEach`).
-/

namespace SqlMapper

/-- The columns of the first row. -/
def columnsOfFirst (rows : List ColumnValues) : List String :=
  (rows.head?.map ColumnValues.columns).getD []

/-- The values that rows have for the columns of the first one, row after row. -/
def cells (rows : List ColumnValues) : List Value :=
  rows.flatMap (fun row => (columnsOfFirst rows).filterMap row.get?)

/-- Rows that can be staged: there is a first one, it has a column, and each row has a value for
each column of the first one. -/
structure Stageable (rows : List ColumnValues) : Prop where
  nonempty : rows ≠ []
  columns : columnsOfFirst rows ≠ []
  complete : ∀ row ∈ rows, ∀ column ∈ columnsOfFirst rows, (row.get? column).isSome

namespace Query

/-- The values of a row that is aligned are those it has for the columns. -/
theorem map_get?_of_alignRow {columns : List String} {index : Nat} {row : ColumnValues}
    {values : List Value} (h : alignRow columns index row = .ok values) :
    columns.map row.get? = values.map some := by
  unfold alignRow at h
  induction columns generalizing values with
  | nil => cases h; rfl
  | cons column rest ih =>
    rw [List.mapM_cons] at h
    cases hv : row.get? column with
    | none => simp [hv, bind, Except.bind] at h
    | some value =>
      simp only [hv, bind, Except.bind] at h
      split at h
      · cases h
      · next others hothers =>
        cases h
        rw [List.map_cons, List.map_cons, ih hothers, hv]

/-- The values of rows that are aligned are those they have for the columns, row after row. -/
theorem eq_flatMap_of_alignRows {columns : List String} {index : Nat} {rows : List ColumnValues}
    {values : List Value} (h : alignRows columns index rows = .ok values) :
    values = rows.flatMap (fun row => columns.filterMap row.get?) ∧
      ∀ row ∈ rows, ∀ column ∈ columns, (row.get? column).isSome := by
  induction rows generalizing index values with
  | nil => cases h; simp
  | cons row rest ih =>
    rw [alignRows] at h
    by_cases hs : row.size = columns.length
    · simp only [hs, ne_eq, not_true_eq_false, if_false, bind, Except.bind, pure, Except.pure] at h
      split at h
      · cases h
      · next first hfirst =>
        split at h
        · cases h
        · next others hothers =>
          cases h
          have hrow := map_get?_of_alignRow hfirst
          obtain ⟨hrest, hcomplete⟩ := ih hothers
          have hvalues : columns.filterMap row.get? = first := by
            have hmap : columns.filterMap row.get? = (columns.map row.get?).filterMap id := by
              rw [List.filterMap_map]
              rfl
            rw [hmap, hrow, List.filterMap_map]
            simp
          refine ⟨by rw [List.flatMap_cons, hvalues, ← hrest], fun other hother column hc => ?_⟩
          rcases List.mem_cons.1 hother with rfl | hother
          · have hmem := hrow ▸ List.mem_map_of_mem (f := other.get?) hc
            obtain ⟨value, _, hv⟩ := List.mem_map.1 hmem
            rw [← hv]
            rfl
          · exact hcomplete other hother column hc
    · simp [hs, bind, Except.bind, throw, throwThe, MonadExceptOf.throw] at h

/-- Staging rows succeeds only for rows that can be staged; it appends their cells, and sets the
columns and the number of the rows. -/
theorem stageInsert_eq_ok {q next : Query} {rows : List ColumnValues}
    (h : q.stageInsert rows = .ok next) :
    Stageable rows ∧ next = { q with
      insertColumns := columnsOfFirst rows
      insertRows := rows.length
      bindings := q.bindings.append .insert (cells rows) } := by
  unfold stageInsert at h
  cases rows with
  | nil => cases h
  | cons first rest =>
    cases hf : first.isEmpty with
    | true => simp [hf] at h
    | false =>
      simp only [hf, Bool.false_eq_true, if_false, bind, Except.bind, pure, Except.pure] at h
      split at h
      · cases h
      · next values hvalues =>
        cases h
        obtain ⟨rfl, hcomplete⟩ := eq_flatMap_of_alignRows hvalues
        refine ⟨⟨List.cons_ne_nil _ _, ?_, hcomplete⟩, rfl⟩
        simpa [columnsOfFirst, ColumnValues.columns, ColumnValues.isEmpty] using hf

/-- What a sequence of steps supplied to a query: the assignments in order, and the rows of each
time that rows were staged. -/
structure Supplied (q : Query) (assigned : List (String × Value))
    (inserted : List (List ColumnValues)) : Prop where
  assignments : q.assignments = assigned.map Prod.fst
  updates : q.bindings.updates = assigned.map Prod.snd
  inserts : q.bindings.inserts = inserted.flatMap cells
  columns : q.insertColumns = columnsOfFirst (inserted.getLast?.getD [])
  rows : q.insertRows = (inserted.getLast?.getD []).length
  stageable : ∀ rows ∈ inserted, Stageable rows

/-- Nothing was supplied to a fresh query. -/
theorem supplied_ofTable (table : String) : (ofTable table).Supplied [] [] where
  assignments := rfl
  updates := rfl
  inserts := rfl
  columns := rfl
  rows := rfl
  stageable := by simp

/-- A step that succeeds supplies what it stages. -/
theorem Supplied.change {q next : Query} {assigned : List (String × Value)}
    {inserted : List (List ColumnValues)} {step : Refinement} (h : q.Supplied assigned inserted)
    (c : Change q step next) :
    next.Supplied (assigned ++ step.assigned) (inserted ++ step.inserted.toList) := by
  cases c with
  | rows connector p _ ha hi =>
    rw [ha, hi, List.append_nil, Option.toList_none, List.append_nil]
    exact { h with }
  | groups connector p _ ha hi =>
    rw [ha, hi, List.append_nil, Option.toList_none, List.append_nil]
    exact { h with }
  | updates values ha hi =>
    rw [ha, hi, Option.toList_none, List.append_nil]
    exact { h with
      assignments := by rw [List.map_append, ← h.assignments]; rfl
      updates := by rw [List.map_append, ← h.updates]; rfl }
  | inserts rows next staged ha hi =>
    obtain ⟨hrows, rfl⟩ := stageInsert_eq_ok staged
    rw [ha, hi, List.append_nil, Option.toList_some]
    refine
      { assignments := h.assignments
        updates := h.updates
        inserts := ?_
        columns := by rw [List.getLast?_concat, Option.getD_some]
        rows := by rw [List.getLast?_concat, Option.getD_some]
        stageable := ?_ }
    · rw [List.flatMap_append, List.flatMap_singleton, ← h.inserts]
      rfl
    · intro other hother
      rcases List.mem_append.1 hother with hother | hother
      · exact h.stageable other hother
      · exact List.mem_singleton.1 hother ▸ hrows
  | rest next _ _ hassignments hcolumns hrows hbindings ha hi =>
    rw [ha, hi, List.append_nil, Option.toList_none, List.append_nil]
    exact
      { assignments := hassignments ▸ h.assignments
        updates := hbindings ▸ h.updates
        inserts := hbindings ▸ h.inserts
        columns := hcolumns ▸ h.columns
        rows := hrows ▸ h.rows
        stageable := h.stageable }

/-- A sequence of steps supplies what its steps stage, one after another. -/
theorem Supplied.refineEach {q : Query} {assigned : List (String × Value)}
    {inserted : List (List ColumnValues)} (h : q.Supplied assigned inserted)
    (steps : List Refinement) :
    (q.refineEach steps).Supplied (assigned ++ steps.flatMap Refinement.assigned)
      (inserted ++ steps.filterMap Refinement.inserted) := by
  induction steps generalizing q assigned inserted with
  | nil => simpa [Query.refineEach] using h
  | cons step rest ih =>
    have one : ((q.refine step).toOption.getD q).Supplied (assigned ++ step.assigned)
        (inserted ++ step.inserted.toList) := by
      cases hr : q.refine step with
      | ok next => exact h.change (change_of_refine hr)
      | error fault =>
        obtain ⟨ha, hi⟩ := unstaged_of_refine_error hr
        rw [ha, hi, List.append_nil, Option.toList_none, List.append_nil]
        exact h
    have all := ih one
    rw [List.append_assoc, List.append_assoc] at all
    rw [List.flatMap_cons, List.filterMap_cons]
    cases hi : step.inserted <;> simpa [hi, Query.refineEach] using all

end Query

/-- Rows that can be staged have as many cells as rows times columns. -/
theorem Stageable.length_cells {rows : List ColumnValues} (h : Stageable rows) :
    (cells rows).length = rows.length * (columnsOfFirst rows).length := by
  have row : ∀ r ∈ rows, ((columnsOfFirst rows).filterMap r.get?).length =
      (columnsOfFirst rows).length :=
    fun r hr => List.filterMap_length_eq_length.2 (h.complete r hr)
  rw [cells, List.length_flatMap, List.map_congr_left row, List.map_const', List.sum_replicate_nat]

end SqlMapper
