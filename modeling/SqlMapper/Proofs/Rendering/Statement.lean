import SqlMapper.Dialect.Statement
import SqlMapper.Proofs.Rendering.Bindings

/-!
# Placeholders and bindings

A statement is rendered from the query and from what the steps that built it supplied: an update
shows each assigned column with the value it was staged with, an insert shows each row that was
staged with the value the row has for each column. The main statement is
`Query.Reached.paired_compile`: whenever a query reached by building compiles, the text is its
rendering with placeholders for the values, and the values that are bound are those of the
rendering, from left to right. For inserts this needs that compiling counts the cells: they fill the
placeholders only if rows were staged exactly once (`eq_singleton_of_length_flatMap_cells`).
Listeners make the same steps, so what they add to a query, and what they ask for in its stead, is
reached too (`Query.Reached.refineEach`, and `reached_dispatch` for all listeners of a moment).
-/

namespace SqlMapper

namespace Query

/-- A query that a sequence of steps leads to from a fresh one. A step that fails changes nothing,
and the sub-selects that steps bring in are built themselves. -/
structure Reached (q : Query) (steps : List Refinement) : Prop where
  eq : ∃ table, q = (ofTable table).refineEach steps
  children : ∀ step ∈ steps, ∀ child, Refinement.child? step = some child → Built child

end Query

namespace Rendering

/-- An assignment of an update with the value that was staged for it. -/
def ofAssignment (d : Dialect) (entry : String × Value) : Rendering :=
  [.literal (d.wrap entry.1 ++ " = "), .bound entry.2]

/-- The cell of a row in a column. -/
def ofCell (row : ColumnValues) (column : String) : Rendering :=
  (row.get? column).toList.map .bound

/-- A row of an insert, its cells in the order of the columns. -/
def ofRow (columns : List String) (row : ColumnValues) : Rendering :=
  .literal "(" :: (join ", " (columns.map (ofCell row)) ++ [.literal ")"])

/-- The conditions on rows at the end of a statement, if there are any. -/
def ofWhereTail (d : Dialect) (q : Query) : Rendering :=
  if q.wheres.isEmpty then [] else .literal " WHERE " :: ofClauses d q.wheres

/-- A statement, given the assignments and the rows that were staged for it. -/
def ofStatement (d : Dialect) (q : Query) (assigned : List (String × Value))
    (rows : List ColumnValues) : StatementKind → Rendering
  | .select => ofSelect d q
  | .existence => .literal "SELECT EXISTS(" :: (ofSelect d q ++ [.literal (") AS " ++ d.wrap "exists")])
  | .insert | .insertMany =>
    .literal ("INSERT INTO " ++ d.wrap q.table ++ " (" ++ d.wrapAll q.insertColumns ++ ") VALUES ") ::
      join ", " (rows.map (ofRow q.insertColumns))
  | .update =>
    .literal ("UPDATE " ++ d.wrap q.table ++ " SET ") ::
      (join ", " (assigned.map (ofAssignment d)) ++ ofWhereTail d q)
  | .delete => .literal ("DELETE FROM " ++ d.wrap q.table) :: ofWhereTail d q

/-- A statement of a query that was built by a sequence of steps. -/
def ofSteps (d : Dialect) (q : Query) (steps : List Refinement) : StatementKind → Rendering :=
  ofStatement d q (steps.flatMap Refinement.assigned)
    ((steps.filterMap Refinement.inserted).getLast?.getD [])

variable (d : Dialect)

/-- The conditions at the end filled with placeholders are those of the dialect. -/
theorem text_ofWhereTail (q : Query) : (ofWhereTail d q).text d.placeholder = d.whereTail q := by
  rw [ofWhereTail, Dialect.whereTail, Dialect.part, Dialect.partText, Dialect.headed]
  cases h : q.wheres.isEmpty with
  | true => rfl
  | false =>
    have shown : ("WHERE " ++ d.clauses q.wheres == "") = false := by
      simp [String.append_eq_empty_iff]
    simp only [Bool.false_eq_true, if_false, text_literal, text_ofClauses, shown]
    rw [← String.append_assoc]
    rfl

/-- The conditions at the end show the values of the conditions on rows. -/
theorem values_ofWhereTail (q : Query) :
    (ofWhereTail d q).values = (ofClauses d q.wheres).values := by
  rw [ofWhereTail]
  cases h : q.wheres <;> simp [ofClauses]

/-- Assignments filled with placeholders are those of the dialect. -/
theorem text_assignments (assigned : List (String × Value)) :
    (join ", " (assigned.map (ofAssignment d))).text d.placeholder =
      ", ".intercalate ((assigned.map Prod.fst).map d.assignmentText) := by
  rw [text_join, List.map_map, List.map_map]
  congr 1
  exact List.map_congr_left fun entry _ => by simp [ofAssignment, Dialect.assignmentText]

/-- Assignments show the values that were staged. -/
theorem values_assignments (assigned : List (String × Value)) :
    (join ", " (assigned.map (ofAssignment d))).values = assigned.map Prod.snd := by
  rw [values_join, List.flatMap_map]
  induction assigned with
  | nil => rfl
  | cons entry rest ih => rw [List.flatMap_cons, ih]; rfl

/-- A row with a value for every column has one placeholder for each. -/
theorem text_ofRow {columns : List String} {row : ColumnValues}
    (h : ∀ column ∈ columns, (row.get? column).isSome) :
    (ofRow columns row).text d.placeholder = "(" ++ d.placeholders columns.length ++ ")" := by
  have cell : columns.map (fun column => text d.placeholder (ofCell row column)) =
      List.replicate columns.length d.placeholder := by
    rw [← List.map_const']
    refine List.map_congr_left fun column hc => ?_
    obtain ⟨value, hv⟩ := Option.isSome_iff_exists.1 (h column hc)
    simp [ofCell, hv]
  rw [ofRow, text_literal, text_append, text_join, List.map_map, text_literal_nil,
    Dialect.placeholders, ← cell, String.append_assoc]
  rfl

/-- A row shows the values it has for the columns. -/
theorem values_ofRow (columns : List String) (row : ColumnValues) :
    (ofRow columns row).values = columns.filterMap row.get? := by
  rw [ofRow, values_literal, values_append, values_join, values_literal, values_nil, List.append_nil,
    List.flatMap_map]
  induction columns with
  | nil => rfl
  | cons column rest ih =>
    rw [List.flatMap_cons, ih, List.filterMap_cons]
    cases h : row.get? column <;> simp [ofCell, h]

end Rendering

/-- If the cells of the rows staged last are as many as those of all rows that were staged, then
rows were staged once. -/
theorem eq_singleton_of_length_flatMap_cells {inserted : List (List ColumnValues)}
    {rows : List ColumnValues} (hlast : inserted.getLast? = some rows)
    (hstageable : ∀ rs ∈ inserted, Stageable rs)
    (hlength : (inserted.flatMap cells).length = (cells rows).length) : inserted = [rows] := by
  obtain ⟨before, rfl⟩ := List.getLast?_eq_some_iff.1 hlast
  rw [List.flatMap_append, List.flatMap_singleton, List.length_append] at hlength
  have none_before : before.flatMap cells = [] := List.length_eq_zero_iff.1 (by omega)
  cases before with
  | nil => rfl
  | cons first rest =>
    have hfirst := hstageable first List.mem_cons_self
    have hcells : cells first = [] :=
      List.flatMap_eq_nil_iff.1 none_before first List.mem_cons_self
    have hcount := hfirst.length_cells
    rw [hcells, List.length_nil, eq_comm, Nat.mul_eq_zero] at hcount
    rcases hcount with hrows | hcolumns
    · exact absurd (List.length_eq_zero_iff.1 hrows) hfirst.nonempty
    · exact absurd (List.length_eq_zero_iff.1 hcolumns) hfirst.columns

namespace Query

/-- Further steps lead on. -/
theorem Reached.refineEach {q : Query} {steps : List Refinement} (h : q.Reached steps)
    (further : List Refinement)
    (children : ∀ step ∈ further, ∀ child, Refinement.child? step = some child → Built child) :
    (q.refineEach further).Reached (steps ++ further) where
  eq := by
    obtain ⟨table, rfl⟩ := h.eq
    exact ⟨table, by simp [Query.refineEach]⟩
  children := by
    intro step hstep
    rcases List.mem_append.1 hstep with hstep | hstep
    · exact h.children step hstep
    · exact children step hstep

/-- The steps that lead to a query supply what it holds for writing. -/
theorem Reached.supplied {q : Query} {steps : List Refinement} (h : q.Reached steps) :
    q.Supplied (steps.flatMap Refinement.assigned) (steps.filterMap Refinement.inserted) := by
  obtain ⟨table, rfl⟩ := h.eq
  exact (supplied_ofTable table).refineEach steps

/-- A query that steps lead to is built. -/
theorem Reached.built {q : Query} {steps : List Refinement} (h : q.Reached steps) : Built q := by
  obtain ⟨table, rfl⟩ := h.eq
  exact (Built.fresh table).refineEach steps h.children

/-- An insert that compiles inserts the rows of the one time that rows were staged. -/
theorem Reached.inserted_of_insert {q : Query} {steps : List Refinement} (h : q.Reached steps)
    {d : Dialect} {sql : String} (hsql : d.insert q = .ok sql) :
    ∃ rows, steps.filterMap Refinement.inserted = [rows] ∧ Stageable rows ∧
      sql = "INSERT INTO " ++ d.wrap q.table ++ " (" ++ d.wrapAll q.insertColumns ++ ") VALUES " ++
        ", ".intercalate (List.replicate q.insertRows (d.rowTuple q)) := by
  have hs := h.supplied
  unfold Dialect.insert at hsql
  dsimp only at hsql
  split at hsql
  · cases hsql
  next hsome =>
    split at hsql
    · cases hsql
    next hcount =>
      cases hsql
      obtain ⟨rows, hlast⟩ :
          ∃ rows, (steps.filterMap Refinement.inserted).getLast? = some rows := by
        cases hl : (steps.filterMap Refinement.inserted).getLast? with
        | some rows => exact ⟨rows, rfl⟩
        | none =>
          have hcolumns := hs.columns
          rw [hl] at hcolumns
          simp [hcolumns, columnsOfFirst] at hsome
      have hrows : Stageable rows := hs.stageable rows (List.mem_of_getLast? hlast)
      refine ⟨rows, ?_, hrows, rfl⟩
      refine eq_singleton_of_length_flatMap_cells hlast hs.stageable ?_
      have hbound : q.bindingsFor .insert =
          (steps.filterMap Refinement.inserted).flatMap cells := by
        rw [← hs.inserts]
        exact List.append_nil _
      rw [← hbound, hrows.length_cells, Decidable.not_not.1 hcount, hs.columns, hs.rows, hlast,
        Option.getD_some, Nat.mul_comm]

/-- An insert that compiles shows the cells of the staged rows, and these are bound. -/
theorem Reached.paired_insert {q : Query} {steps : List Refinement} (h : q.Reached steps)
    {d : Dialect} {sql : String} (hsql : d.insert q = .ok sql) :
    (Rendering.ofSteps d q steps .insert).text d.placeholder = sql ∧
      (Rendering.ofSteps d q steps .insert).values = q.bindingsFor .insert := by
  obtain ⟨rows, hinserted, hrows, rfl⟩ := h.inserted_of_insert hsql
  have hs := h.supplied
  rw [hinserted] at hs
  have hcolumns : q.insertColumns = columnsOfFirst rows := hs.columns
  have hcount : q.insertRows = rows.length := hs.rows
  have hbound : q.bindingsFor .insert = cells rows := by
    simp [bindingsFor, Bindings.forStatement, StatementKind.sections, Bindings.valuesOf, hs.inserts]
  rw [Rendering.ofSteps, hinserted, List.getLast?_singleton, Option.getD_some, Rendering.ofStatement,
    Rendering.text_literal, Rendering.values_literal, Rendering.text_join, Rendering.values_join]
  constructor
  · have row : rows.map (fun r => (Rendering.ofRow q.insertColumns r).text d.placeholder) =
        List.replicate q.insertRows (d.rowTuple q) := by
      rw [hcount, ← List.map_const']
      refine List.map_congr_left fun r hr => ?_
      exact Rendering.text_ofRow d (hcolumns ▸ hrows.complete r hr)
    rw [List.map_map, ← row]
    rfl
  · rw [hbound, cells, List.flatMap_map, hcolumns]
    simp only [Rendering.values_ofRow]

/-- An update that compiles shows the staged values and those of the conditions, and these are
bound. -/
theorem Reached.paired_update {q : Query} {steps : List Refinement} (h : q.Reached steps)
    {d : Dialect} {sql : String} (hsql : d.update q = .ok sql) :
    (Rendering.ofSteps d q steps .update).text d.placeholder = sql ∧
      (Rendering.ofSteps d q steps .update).values = q.bindingsFor .update := by
  have hs := h.supplied
  rw [Rendering.ofSteps, Rendering.ofStatement, Rendering.text_literal, Rendering.values_literal,
    Rendering.text_append, Rendering.values_append, Rendering.text_assignments,
    Rendering.values_assignments, Rendering.text_ofWhereTail, Rendering.values_ofWhereTail,
    h.built.paired.rows, ← hs.assignments, ← hs.updates]
  constructor
  · rw [Dialect.update] at hsql
    split at hsql
    · cases hsql
    · cases hsql
      simp only [String.append_assoc]
  · simp [bindingsFor, Bindings.forStatement, StatementKind.sections, Bindings.valuesOf]

/-- **Placeholders and bindings pair up.** Whenever a query that steps of building lead to compiles,
the statement is the text of its rendering with placeholders for the values, and what is bound are
the values of the rendering from left to right: those of the conditions and of their sub-selects,
the values staged for the assigned columns, the cells of the staged rows, each where it stands. -/
theorem Reached.paired_compile {q : Query} {steps : List Refinement} (h : q.Reached steps)
    (d : Dialect) (kind : StatementKind) {sql : String} (hsql : d.compile kind q = .ok sql) :
    (Rendering.ofSteps d q steps kind).text d.placeholder = sql ∧
      (Rendering.ofSteps d q steps kind).values = q.bindingsFor kind := by
  have hp := h.built.paired
  have htext : d.text q kind = .ok sql := by
    rw [Dialect.compile] at hsql
    split at hsql
    · cases hsql
    · exact hsql
  cases kind with
  | select =>
    cases htext
    exact ⟨Rendering.text_ofSelect d q, hp.values_ofSelect d⟩
  | existence =>
    cases htext
    rw [Rendering.ofSteps, Rendering.ofStatement, Rendering.text_literal, Rendering.values_literal,
      Rendering.text_append, Rendering.values_append, Rendering.text_ofSelect, hp.values_ofSelect d]
    constructor
    · rw [Rendering.text_literal_nil]
      unfold Dialect.existence
      simp only [String.append_assoc]
    · exact List.append_nil _
  | insert => exact h.paired_insert htext
  | insertMany => exact h.paired_insert htext
  | update => exact h.paired_update htext
  | delete =>
    cases htext
    rw [Rendering.ofSteps, Rendering.ofStatement, Rendering.text_literal, Rendering.values_literal,
      Rendering.text_ofWhereTail, Rendering.values_ofWhereTail, hp.rows]
    constructor
    · rfl
    · exact (List.append_nil _).symm

/-- The steps of a sub-select with conditions on rows and on groups. -/
def groupedSteps : List Refinement :=
  [.select ["owner"], .whereText .and "kind" "=" (.text "a"), .groupBy ["owner"],
    .having .and (.compare "total" .gt (.int 2))]

/-- The steps of an update: one of them fails, one compares with null, one has no values, and one
has a sub-select. -/
def nestedSteps : List Refinement :=
  [.whereText .and "id" "no operator" (.int 0), .where_ .and (.compare "gone" .ne .null),
    .where_ .or (.amongSelect "id" ((ofTable "notes").refineEach groupedSteps) false),
    .where_ .and (.among "state" [] true), .where_ .and (.compare "age" .lt (.int 9)),
    .stageUpdate ⟨[("name", .text "x"), ("age", .null)]⟩]

/-- These steps lead to a query. -/
theorem reached_nestedSteps : ((ofTable "users").refineEach nestedSteps).Reached nestedSteps where
  eq := ⟨"users", rfl⟩
  children := by
    have grouped : Built ((ofTable "notes").refineEach groupedSteps) :=
      (Built.fresh "notes").refineEach groupedSteps (by simp [groupedSteps, Refinement.child?])
    intro step hstep child hchild
    simp only [nestedSteps, List.mem_cons, List.not_mem_nil, or_false] at hstep
    rcases hstep with rfl | rfl | rfl | rfl | rfl | rfl <;> cases hchild
    exact grouped

/-- The update of these steps binds what it assigns before what its sub-select compares with. -/
theorem paired_nestedSteps :
    let q := (ofTable "users").refineEach nestedSteps
    (Rendering.ofSteps .mysql q nestedSteps .update).text "?" =
        "UPDATE `users` SET `name` = ?, `age` = ? WHERE `gone` IS NOT NULL OR `id` IN " ++
          "(SELECT `owner` FROM `notes` WHERE `kind` = ? GROUP BY `owner` HAVING `total` > ?) " ++
          "AND 1 = 1 AND `age` < ?" ∧
      (Rendering.ofSteps .mysql q nestedSteps .update).values = q.bindingsFor .update := by
  have compiled : Dialect.mysql.compile .update ((ofTable "users").refineEach nestedSteps) =
      .ok ("UPDATE `users` SET `name` = ?, `age` = ? WHERE `gone` IS NOT NULL OR `id` IN " ++
        "(SELECT `owner` FROM `notes` WHERE `kind` = ? GROUP BY `owner` HAVING `total` > ?) " ++
        "AND 1 = 1 AND `age` < ?") := by
    set_option maxRecDepth 2000 in rfl
  exact reached_nestedSteps.paired_compile .mysql .update compiled

end Query

end SqlMapper
