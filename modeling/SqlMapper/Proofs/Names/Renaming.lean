import Mathlib.Data.List.Find
import SqlMapper.Proofs.Names.Spelling
import SqlMapper.Proofs.Query.Histories
import SqlMapper.Proofs.Query.Rows

/-!
# Building with names in another spelling

A step of building does the same whatever the names in it are, but for one thing: staging looks up
the columns of the first row in each row. So a step with other names on a query with other names
leads to what the step leads to on the query, with other names (`Query.toOption_refine_rename`), if
names that were different stay different where they are looked up (`Refinement.KeepsApart`). It
carries over to a whole history (`Query.attemptEach_rename`). A caller may therefore quote any of
the names before handing them over, and every statement stays the same (`Dialect.wraps_once`).
-/

namespace SqlMapper

/-- Whether there is a result, and which one, is the same if it is the same at each step. -/
theorem toOption_bind_congr {ε α β : Type} {x y : Except ε α} {g h : α → Except ε β}
    (first : x.toOption = y.toOption) (then_ : ∀ a, (g a).toOption = (h a).toOption) :
    (x >>= g).toOption = (y >>= h).toOption := by
  cases x <;> cases y <;> cases first
  · rfl
  · exact then_ _

variable {f : String → String}

/-- A step of building with other names. -/
def Refinement.rename (f : String → String) : Refinement → Refinement
  | .table name => .table (if name = "" then "" else f name)
  | .select columns => .select (columns.map f)
  | .where_ connector p => .where_ connector (renamePredicate f p)
  | .whereText connector column operator value => .whereText connector (f column) operator value
  | .groupBy columns => .groupBy (columns.map f)
  | .having connector p => .having connector (renamePredicate f p)
  | .havingText connector column operator value => .havingText connector (f column) operator value
  | .orderBy column direction => .orderBy (f column) direction
  | .orderByText column direction => .orderByText (f column) direction
  | .stageUpdate values => .stageUpdate (values.rename f)
  | .stageInsert rows => .stageInsert (rows.map (ColumnValues.rename f))
  | .distinct => .distinct
  | .join kind joined left operator right => .join kind joined left operator right
  | .limit rows => .limit rows
  | .offset rows => .offset rows

/-- Different columns of the rows that a step stages have different names in the other spelling. -/
def Refinement.KeepsApart (f : String → String) (step : Refinement) : Prop :=
  ∀ rows, step.rows? = some rows → ∀ row ∈ rows, ∀ row' ∈ rows,
    ∀ a ∈ row.columns, ∀ b ∈ row'.columns, f a = f b → a = b

namespace ColumnValues

/-- The columns under their other names. -/
theorem columns_rename (f : String → String) (cv : ColumnValues) :
    (cv.rename f).columns = cv.columns.map f := by
  simp [rename, columns]

/-- The values stay as they are. -/
theorem values_rename (f : String → String) (cv : ColumnValues) :
    (cv.rename f).values = cv.values := by
  simp [rename, values]

/-- The number of columns stays as it is. -/
theorem size_rename (f : String → String) (cv : ColumnValues) : (cv.rename f).size = cv.size :=
  List.length_map _

/-- A column has the value that it had, if no other column has got its name. -/
theorem get?_rename {cv : ColumnValues} {column : String}
    (apart : ∀ name ∈ cv.columns, f name = f column → name = column) :
    (cv.rename f).get? (f column) = cv.get? column := by
  have found : ∀ entry ∈ cv.entries, (f entry.1 == f column) = (entry.1 == column) := by
    intro entry hentry
    rw [Bool.eq_iff_iff, beq_iff_eq, beq_iff_eq]
    exact ⟨apart entry.1 (List.mem_map_of_mem hentry), congrArg f⟩
  have same : cv.entries.find? ((fun entry => entry.1 == f column) ∘
      fun entry => (f entry.1, entry.2)) = cv.entries.find? fun entry => entry.1 == column :=
    List.find?_congr found
  rw [get?, get?, rename, List.find?_map, same, Option.map_map]
  rfl

end ColumnValues

/-! ## Clauses -/

/-- Clauses one after another, with other names. -/
theorem renameClauses_append (f : String → String) (cs cs' : List (Clause Query)) :
    renameClauses f (cs ++ cs') = renameClauses f cs ++ renameClauses f cs' := by
  induction cs with
  | nil => rfl
  | cons c rest ih =>
    obtain ⟨connector, p⟩ := c
    rw [List.cons_append, renameClauses, renameClauses, ih, List.cons_append]

/-- A comparison with other names. -/
theorem renamePredicate_comparison (f : String → String) (column : String) (operator : Operator)
    (value : Value) : renamePredicate f (.comparison column operator value) =
      .comparison (f column) operator value := by
  rw [Predicate.comparison, Predicate.comparison]
  split
  · rw [renamePredicate]
  · rw [renamePredicate]

/-- Null is taken care of whatever the names are. -/
theorem normalize_renamePredicate (f : String → String) (p : Predicate Query) :
    (renamePredicate f p).normalize = renamePredicate f p.normalize := by
  cases p with
  | compare column operator value =>
    rw [renamePredicate, Predicate.normalize, Predicate.normalize, renamePredicate_comparison]
  | nullCheck | among | amongSelect => simp only [renamePredicate, Predicate.normalize]

namespace Query

/-- A predicate binds the values that it bound. -/
theorem predicateValues_rename (f : String → String) (p : Predicate Query) :
    predicateValues (renamePredicate f p) = predicateValues p := by
  cases p with
  | compare | nullCheck | among =>
    rw [renamePredicate]
    rfl
  | amongSelect column child negated =>
    rw [renamePredicate, rename_eq]
    rfl

/-- A condition on rows is added with its other names. -/
theorem addWhere_rename (f : String → String) (q : Query) (connector : Connector)
    (p : Predicate Query) :
    (q.rename f).addWhere connector (renamePredicate f p) = (q.addWhere connector p).rename f := by
  simp only [addWhere, rename_eq, normalize_renamePredicate, predicateValues_rename,
    renameClauses_append, renameClauses]

/-- A condition on groups is added with its other names. -/
theorem addHaving_rename (f : String → String) (q : Query) (connector : Connector)
    (p : Predicate Query) :
    (q.rename f).addHaving connector (renamePredicate f p) =
      (q.addHaving connector p).rename f := by
  simp only [addHaving, rename_eq, normalize_renamePredicate, predicateValues_rename,
    renameClauses_append, renameClauses]

/-! ## Staging rows -/

/-- A row is aligned with columns under other names as it was with the columns. -/
theorem toOption_alignRow_rename {columns : List String} {row : ColumnValues} (index : Nat)
    (apart : ∀ a ∈ row.columns, ∀ b ∈ columns, f a = f b → a = b) :
    (alignRow (columns.map f) index (row.rename f)).toOption =
      (alignRow columns index row).toOption := by
  rw [alignRow_eq_mapM, alignRow_eq_mapM]
  induction columns with
  | nil => rfl
  | cons column rest ih =>
    have value : (row.rename f).get? (f column) = row.get? column :=
      ColumnValues.get?_rename fun name hname => apart name hname column List.mem_cons_self
    have first : (lookUp index (row.rename f) (f column)).toOption =
        (lookUp index row column).toOption := by
      rw [lookUp, lookUp, value]
      cases row.get? column <;> rfl
    have others := ih fun a ha b hb => apart a ha b (List.mem_cons_of_mem column hb)
    rw [List.map_cons, List.mapM_cons, List.mapM_cons]
    exact toOption_bind_congr first fun _ => toOption_bind_congr others fun _ => rfl

/-- Rows are aligned with columns under other names as they were with the columns. -/
theorem toOption_alignRows_rename {columns : List String} {rows : List ColumnValues} (index : Nat)
    (apart : ∀ row ∈ rows, ∀ a ∈ row.columns, ∀ b ∈ columns, f a = f b → a = b) :
    (alignRows (columns.map f) index (rows.map (ColumnValues.rename f))).toOption =
      (alignRows columns index rows).toOption := by
  induction rows generalizing index with
  | nil => rfl
  | cons row rest ih =>
    rw [List.forall_mem_cons] at apart
    rw [List.map_cons, alignRows, alignRows, ColumnValues.size_rename, List.length_map]
    split
    · rfl
    · exact toOption_bind_congr (toOption_alignRow_rename index apart.1) fun _ =>
        toOption_bind_congr (ih (index + 1) apart.2) fun _ => rfl

/-- The columns of the first row, under their other names. -/
theorem columnsOfFirst_rename (f : String → String) (rows : List ColumnValues) :
    columnsOfFirst (rows.map (ColumnValues.rename f)) = (columnsOfFirst rows).map f := by
  cases rows with
  | nil => rfl
  | cons first _ => exact first.columns_rename f

/-- Rows are staged under their other names, or are not staged as before. The faults are not the
same, since they tell the name of a column. -/
theorem toOption_stageInsert_rename (q : Query) {rows : List ColumnValues}
    (apart : (Refinement.stageInsert rows).KeepsApart f) :
    ((q.rename f).stageInsert (rows.map (ColumnValues.rename f))).toOption =
      (q.stageInsert rows).toOption.map (Query.rename f) := by
  -- the columns that are looked up are those of a staged row, so they are kept apart as well
  have first : ∀ b ∈ columnsOfFirst rows, ∃ row' ∈ rows, b ∈ row'.columns := by
    cases rows with
    | nil => simp [columnsOfFirst]
    | cons row _ => exact fun b hb => ⟨row, List.mem_cons_self, hb⟩
  have aligned : (alignRows ((columnsOfFirst rows).map f) 0
      (rows.map (ColumnValues.rename f))).toOption =
        (alignRows (columnsOfFirst rows) 0 rows).toOption := by
    refine toOption_alignRows_rename 0 fun row hrow a ha b hb => ?_
    obtain ⟨row', hrow', hb'⟩ := first b hb
    exact apart rows rfl row hrow row' hrow' a ha b hb'
  rw [stageInsert_eq, stageInsert_eq, columnsOfFirst_rename]
  simp only [List.map_eq_nil_iff, List.length_map]
  split
  · rfl
  · generalize alignRows ((columnsOfFirst rows).map f) 0 (rows.map (ColumnValues.rename f)) = x at *
    generalize alignRows (columnsOfFirst rows) 0 rows = y at *
    cases x <;> cases y <;> cases aligned
    · rfl
    · exact congrArg some (by simp only [rename_eq])

/-! ## Steps and histories -/

/-- A step that reads a caller's text first succeeds with other names if it succeeded. -/
theorem toOption_read_rename {α : Type} (read : Except QueryFault α) {g h : α → Query}
    (same : ∀ a, g a = (h a).rename f) :
    (read >>= fun a => pure (g a)).toOption =
      (read >>= fun a => pure (h a)).toOption.map (Query.rename f) := by
  cases read with
  | error fault => rfl
  | ok a => exact congrArg some (same a)

/-- **A step does the same on other names.** It leads to the query it led to, with other names, and
it fails if it failed. -/
theorem toOption_refine_rename (q : Query) {step : Refinement} (apart : step.KeepsApart f) :
    ((q.rename f).refine (step.rename f)).toOption =
      (q.refine step).toOption.map (Query.rename f) := by
  cases step with
  | where_ connector p => exact congrArg some (q.addWhere_rename f connector p)
  | having connector p => exact congrArg some (q.addHaving_rename f connector p)
  | whereText connector column operator value =>
    refine toOption_read_rename (Operator.ofText operator) fun op => ?_
    rw [← addWhere_rename, renamePredicate_comparison]
  | havingText connector column operator value =>
    refine toOption_read_rename (Operator.ofText operator) fun op => ?_
    rw [← addHaving_rename, renamePredicate_comparison]
  | orderByText column direction =>
    refine toOption_read_rename (Direction.ofText direction) fun direction => ?_
    simp only [rename_eq, List.map_append, List.map_cons, List.map_nil]
  | join kind joined left operator right =>
    refine toOption_read_rename (Operator.ofText operator) fun op => ?_
    simp only [rename_eq]
  | stageInsert rows => exact q.toOption_stageInsert_rename apart
  | table | select | distinct | groupBy | orderBy | limit | offset | stageUpdate =>
    simp only [Refinement.rename, refine, rename_eq, stageUpdate, Except.toOption, Option.map_some,
      List.map_append, List.map_cons, List.map_nil, ColumnValues.columns_rename,
      ColumnValues.values_rename]

/-- Steps that are taken together do the same on other names. -/
theorem toOption_refineAll_rename (q : Query) {steps : List Refinement}
    (apart : ∀ step ∈ steps, step.KeepsApart f) :
    ((q.rename f).refineAll (steps.map (Refinement.rename f))).toOption =
      (q.refineAll steps).toOption.map (Query.rename f) := by
  induction steps generalizing q with
  | nil => rfl
  | cons step rest ih =>
    rw [List.forall_mem_cons] at apart
    have one := q.toOption_refine_rename apart.1
    rw [refineAll, refineAll, List.map_cons, List.foldlM_cons, List.foldlM_cons]
    generalize (q.rename f).refine (step.rename f) = x at one ⊢
    cases hy : q.refine step with
    | error fault =>
      rw [hy] at one
      cases x <;> cases one
      rfl
    | ok next =>
      rw [hy] at one
      cases x <;> cases one
      exact ih next apart.2

/-- A query that is built with other names is the query with other names. -/
theorem attemptEach_rename (q : Query) {groups : List (List Refinement)}
    (apart : ∀ steps ∈ groups, ∀ step ∈ steps, step.KeepsApart f) :
    (q.rename f).attemptEach (groups.map fun steps => steps.map (Refinement.rename f)) =
      (q.attemptEach groups).rename f := by
  induction groups generalizing q with
  | nil => rfl
  | cons steps rest ih =>
    rw [List.forall_mem_cons] at apart
    have one : (q.rename f).attempt (steps.map (Refinement.rename f)) =
        (q.attempt steps).rename f := by
      rw [attempt, attempt, q.toOption_refineAll_rename apart.1]
      cases (q.refineAll steps).toOption <;> rfl
    rw [List.map_cons, attemptEach, attemptEach, List.foldl_cons, List.foldl_cons, one]
    exact ih (q.attempt steps) apart.2

end Query

/-- **Names are quoted once.** A name as it stands in a statement stays as it is, whatever character
other than the point is the quote character. So a caller may quote any of the names that a query is
built with, those in sub-selects included, before handing them over: as long as different columns of
staged rows stay different, every statement of the query is the same as without. -/
theorem Dialect.wraps_once (d : Dialect) (hquote : d.quote ≠ '.') :
    (∀ name, d.wrap (d.wrap name) = d.wrap name) ∧
      ∀ f : String → String, (∀ name, f name = name ∨ f name = d.wrap name) →
        ∀ (table : String) (groups : List (List Refinement)),
          (∀ steps ∈ groups, ∀ step ∈ steps, step.KeepsApart f) →
          ∀ kind, d.compile kind
              ((Query.ofTable (if table = "" then "" else f table)).attemptEach
                (groups.map fun steps => steps.map (Refinement.rename f))) =
            d.compile kind ((Query.ofTable table).attemptEach groups) := by
  refine ⟨wrap_wrap hquote, fun f spelling table groups apart kind => ?_⟩
  have fresh : Query.ofTable (if table = "" then "" else f table) =
      (Query.ofTable table).rename f := by
    rw [Query.rename_eq]
    rfl
  rw [fresh, Query.attemptEach_rename (Query.ofTable table) apart]
  exact (Respells.of_wrap hquote spelling).compile _ kind

/-- A dialect whose quote character has two bytes. -/
def Dialect.guillemets : Dialect := { name := "guillemets", quote := '«' }

/-- A row is inserted and a shelf is searched. -/
def shelfSteps : List (List Refinement) :=
  [[.stageInsert [.ofList [("title", .text "Emma"), ("shelf", .int 4)]]],
    [.whereText .and "shelf" "=" (.int 4)]]

/-- Names that are quoted with a character of two bytes are not quoted again. -/
theorem Dialect.wraps_once_guillemets :
    let f := Dialect.guillemets.wrap
    (f "books.title" = "«books«.«title«" ∧ f (f "books.title") = f "books.title") ∧
      (∀ steps ∈ shelfSteps, ∀ step ∈ steps, step.KeepsApart f) ∧
      ∀ kind, Dialect.guillemets.compile kind ((Query.ofTable "«books«").attemptEach
          [[.stageInsert [.ofList [("«title«", .text "Emma"), ("«shelf«", .int 4)]]],
            [.whereText .and "«shelf«" "=" (.int 4)]]) =
        Dialect.guillemets.compile kind ((Query.ofTable "books").attemptEach shelfSteps) := by
  intro f
  have hquote : Dialect.guillemets.quote ≠ '.' := by decide
  have apart : ∀ steps ∈ shelfSteps, ∀ step ∈ steps, step.KeepsApart f := by
    have different : f "title" ≠ f "shelf" := by decide
    have columns : (ColumnValues.ofList [("title", .text "Emma"), ("shelf", .int 4)]).columns =
        ["title", "shelf"] := rfl
    simp [shelfSteps, Refinement.KeepsApart, Refinement.rows?, columns, different, different.symm]
  have once := Dialect.guillemets.wraps_once hquote
  exact ⟨⟨by decide, once.1 _⟩, apart, once.2 f (fun _ => .inr rfl) "books" shelfSteps apart⟩

end SqlMapper
