import SqlMapper.Statement.Refinement

/-!
# What a step of building changes

Of the fifteen steps of building, two groups add a condition, two stage values to be written, and
all others leave the conditions, the staged values and the bindings of a query as they are.
`Query.Change` says this once, with `Query.change_of_refine` for every step that succeeds, so that
what is preserved by building is proved by five cases. Staging rows is spelled out by
`Query.stageInsert_eq_ok`: the rows have a first one that is not empty, and each row has a value for
every column of the first.
-/

namespace SqlMapper

/-- The sub-select of a predicate. -/
def Predicate.child? {σ : Type} : Predicate σ → Option σ
  | .amongSelect _ select _ => some select
  | _ => none

/-- Normalizing keeps the sub-select of a predicate. -/
@[simp] theorem Predicate.child?_normalize {σ : Type} (p : Predicate σ) :
    p.normalize.child? = p.child? := by
  cases p with
  | compare column operator value =>
    by_cases h : value.isNull = true <;> simp [normalize, comparison, child?, h]
  | _ => rfl

/-- A comparison has no sub-select. -/
@[simp] theorem Predicate.child?_comparison {σ : Type} (column : String) (operator : Operator)
    (value : Value) : (Predicate.comparison column operator value : Predicate σ).child? = none := by
  by_cases h : value.isNull = true <;> simp [comparison, child?, h]

namespace Refinement

/-- The columns with their values that a step stages for an update. -/
def assigned : Refinement → List (String × Value)
  | .stageUpdate values => values.entries
  | _ => []

/-- The rows that a step stages for an insert, if it is such a step and succeeds. Whether it does
depends on the rows alone. -/
def inserted : Refinement → Option (List ColumnValues)
  | .stageInsert rows =>
    match ({} : Query).stageInsert rows with
    | .ok _ => some rows
    | .error _ => none
  | _ => none

end Refinement

namespace Query

/-- The sub-select of a step that adds a condition on rows is that of the condition. -/
@[simp] theorem Refinement.child?_where (connector : Connector) (p : Predicate Query) :
    Refinement.child? (.where_ connector p) = p.child? := by
  cases p <;> rfl

/-- The sub-select of a step that adds a condition on groups is that of the condition. -/
@[simp] theorem Refinement.child?_having (connector : Connector) (p : Predicate Query) :
    Refinement.child? (.having connector p) = p.child? := by
  cases p <;> rfl

/-- What a step does to the conditions, the staged values and the bindings of a query. -/
inductive Change (q : Query) (step : Refinement) : Query → Prop where
  /-- A condition on rows is added. Its sub-select is that of the step. -/
  | rows (connector : Connector) (p : Predicate Query)
    (child : ∀ select, p.child? = some select → Refinement.child? step = some select)
    (assigned : step.assigned = []) (inserted : step.inserted = none) :
    Change q step (q.addWhere connector p)
  /-- A condition on groups is added. Its sub-select is that of the step. -/
  | groups (connector : Connector) (p : Predicate Query)
    (child : ∀ select, p.child? = some select → Refinement.child? step = some select)
    (assigned : step.assigned = []) (inserted : step.inserted = none) :
    Change q step (q.addHaving connector p)
  /-- Assignments are staged. -/
  | updates (values : ColumnValues) (assigned : step.assigned = values.entries)
    (inserted : step.inserted = none) : Change q step (q.stageUpdate values)
  /-- Rows are staged. -/
  | inserts (rows : List ColumnValues) (next : Query) (staged : q.stageInsert rows = .ok next)
    (assigned : step.assigned = []) (inserted : step.inserted = some rows) : Change q step next
  /-- Something else of the query is changed. -/
  | rest (next : Query) (wheres : next.wheres = q.wheres) (havings : next.havings = q.havings)
    (assignments : next.assignments = q.assignments)
    (insertColumns : next.insertColumns = q.insertColumns)
    (insertRows : next.insertRows = q.insertRows) (bindings : next.bindings = q.bindings)
    (assigned : step.assigned = []) (inserted : step.inserted = none) : Change q step next

/-- Whether rows can be staged does not depend on the query they are staged on. -/
theorem exists_stageInsert {q next : Query} {rows : List ColumnValues}
    (h : q.stageInsert rows = .ok next) (other : Query) :
    ∃ next, other.stageInsert rows = .ok next := by
  unfold stageInsert at h ⊢
  cases rows with
  | nil => cases h
  | cons first rest =>
    cases hf : first.isEmpty with
    | true => simp [hf] at h
    | false =>
      cases ha : alignRows first.columns 0 (first :: rest) with
      | ok values => exact ⟨_, by simp [hf, ha, bind, Except.bind, pure, Except.pure]; rfl⟩
      | error fault => simp [hf, ha, bind, Except.bind] at h

/-- Rows that are staged are the rows of the step. -/
theorem inserted_of_stageInsert {q next : Query} {rows : List ColumnValues}
    (h : q.stageInsert rows = .ok next) : (Refinement.stageInsert rows).inserted = some rows := by
  obtain ⟨fresh, hfresh⟩ := exists_stageInsert h {}
  rw [Refinement.inserted, hfresh]

/-- Rows that cannot be staged are not among those the step stages. -/
theorem inserted_of_stageInsert_error {q : Query} {rows : List ColumnValues} {fault : QueryFault}
    (h : q.stageInsert rows = .error fault) : (Refinement.stageInsert rows).inserted = none := by
  cases hfresh : ({} : Query).stageInsert rows with
  | ok next =>
    obtain ⟨other, hother⟩ := exists_stageInsert hfresh q
    rw [h] at hother
    cases hother
  | error _ => rw [Refinement.inserted, hfresh]

/-- A result that went through an operator or a direction given as text. -/
theorem ok_of_bind {α β : Type} {x : Except QueryFault α} {f : α → Except QueryFault β}
    {b : β} (h : (x >>= f) = .ok b) : ∃ a, f a = .ok b := by
  cases x with
  | ok a => exact ⟨a, h⟩
  | error fault => cases h

/-- Every step that succeeds changes a query in one of the five ways. -/
theorem change_of_refine {q next : Query} {step : Refinement} (h : q.refine step = .ok next) :
    Change q step next := by
  cases step with
  | where_ connector p =>
    cases h
    exact .rows connector p (fun select hs => (Refinement.child?_where connector p).trans hs) rfl rfl
  | having connector p =>
    cases h
    exact .groups connector p (fun select hs => (Refinement.child?_having connector p).trans hs) rfl
      rfl
  | whereText connector column operator value =>
    obtain ⟨op, hop⟩ := ok_of_bind h
    cases hop
    exact .rows connector _ (fun select hs => by simp at hs) rfl rfl
  | havingText connector column operator value =>
    obtain ⟨op, hop⟩ := ok_of_bind h
    cases hop
    exact .groups connector _ (fun select hs => by simp at hs) rfl rfl
  | stageUpdate values =>
    cases h
    exact .updates values rfl rfl
  | stageInsert rows => exact .inserts rows next h rfl (inserted_of_stageInsert h)
  | join kind table left operator right =>
    obtain ⟨op, hop⟩ := ok_of_bind h
    cases hop
    exact .rest _ rfl rfl rfl rfl rfl rfl rfl rfl
  | orderByText column direction =>
    obtain ⟨dir, hdir⟩ := ok_of_bind h
    cases hdir
    exact .rest _ rfl rfl rfl rfl rfl rfl rfl rfl
  | _ =>
    cases h
    exact .rest _ rfl rfl rfl rfl rfl rfl rfl rfl

/-- A step that fails stages nothing. -/
theorem unstaged_of_refine_error {q : Query} {step : Refinement} {fault : QueryFault}
    (h : q.refine step = .error fault) : step.assigned = [] ∧ step.inserted = none := by
  cases step with
  | stageUpdate values => cases h
  | stageInsert rows => exact ⟨rfl, inserted_of_stageInsert_error h⟩
  | _ => exact ⟨rfl, rfl⟩

end Query

end SqlMapper
