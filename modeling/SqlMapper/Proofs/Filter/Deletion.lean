import SqlMapper.Entity.FieldModel
import SqlMapper.Proofs.Query.Staging
import SqlMapper.Proofs.Run.Calling

/-!
# What a delete sends

A model that marks rows in place of deleting them never removes any. A delete calls the caller's
listeners first, then those of the scopes, and then the listener that marks rows, which calls the
delete off and asks for an update of the rows that are left by then. So what is sent is one update
whose clauses are those of the caller, of its listeners and of the scopes, in this order
(`Selection.sends_delete`). The caller's listeners are arbitrary computations here, of which is only
asked that they filter (`Filters`): they may add clauses and they may fail.
-/

namespace SqlMapper

/-! ## Queries that only filter -/

namespace Query

/-- A query with further clauses on rows. -/
def withClauses (q : Query) (clauses : List (Clause Query)) : Query :=
  clauses.foldl (fun q c => q.addWhere c.connector c.predicate) q

/-- Every value of the conditions on rows is bound, in order, and every assignment has a value. -/
structure Bound (q : Query) : Prop where
  wheres : q.bindings.wheres = q.wheres.flatMap fun c => predicateValues c.predicate
  updates : q.bindings.updates.length = q.assignments.length

/-- A further condition on rows is bound after the others. -/
theorem Bound.addWhere {q : Query} (h : q.Bound) (connector : Connector) (p : Predicate Query) :
    (q.addWhere connector p).Bound where
  wheres := by
    show q.bindings.wheres ++ predicateValues p.normalize = _
    rw [h.wheres, Query.addWhere, List.flatMap_append, List.flatMap_singleton]
  updates := h.updates

/-- Every query that can be built is bound. -/
theorem Built.bound {q : Query} (h : Built q) : q.Bound := by
  induction h with
  | fresh table => exact ⟨rfl, rfl⟩
  | @step q next step _ _ refined ih _ =>
    cases change_of_refine refined with
    | rows connector p => exact ih.addWhere connector p
    | groups connector p => exact ⟨ih.wheres, ih.updates⟩
    | updates values =>
      refine ⟨ih.wheres, ?_⟩
      show (q.bindings.updates ++ values.values).length = (q.assignments ++ values.columns).length
      rw [List.length_append, List.length_append, ih.updates, ColumnValues.values,
        ColumnValues.columns, List.length_map, List.length_map]
    | inserts rows next staged =>
      obtain ⟨-, rfl⟩ := stageInsert_eq_ok staged
      exact ⟨ih.wheres, ih.updates⟩
    | rest next hwheres _ hassignments _ _ hbindings =>
      exact ⟨by rw [hwheres, hbindings, ih.wheres], by rw [hassignments, hbindings, ih.updates]⟩

/-- A query that chooses rows of a table and stages nothing to be assigned. -/
structure Filters (table : String) (q : Query) : Prop where
  bound : q.Bound
  table : q.table = table
  unassigned : q.assignments = []

/-- Further clauses on rows filter further. -/
theorem Filters.withClauses {table : String} {q : Query} (h : q.Filters table)
    (clauses : List (Clause Query)) : (q.withClauses clauses).Filters table := by
  induction clauses generalizing q with
  | nil => exact h
  | cons c rest ih =>
    exact ih ⟨h.bound.addWhere c.connector c.predicate, h.table, h.unassigned⟩

/-- Further clauses stand after the others. -/
theorem wheres_withClauses (q : Query) (clauses : List (Clause Query)) :
    (q.withClauses clauses).wheres =
      q.wheres ++ clauses.map fun c => ⟨c.connector, c.predicate.normalize⟩ := by
  induction clauses generalizing q with
  | nil => exact (List.append_nil _).symm
  | cons c rest ih =>
    have step : q.withClauses (c :: rest) =
        (q.addWhere c.connector c.predicate).withClauses rest := rfl
    rw [step, ih, addWhere, List.append_assoc, List.map_cons, List.singleton_append]

/-- Assignments can be staged before clauses are added. -/
theorem stageUpdate_withClauses (q : Query) (clauses : List (Clause Query))
    (values : ColumnValues) :
    (q.stageUpdate values).withClauses clauses = (q.withClauses clauses).stageUpdate values := by
  induction clauses generalizing q with
  | nil => rfl
  | cons c rest ih => exact ih (q.addWhere c.connector c.predicate)

/-- Further conditions that all have to hold are clauses. -/
theorem restrict_eq_withClauses (q : Query) (conditions : List (Predicate Query)) :
    q.restrict conditions = q.withClauses (conditions.map fun p => ⟨.and, p⟩) := by
  rw [restrict, withClauses, List.foldl_map]

end Query

/-! ## Listeners that only filter -/

section Calling

variable {σ κ : Type} {hear : Hearing (StateM σ) κ} {kind : EventKind}

/-- A listener that adds clauses to what it is shown at a moment. It may fail, but neither calls the
statement off nor asks for others. -/
def Filters (hear : Hearing (StateM σ) κ) (kind : EventKind) (l : κ) : Prop :=
  ∀ event, event.kind = kind → Ensures (fun _ => True) (hear l event) fun response _ =>
    response.requests = [] ∧ response.verdict ≠ .cancel ∧
      ∃ clauses, response.operation.query = event.operation.query.withClauses clauses

/-- A listener that only filters is called, and those after it are called on what it leaves. -/
theorem exists_called {r : Registration κ} (h : Filters hear kind r.listener) (op : Operation κ)
    (failures : List HookFailure) (w : σ) :
    ∃ left w' failures', (∃ clauses, left.query = op.query.withClauses clauses) ∧
      ∀ rest, (dispatchTo hear kind .isolate (r :: rest) op [] failures).run w =
        (dispatchTo hear kind .isolate rest left [] failures').run w' := by
  obtain ⟨asked, goes_on, added⟩ := h { kind, operation := op, substitutes := [] } rfl w trivial
  generalize hcall : (hear r.listener { kind, operation := op, substitutes := [] }).run w = call
    at asked goes_on added
  obtain ⟨response, w'⟩ := call
  have nothing : response.requests = [] := asked
  cases hv : response.verdict with
  | proceed =>
    refine ⟨response.operation, w', failures, added, fun rest => ?_⟩
    rw [dispatchTo, run_bind_eq, hcall]
    simp only [hv, nothing, List.map_nil, List.append_nil]
  | fail error =>
    refine ⟨response.operation, w', failures ++ [{ listener := r.id, error }], added,
      fun rest => ?_⟩
    rw [dispatchTo, run_bind_eq, hcall]
    simp only [hv, nothing, List.map_nil, List.append_nil]
  | cancel => exact absurd hv goes_on

/-- Listeners that only filter are called one after another, and the others on what they leave. -/
theorem dispatchTo_of_filters {rs : List (Registration κ)}
    (h : ∀ r ∈ rs, Filters hear kind r.listener) (op : Operation κ) (failures : List HookFailure)
    (w : σ) (after : List (Registration κ)) :
    let called := (dispatchTo hear kind .isolate rs op [] failures).run w
    (∃ clauses, called.1.2.query = op.query.withClauses clauses) ∧
      ∃ failures', (dispatchTo hear kind .isolate (rs ++ after) op [] failures).run w =
        (dispatchTo hear kind .isolate after called.1.2 [] failures').run called.2 := by
  induction rs generalizing op failures w with
  | nil => exact ⟨⟨[], rfl⟩, failures, rfl⟩
  | cons r rest ih =>
    obtain ⟨left, w', failures', ⟨clauses, hleft⟩, hcalled⟩ :=
      exists_called (h r List.mem_cons_self) op failures w
    obtain ⟨⟨more, hmore⟩, hafter⟩ :=
      ih (fun r' hr' => h r' (List.mem_cons_of_mem r hr')) left failures' w'
    rw [List.cons_append, hcalled rest, hcalled (rest ++ after)]
    refine ⟨⟨clauses ++ more, ?_⟩, hafter⟩
    rw [hmore, hleft, Query.withClauses, Query.withClauses, Query.withClauses, List.foldl_append]

end Calling

/-! ## The statements -/

/-- The values of clauses, in the order of their placeholders. -/
def Query.clauseValues (clauses : List (Clause Query)) : List Value :=
  clauses.flatMap fun c => predicateValues c.predicate

namespace Dialect

/-- Clauses at the end of a statement, if there are any. -/
def whereText (d : Dialect) (clauses : List (Clause Query)) : String :=
  if clauses.isEmpty then "" else " WHERE " ++ d.clauses clauses

/-- The statement that removes the rows of a table for which clauses hold. -/
def removal (d : Dialect) (table : String) (clauses : List (Clause Query)) : Statement where
  kind := some .delete
  sql := "DELETE FROM " ++ d.wrap table ++ d.whereText clauses
  bindings := Query.clauseValues clauses

/-- The statement that puts a time into columns of the rows of a table for which clauses hold. -/
def stamping (d : Dialect) (table : String) (columns : List String) (time : Instant)
    (clauses : List (Clause Query)) : Statement where
  kind := some .update
  sql := "UPDATE " ++ d.wrap table ++ " SET " ++
    ", ".intercalate (columns.map fun column => d.wrap column ++ " = " ++ d.placeholder) ++
    d.whereText clauses
  bindings := columns.map (fun _ => .timestamp time) ++ Query.clauseValues clauses
  written := columns

/-- The statement that assigns values in the rows of a table for which clauses hold. -/
def assigning (d : Dialect) (table : String) (entries : List (String × Value))
    (clauses : List (Clause Query)) : Statement where
  kind := some .update
  sql := "UPDATE " ++ d.wrap table ++ " SET " ++
    ", ".intercalate ((entries.map Prod.fst).map d.assignmentText) ++ d.whereText clauses
  bindings := entries.map Prod.snd ++ Query.clauseValues clauses
  written := entries.map Prod.fst

variable {d : Dialect} {table : String} {q : Query}

/-- The clauses of a query at the end of a statement. -/
theorem whereTail_eq (q : Query) : d.whereTail q = d.whereText q.wheres := by
  have keyword (t : String) : " " ++ ("WHERE " ++ t) = " WHERE " ++ t := by
    rw [← String.append_assoc]
    rfl
  cases h : q.wheres <;> simp [whereTail, whereText, part, partText, headed, h, keyword]

/-- A query without a table does not compile. -/
theorem prepare_of_table_eq_empty (h : q.table = "") (kind : StatementKind) :
    d.prepare kind q = .error .missingTable := by
  rw [prepare, compile, if_pos (by simpa using h)]

/-- A query that filters compiles to the removal of its rows. -/
theorem prepare_delete (h : q.Filters table) (htable : table ≠ "") :
    d.prepare .delete q = .ok (d.removal table q.wheres) := by
  have compiled : d.compile .delete q = .ok (d.removal table q.wheres).sql := by
    rw [compile, h.table, if_neg (by simpa using htable), text, delete, h.table, whereTail_eq]
    rfl
  have bound : q.bindingsFor .delete = Query.clauseValues q.wheres := by
    simp [Query.bindingsFor, Bindings.forStatement, StatementKind.sections, Bindings.valuesOf,
      h.bound.wheres, Query.clauseValues]
  rw [prepare, compiled]
  simp only [bound]
  rfl

/-- A query that filters compiles to an update of its rows once values are staged. -/
theorem prepare_assigning (h : q.Filters table) (htable : table ≠ "") {values : ColumnValues}
    (hne : values.entries ≠ []) :
    d.prepare .update (q.stageUpdate values) = .ok (d.assigning table values.entries q.wheres) := by
  have unassigned : q.bindings.updates = [] := by
    rw [← List.length_eq_zero_iff, h.bound.updates, h.unassigned, List.length_nil]
  have assigned : (q.stageUpdate values).assignments = values.columns := by
    rw [Query.stageUpdate, h.unassigned, List.nil_append]
  have some_column : ¬ values.columns.isEmpty = true := by simpa [ColumnValues.columns] using hne
  have compiled : d.compile .update (q.stageUpdate values) =
      .ok (d.assigning table values.entries q.wheres).sql := by
    rw [compile, show (q.stageUpdate values).table = table from h.table,
      if_neg (by simpa using htable), text, update, assigned, if_neg some_column,
      show (q.stageUpdate values).table = table from h.table, whereTail_eq]
    rfl
  have bound : (q.stageUpdate values).bindingsFor .update =
      values.values ++ Query.clauseValues q.wheres := by
    show (q.bindings.append .update values.values).forStatement .update = _
    simp [Bindings.forStatement, StatementKind.sections, Bindings.valuesOf, Bindings.append,
      unassigned, h.bound.wheres, Query.clauseValues]
  rw [prepare, compiled]
  simp only [bound, Query.writtenColumns, assigned]
  rfl

/-- A query that filters compiles to an update of its rows once a time is staged. -/
theorem prepare_update (h : q.Filters table) (htable : table ≠ "") {values : ColumnValues}
    {columns : List String} {time : Instant} (hne : columns ≠ [])
    (hcolumns : values.columns = columns)
    (hvalues : values.values = columns.map fun _ => .timestamp time) :
    d.prepare .update (q.stageUpdate values) = .ok (d.stamping table columns time q.wheres) := by
  have some_entry : values.entries ≠ [] := by
    rintro hnone
    exact hne (by rw [← hcolumns, ColumnValues.columns, hnone, List.map_nil])
  have stamped : d.assigning table values.entries q.wheres =
      d.stamping table columns time q.wheres := by
    rw [ColumnValues.columns] at hcolumns
    rw [ColumnValues.values] at hvalues
    rw [assigning, stamping, hcolumns, hvalues]
    rfl
  rw [prepare_assigning h htable some_entry, stamped]

end Dialect

/-! ## The listeners of the enhancers -/

/-- A scope of a model: the name it is skipped by, and the column with its value. -/
structure Scope where
  /-- The name. -/
  name : String
  /-- The column. -/
  column : String
  /-- The value that the column has to have. -/
  value : Value
deriving DecidableEq, Inhabited

namespace Scope

/-- The enhancer of a scope. -/
def builtIn (scope : Scope) : BuiltIn :=
  .scope scope.name scope.column scope.value

/-- The clause that a scope adds: the column equals the value, or is null if the value is. -/
def clause (scope : Scope) : Clause Query :=
  ⟨.and, .comparison scope.column .eq scope.value⟩

/-- The listener that adds it. -/
def listener {ℓ : Type} (scope : Scope) : Listener ℓ :=
  .restrict scope.column scope.value

/-- The clauses of scopes stand after the others as they are. -/
theorem wheres_withClauses_map_clause (q : Query) (scopes : List Scope) :
    (q.withClauses (scopes.map clause)).wheres = q.wheres ++ scopes.map clause := by
  rw [Query.wheres_withClauses, List.map_map]
  congr 1
  exact List.map_congr_left fun scope _ => by
    rw [Function.comp_apply, clause, Predicate.normalize_comparison]

end Scope

section Preparing

variable {m : Type → Type} [Monad m] {ℓ α : Type}

/-- An enhancer registers its listeners after those that are there, and leaves the policy alone. -/
theorem BuiltIn.registeredFor_enhance (now : m Instant) (schema : Schema) (kind : EventKind)
    (b : BuiltIn) (op : Operation (Listener ℓ)) :
    ((b.enhancer now : Enhancer m ℓ).enhance schema op).events.policy = op.events.policy ∧
      ∃ added, ((b.enhancer now : Enhancer m ℓ).enhance schema op).events.registeredFor kind =
          op.events.registeredFor kind ++ added ∧
        added.map (fun r => r.listener) = b.listeners schema kind := by
  cases b with
  | scope name column value =>
    refine ⟨rfl, ?_⟩
    cases kind <;> simp [enhancer, Enhancer.columnScope, Operation.listen,
      EventBus.registeredFor_register, listeners]
  | timestamps => exact ⟨rfl, [], (List.append_nil _).symm, rfl⟩
  | softDeletes =>
    cases hs : schema.softDelete with
    | none => simp [enhancer, Enhancer.softDeletes, hs, listeners]
    | some column =>
      refine ⟨by simp [enhancer, Enhancer.softDeletes, hs, Operation.listen, EventBus.register], ?_⟩
      cases kind <;> simp [enhancer, Enhancer.softDeletes, hs, Operation.listen,
        EventBus.registeredFor_register, listeners]

/-- Enhancers register their listeners one after another. -/
theorem BuiltIn.registeredFor_foldl (now : m Instant) (schema : Schema) (kind : EventKind)
    (bs : List BuiltIn) (op : Operation (Listener ℓ)) :
    let prepared := (bs.map fun b => (b.enhancer now : Enhancer m ℓ)).foldl
      (fun op e => e.enhance schema op) op
    prepared.events.policy = op.events.policy ∧
      ∃ added, prepared.events.registeredFor kind = op.events.registeredFor kind ++ added ∧
        added.map (fun r => r.listener) = bs.flatMap fun b => b.listeners schema kind := by
  induction bs generalizing op with
  | nil => exact ⟨rfl, [], (List.append_nil _).symm, rfl⟩
  | cons b rest ih =>
    obtain ⟨policy, added, hadded, hlisteners⟩ := registeredFor_enhance now schema kind b op
    obtain ⟨others, more, hmore, hothers⟩ := ih ((b.enhancer now : Enhancer m ℓ).enhance schema op)
    refine ⟨others.trans policy, added ++ more, ?_, ?_⟩
    · rw [List.map_cons, List.foldl_cons, hmore, hadded, List.append_assoc]
    · rw [List.map_append, hlisteners, hothers, List.flatMap_cons]

namespace Selection

/-- The scopes that are not skipped, in order. -/
def keptScopes (s : Selection ℓ) (scopes : List Scope) : List Scope :=
  scopes.filter fun scope => !s.skipped.contains scope.name

/-- The listeners for the moment before a delete: those of the scopes that are kept, then the one
that marks rows, unless it is skipped. -/
theorem listeners_preDelete {schema : Schema} {column : String}
    (hschema : schema.softDelete = some column) (scopes : List Scope) (s : Selection ℓ) :
    s.listeners schema (scopes.map Scope.builtIn) .preDelete =
      (s.keptScopes scopes).map Scope.listener ++
        if s.skipped.contains Enhancer.softDeletesName then []
        else [.markDeleted column (schema.timestamps.map fun columns => columns.updated)] := by
  have named : ((scopes.map Scope.builtIn).filter fun b => !s.skipped.contains b.name).flatMap
      (fun b => (b.listeners schema .preDelete : List (Listener ℓ))) =
        (s.keptScopes scopes).map Scope.listener := by
    rw [List.filter_map, List.flatMap_map, keptScopes, List.map_eq_flatMap]
    rfl
  have timestamps : ((if schema.timestamps.isSome then [BuiltIn.timestamps] else []).filter
      fun b => !s.skipped.contains b.name).flatMap
        (fun b => (b.listeners schema .preDelete : List (Listener ℓ))) = [] := by
    refine List.flatMap_eq_nil_iff.2 fun b hb => ?_
    have only : b ∈ if schema.timestamps.isSome then [BuiltIn.timestamps] else [] :=
      (List.mem_filter.1 hb).1
    split at only
    · obtain rfl := List.mem_singleton.1 only
      rfl
    · cases only
  rw [listeners, builtIns, BuiltIn.all, List.filter_append, List.filter_append, List.flatMap_append,
    List.flatMap_append, named, timestamps, List.append_nil, hschema, Option.isSome_some,
    if_pos rfl]
  cases h : s.skipped.contains Enhancer.softDeletesName <;>
    simp only [List.filter_cons, List.filter_nil, BuiltIn.name, h, Bool.not_true, Bool.not_false,
      Bool.false_eq_true, if_true, if_false, List.flatMap_nil, List.flatMap_cons, List.append_nil,
      BuiltIn.listeners, hschema]

/-- The listeners of an operation are the caller's and then those of its enhancers. -/
theorem registeredFor_toOperation {model : Model m ℓ α} {store : Store m ℓ} {named : List BuiltIn}
    (h : model.IsBuiltOf store.now named) (s : Selection ℓ) (kind : EventKind) :
    (s.toOperation model store).events.policy = s.operation.events.policy ∧
      ∃ added, (s.toOperation model store).events.registeredFor kind =
          s.operation.events.registeredFor kind ++ added ∧
        added.map (fun r => r.listener) = s.listeners model.schema named kind := by
  rw [toOperation, enhancers_eq h]
  exact BuiltIn.registeredFor_foldl store.now model.schema kind _ _

end Selection

end Preparing

/-! ## What a delete sends -/

/-- The columns that a delete of marked rows sets: the one for the time of deletion, and the one for
the time of the last change if there is one and it is another column. -/
def Schema.markedColumns (schema : Schema) (column : String) : List String :=
  match schema.timestamps with
  | some columns => if columns.updated = column then [column] else [column, columns.updated]
  | none => [column]

/-- At least one column is set. -/
theorem Schema.markedColumns_ne_nil (schema : Schema) (column : String) :
    schema.markedColumns column ≠ [] := by
  rw [markedColumns]
  split
  · split <;> exact List.cons_ne_nil _ _
  · exact List.cons_ne_nil _ _

/-- The assignments that mark rows give the same time to every column that is set. -/
theorem Listener.marks_eq (schema : Schema) (column : String) (time : Instant) :
    (marks column (schema.timestamps.map fun columns => columns.updated) time).columns =
        schema.markedColumns column ∧
      (marks column (schema.timestamps.map fun columns => columns.updated) time).values =
        (schema.markedColumns column).map fun _ => .timestamp time := by
  rw [Schema.markedColumns]
  cases schema.timestamps with
  | none => exact ⟨rfl, rfl⟩
  | some columns =>
    by_cases h : columns.updated = column
    · simp [h, marks, ColumnValues.set, ColumnValues.setEntry, ColumnValues.empty,
        ColumnValues.columns, ColumnValues.values]
    · simp [h, Ne.symm h, marks, ColumnValues.set, ColumnValues.setEntry, ColumnValues.empty,
        ColumnValues.columns, ColumnValues.values]

section Deleting

variable {σ ℓ α : Type} {store : Store (StateM σ) ℓ} {model : Model (Journaled σ) ℓ α}
  {scopes : List Scope} {s : Selection ℓ} {column : String}

/-- The operation as the caller's listeners for the moment before a delete leave it. -/
def Selection.calledByDelete (model : Model (Journaled σ) ℓ α) (store : Store (StateM σ) ℓ)
    (s : Selection ℓ) : StateM σ (Operation (Listener ℓ)) := do
  let called ← dispatchTo (Listener.hear store.now store.hear) .preDelete s.operation.events.policy
    (s.operation.events.registeredFor .preDelete) (s.toOperation model store.recorded) [] []
  return called.2

/-- The listeners of scopes add their clauses. -/
theorem conditions_map_listener (scopes : List Scope) :
    Listener.conditions (scopes.map (Scope.listener (ℓ := ℓ))) =
      scopes.map fun scope => .comparison scope.column .eq scope.value := by
  induction scopes with
  | nil => rfl
  | cons scope rest ih =>
    rw [List.map_cons, List.map_cons, ← ih]
    rfl

/-- Restricting a query as the listeners of scopes do adds the clauses of the scopes. -/
theorem restrict_map_listener (q : Query) (scopes : List Scope) :
    q.restrict (Listener.conditions (scopes.map (Scope.listener (ℓ := ℓ)))) =
      q.withClauses (scopes.map Scope.clause) := by
  rw [conditions_map_listener, Query.restrict_eq_withClauses, List.map_map]
  rfl

/-- Listeners of scopes are called one after another, each adds its clause, and those after them are
called. -/
theorem dispatchTo_of_scopes {kind : EventKind} {first : List (Registration (Listener ℓ))}
    {scopes : List Scope} (h : first.map (fun r => r.listener) = scopes.map Scope.listener)
    (after : List (Registration (Listener ℓ))) (op : Operation (Listener ℓ))
    (failures : List HookFailure) :
    dispatchTo (Listener.hear store.now store.hear) kind .isolate (first ++ after) op [] failures =
      dispatchTo (Listener.hear store.now store.hear) kind .isolate after
        (op.mapQuery fun q => q.withClauses (scopes.map Scope.clause)) [] failures := by
  have scoping : ∀ r ∈ first, r.listener.restricts := by
    intro r hr
    have listed : r.listener ∈ first.map fun r => r.listener := List.mem_map_of_mem hr
    rw [h] at listed
    obtain ⟨scope, -, hscope⟩ := List.mem_map.1 listed
    rw [← hscope]
    rfl
  rw [dispatchTo_of_restricts store.now store.hear kind .isolate scoping, h]
  simp only [restrict_map_listener]

/-- The moment before a delete, where the caller's listeners only filter: they are called first, the
scopes that are kept add their clauses, and then the listener that marks rows calls the delete off,
unless it is skipped. -/
theorem Selection.dispatch_preDelete
    (hmodel : model.IsBuiltOf store.recorded.now (scopes.map Scope.builtIn))
    (hschema : model.schema.softDelete = some column)
    (isolate : s.operation.events.policy = .isolate)
    (filters : ∀ l ∈ s.operation.heard .preDelete,
      Filters (Listener.hear store.now store.hear) .preDelete l) (w : σ) :
    let called := (s.calledByDelete model store).run w
    let rest := called.1.mapQuery fun q =>
      q.withClauses ((s.keptScopes scopes).map Scope.clause)
    let outcome := (dispatch (Listener.hear store.now store.hear) .preDelete
      (s.toOperation model store.recorded)).run w
    (∃ clauses, called.1.query = s.operation.query.withClauses clauses) ∧
      ∃ report, outcome.1 = (.ok report, rest) ∧
        if s.skipped.contains Enhancer.softDeletesName then report.canceled = false
        else report.canceled = true ∧ report.substitutes = [.of .update (Listener.marking column
          (model.schema.timestamps.map fun columns => columns.updated)
          (store.now.run called.2).1 rest)] := by
  obtain ⟨policy, added, hadded, hlisteners⟩ := s.registeredFor_toOperation hmodel .preDelete
  rw [Selection.listeners_preDelete hschema] at hlisteners
  obtain ⟨first, others, rfl, hfirst, hothers⟩ := List.map_eq_append_iff.1 hlisteners
  have only : ∀ r ∈ s.operation.events.registeredFor .preDelete,
      Filters (Listener.hear store.now store.hear) .preDelete r.listener :=
    fun r hr => filters _ (List.mem_map_of_mem hr)
  obtain ⟨⟨clauses, hclauses⟩, failures, hrun⟩ :=
    dispatchTo_of_filters only (s.toOperation model store.recorded) [] w (first ++ others)
  generalize hcall : (dispatchTo (Listener.hear store.now store.hear) .preDelete .isolate
    (s.operation.events.registeredFor .preDelete) (s.toOperation model store.recorded)
      [] []).run w = call at hclauses hrun
  have called : (s.calledByDelete model store).run w = (call.1.2, call.2) := by
    rw [← hcall, calledByDelete, isolate]
    rfl
  rw [called, dispatch, policy, isolate, hadded, hrun, dispatchTo_of_scopes hfirst]
  refine ⟨⟨clauses, ?_⟩, ?_⟩
  · rw [hclauses, query_toOperation hmodel]
  cases hskip : s.skipped.contains Enhancer.softDeletesName with
  | true =>
    rw [hskip, if_pos rfl] at hothers
    obtain rfl := List.map_eq_nil_iff.1 hothers
    exact ⟨{ failures }, rfl, rfl⟩
  | false =>
    rw [hskip, if_neg Bool.false_ne_true] at hothers
    obtain ⟨marking, rfl, hmarking⟩ := List.map_eq_singleton_iff.1 hothers
    rw [dispatchTo, hmarking]
    exact ⟨_, rfl, rfl, rfl⟩

/-- **A delete of a model that marks rows never removes them.** Take a model with scopes whose
schema has a column that marks rows, and a selection whose query was built by steps that keep the
table and assign nothing. The caller's listeners for the moment before a delete add clauses or fail,
under the policy that the others are called all the same, and connections are to be had. Then a
delete sends exactly one statement. Unless marking is skipped it is an update: it gives the columns
that are set one time, read from the clock after the caller's listeners, where the clauses as these
listeners left them, one clause for every scope that is kept and the one that the row is not marked
hold. If marking is skipped it is a delete with the clauses of the listeners and the scopes. -/
theorem Selection.sends_delete (available : store.IsAvailable)
    (hmodel : model.IsBuiltOf store.recorded.now (scopes.map Scope.builtIn))
    (hschema : model.schema.softDelete = some column) (htable : model.schema.table ≠ "")
    (built : s.operation.query.Built) (table : s.operation.query.table = model.schema.table)
    (unassigned : s.operation.query.assignments = [])
    (isolate : s.operation.events.policy = .isolate)
    (filters : ∀ l ∈ s.operation.heard .preDelete,
      Filters (Listener.hear store.now store.hear) .preDelete l) (w : σ) :
    let called := (s.calledByDelete model store).run w
    let clauses := called.1.query.wheres ++ (s.keptScopes scopes).map Scope.clause
    let time := (store.now.run called.2).1
    let journal := ((s.delete model store.recorded).run.run ([], w)).2.1
    (∃ added, called.1.query = s.operation.query.withClauses added) ∧
      (Enhancer.softDeletesName ∉ s.skipped → ∃ completion, journal = [{
        completion
        statement := store.dialect.stamping model.schema.table (model.schema.markedColumns column)
          time (clauses ++ [⟨.and, .nullCheck column false⟩]) }]) ∧
      (Enhancer.softDeletesName ∈ s.skipped → ∃ completion, journal = [{
        completion
        statement := store.dialect.removal model.schema.table clauses }]) := by
  obtain ⟨added, report, houtcome, hreport⟩ :=
    dispatch_preDelete hmodel hschema isolate filters w
  obtain ⟨clauses, hclauses⟩ := added
  have kept : ((s.calledByDelete model store).run w).1.query.Filters model.schema.table := by
    rw [hclauses]
    exact Query.Filters.withClauses ⟨built.bound, table, unassigned⟩ clauses
  have filtered := kept.withClauses ((s.keptScopes scopes).map Scope.clause)
  have wheres := Scope.wheres_withClauses_map_clause
    ((s.calledByDelete model store).run w).1.query (s.keptScopes scopes)
  -- one statement is sent: the one that is compiled from what the dispatch leaves
  have sent {statement : Statement} (leaves : Leaves store.dialect .delete report _ statement) :
      ∃ told, ((s.delete model store.recorded).run.run ([], w)).2.1 =
        [{ statement, completion := told }] :=
    ensures_runWrite store available (Prod.ext houtcome rfl) leaves ([], w) rfl
  refine ⟨⟨clauses, hclauses⟩, fun hkeep => sent ?_, fun hskip => sent ?_⟩
  · rw [if_neg (by simpa using hkeep)] at hreport
    obtain ⟨hcanceled, hsubstitutes⟩ := hreport
    rw [Leaves, hcanceled, if_pos rfl]
    refine ⟨_, hsubstitutes, ?_⟩
    have unmarked := filtered.withClauses [⟨.and, .nullCheck column false⟩]
    obtain ⟨columns, values⟩ := Listener.marks_eq model.schema column
      (store.now.run ((s.calledByDelete model store).run w).2).1
    rw [← wheres]
    exact Dialect.prepare_update unmarked htable (model.schema.markedColumns_ne_nil column) columns
      values
  · rw [if_pos (by simpa using hskip)] at hreport
    rw [Leaves, hreport, if_neg Bool.false_ne_true, ← wheres]
    exact Dialect.prepare_delete filtered htable

end Deleting

section Guarding

/-- The scope of the documents of one tenant. -/
def ownedScope : Scope := { name := "tenant", column := "tenant_id", value := .int 7 }

/-- A store with two listeners of the caller. Both add a clause; one of them fails after that. -/
def guardedStore : Store (StateM Unit) Bool where
  dialect := .mysql
  source := (Store.obliging .mysql).source
  now := pure default
  hear := fun fails event => pure {
    operation := event.operation.mapQuery fun q => q.addWhere .or (.compare "a" .eq (.bool fails))
    verdict := if fails then .fail ⟨"failed"⟩ else .proceed }
  notice := fun _ => pure ()

/-- Documents that are marked in place of being deleted. -/
def markedDocuments : Model (Journaled Unit) Bool FieldValues :=
  FieldModel.model
    { table := "docs", columns := [{ name := "id", primaryKey := true }],
      timestamps := some ⟨"created_at", "updated_at"⟩, softDelete := some "deleted_at" }
    [] [ownedScope.builtIn.enhancer guardedStore.recorded.now]

/-- One of the documents, with both listeners. -/
def guardedDocument : Selection Bool :=
  (Selection.ofModel markedDocuments).filter fun op =>
    ((op.mapQuery fun q => q.whereEq "id" (.int 5)).listen .preDelete (.custom true)).listen
      .preDelete (.custom false)

/-- The listeners of the store only filter. -/
theorem filters_guardedStore (fails : Bool) : Filters
    (Listener.hear guardedStore.now guardedStore.hear) .preDelete (.custom fails) := by
  intro event _ w _
  refine ⟨rfl, ?_, [⟨.or, .compare "a" .eq (.bool fails)⟩], rfl⟩
  show (if fails then Verdict.fail ⟨"failed"⟩ else .proceed) ≠ .cancel
  cases fails <;> decide

/-- A delete of the document marks it, where the clauses of both listeners and of the scope hold. -/
theorem sends_delete_guardedDocument :
    guardedStore.IsAvailable ∧ guardedDocument.operation.query.Built ∧
      (∀ l ∈ guardedDocument.operation.heard .preDelete,
        Filters (Listener.hear guardedStore.now guardedStore.hear) .preDelete l) ∧
      ∃ completion,
        ((guardedDocument.delete markedDocuments guardedStore.recorded).run.run ([], ())).2.1 = [{
          completion
          statement := {
            kind := some .update
            sql := "UPDATE `docs` SET `deleted_at` = ?, `updated_at` = ? WHERE `id` = ? " ++
              "OR `a` = ? OR `a` = ? AND `tenant_id` = ? AND `deleted_at` IS NULL"
            bindings := [.timestamp default, .timestamp default, .int 5, .bool true, .bool false,
              .int 7]
            written := ["deleted_at", "updated_at"] } }] := by
  have available : guardedStore.IsAvailable := fun _ => rfl
  have built : guardedDocument.operation.query.Built :=
    .step (.where_ .and (.comparison "id" .eq (.int 5))) (.fresh "docs") nofun rfl
  have filters : ∀ l ∈ guardedDocument.operation.heard .preDelete,
      Filters (Listener.hear guardedStore.now guardedStore.hear) .preDelete l := by
    intro l hl
    rcases List.mem_cons.1 hl with rfl | hl
    · exact filters_guardedStore true
    · obtain rfl := List.mem_singleton.1 hl
      exact filters_guardedStore false
  obtain ⟨-, marks, -⟩ := @Selection.sends_delete Unit Bool FieldValues guardedStore
    markedDocuments [ownedScope] guardedDocument "deleted_at" available rfl rfl (by decide) built
    rfl rfl rfl filters ()
  obtain ⟨completion, sent⟩ := marks (by decide)
  exact ⟨available, built, filters, completion, sent.trans (by rfl)⟩

end Guarding

end SqlMapper
