import SqlMapper.Proofs.Filter.Isolation
import SqlMapper.Proofs.Records.Changes

/-!
# What bulk updates and restores send

A caller chooses the rows of an entity by clauses and leaves out enhancers by their names. An update
of these rows assigns the caller's values and, unless that enhancer is left out, the time of the
change; the clauses are the caller's, and then those of the scopes that are not left out
(`Selection.sendsOnce_update`). A restore is an update too. It includes marked rows by leaving out
the enhancer that hides them, and that goes by the name alone: a scope of the same name is left out
with it (`Selection.keptScopes_withTrashed`).
-/

namespace SqlMapper

/-! ## Choosing rows by conditions -/

/-- Whether a step of building adds a condition on rows, if it succeeds. -/
def Refinement.isCondition : Refinement → Bool
  | .where_ .. => true
  | .whereText .. => true
  | _ => false

/-- Whether a choice of rows adds nothing but conditions. -/
def Choice.isCondition : Choice → Bool
  | .filter steps => steps.all Refinement.isCondition
  | .onlyTrashed => true
  | .without _ => true

/-- A query with a further condition filters further. -/
theorem Query.Filters.refine {table : String} {q : Query} (h : q.Filters table) {step : Refinement}
    (condition : step.isCondition = true) : ((q.refine step).toOption.getD q).Filters table := by
  cases step with
  | where_ connector p => exact h.withClauses [⟨connector, p⟩]
  | whereText connector column operator value =>
    rw [Query.refine]
    cases Operator.ofText operator with
    | ok op => exact h.withClauses [⟨connector, .comparison column op value⟩]
    | error fault => exact h
  | _ => cases condition

/-- So does one with any number of them. -/
theorem Query.Filters.refineEach {table : String} {q : Query} (h : q.Filters table)
    {steps : List Refinement} (conditions : ∀ step ∈ steps, step.isCondition = true) :
    (q.refineEach steps).Filters table := by
  induction steps generalizing q with
  | nil => exact h
  | cons step rest ih =>
    rw [List.forall_mem_cons] at conditions
    exact ih (h.refine conditions.1) conditions.2

section Choosing

variable {m : Type → Type} {ℓ α : Type}

namespace Selection

/-- The rows of a selection that are marked in a column, without the enhancers that hide them. -/
def trashed (s : Selection ℓ) (column : String) : Selection ℓ :=
  s.withTrashed.filter fun op => op.mapQuery fun q => q.whereNotNull column

/-- A choice that adds conditions leaves a query that filters. -/
theorem filters_choose {model : Model m ℓ α} {table : String} {s next : Selection ℓ}
    (filters : s.operation.query.Filters table) {c : Choice} (condition : c.isCondition = true)
    (hnext : s.choose model c = .ok next) : next.operation.query.Filters table := by
  cases c with
  | filter steps =>
    cases hnext
    exact filters.refineEach (List.all_eq_true.1 condition)
  | onlyTrashed =>
    obtain ⟨column, -, rfl⟩ := onlyTrashed_eq_ok hnext
    exact filters.withClauses [⟨.and, .nullCheck column true⟩]
  | without name =>
    cases hnext
    exact filters

/-- So do any number of them. -/
theorem filters_choices {model : Model m ℓ α} {table : String} {choices : List Choice}
    (conditions : ∀ c ∈ choices, c.isCondition = true) {s last : Selection ℓ}
    (filters : s.operation.query.Filters table)
    (hlast : choices.foldlM (choose model) s = .ok last) : last.operation.query.Filters table := by
  induction choices generalizing s with
  | nil =>
    cases hlast
    exact filters
  | cons c rest ih =>
    rw [List.forall_mem_cons] at conditions
    rw [List.foldlM_cons] at hlast
    cases hnext : s.choose model c with
    | error fault =>
      rw [hnext] at hlast
      cases hlast
    | ok next =>
      rw [hnext] at hlast
      exact ih conditions.2 (filters_choose filters conditions.1 hnext) hlast

/-- Of the enhancers that act, the scopes are those that are kept. -/
theorem filterMap_scope?_builtIns (schema : Schema) (scopes : List Scope) (s : Selection ℓ) :
    (s.builtIns schema (scopes.map Scope.builtIn)).filterMap BuiltIn.scope? =
      s.keptScopes scopes := by
  have others (asked : Bool) {b : BuiltIn} (hb : b.scope? = none) :
      ((if asked then [b] else []).filter fun b => !s.skipped.contains b.name).filterMap
        BuiltIn.scope? = [] := by
    refine List.filterMap_eq_nil_iff.2 fun other hother => ?_
    cases asked with
    | false => cases hother
    | true => exact List.mem_singleton.1 (List.mem_filter.1 hother).1 ▸ hb
  have own : ((scopes.map Scope.builtIn).filter fun b =>
      !s.skipped.contains b.name).filterMap BuiltIn.scope? = s.keptScopes scopes := by
    rw [List.filter_map, List.filterMap_map]
    exact List.filterMap_some
  rw [builtIns, BuiltIn.all, List.filter_append, List.filter_append, List.filterMap_append,
    List.filterMap_append, own, others _ rfl, others _ rfl, List.append_nil, List.append_nil]

/-- What the enhancers that act assign besides some columns: the time of the change, unless the
enhancer for it is left out or its column is one of them. -/
def stamp (s : Selection ℓ) (schema : Schema) (columns : List String) (time : Instant) :
    List (String × Value) :=
  if s.skipped.contains Enhancer.timestampsName then [] else schema.stamp columns time

end Selection

end Choosing

section Assigning

variable {σ ℓ α : Type} {store : Store (StateM σ) ℓ} {model : Model (Journaled σ) ℓ α}
  {scopes : List Scope}

namespace Selection

/-- The enhancers that act add what they assign to the assignments of an update. They leave no trace
on the journal. -/
theorem ensures_adjustUpdate
    (hmodel : model.IsBuiltOf store.recorded.now (scopes.map Scope.builtIn)) (s : Selection ℓ)
    (values : ColumnValues) (w : σ) :
    Ensures (fun t => t = ([], w))
      (adjustUpdate model.schema (s.enhancers model store.recorded) values)
      (fun next t => next.entries =
        values.entries ++ s.stamp model.schema values.columns (store.now.run w).1 ∧ t.1 = []) := by
  rw [enhancers_eq hmodel, stamp]
  cases hskip : s.skipped.contains Enhancer.timestampsName with
  | false =>
    have act : model.schema.timestamps.isSome = true →
        .timestamps ∈ s.builtIns model.schema (scopes.map Scope.builtIn) := fun kept =>
      List.mem_filter.2 ⟨BuiltIn.timestamps_mem_all kept _, by rw [BuiltIn.name, hskip]; rfl⟩
    rw [adjustUpdate_builtIns store.recorded.now model.schema _ act, if_neg Bool.false_ne_true]
    exact ensures_onUpdate_stamp store.now model.schema values w
  | true =>
    have left : ∀ e ∈ (s.builtIns model.schema (scopes.map Scope.builtIn)).map
        (fun b => (b.enhancer store.recorded.now : Enhancer (Journaled σ) ℓ)),
        e.onUpdate model.schema values = pure values := by
      intro e he
      obtain ⟨b, hb, rfl⟩ := List.mem_map.1 he
      cases b with
      | scope name column value => rfl
      | softDeletes => rfl
      | timestamps =>
        have kept := (List.mem_filter.1 hb).2
        rw [BuiltIn.name, hskip] at kept
        cases kept
    rw [adjustUpdate_of_left model.schema left, if_pos rfl, List.append_nil]
    exact Ensures.pure fun _ h => ⟨rfl, congrArg Prod.fst h⟩

/-- The listeners for the moment before an update are those of the scopes that are kept. -/
theorem heard_preUpdate_of_chosen
    (hmodel : model.IsBuiltOf store.recorded.now (scopes.map Scope.builtIn))
    {clauses : List (Clause Query)} {skipped : List String} {s : Selection ℓ}
    (chosen : s.Chosen clauses skipped) :
    (s.toOperation model store.recorded).heard .preUpdate =
      (s.keptScopes scopes).map Scope.listener := by
  rw [Request.heard_of_chosen hmodel chosen, listeners, BuiltIn.listeners_preUpdate,
    filterMap_scope?_builtIns]

/-- An update that assigns nothing is refused. No listener is called and nothing is sent. -/
theorem update_of_empty (hmodel : model.IsBuiltOf store.recorded.now (scopes.map Scope.builtIn))
    {s : Selection ℓ} (filters : s.operation.query.Filters model.schema.table)
    {values : ColumnValues} (h : values.entries = []) :
    s.update model store.recorded values = throw (.query .emptyAssignment) := by
  have unassigned : ((s.toOperation model store.recorded).mapQuery
      fun q => q.stageUpdate values).query.assignments = [] := by
    show (s.toOperation model store.recorded).query.assignments ++ values.columns = []
    rw [query_toOperation hmodel, filters.unassigned, ColumnValues.columns, h]
    rfl
  have empty : values.isEmpty = true := by rw [ColumnValues.isEmpty, h, List.isEmpty_nil]
  rw [update, if_pos empty, pure_bind]
  exact if_pos (by rw [unassigned]; rfl)

/-- One statement is sent. If it takes effect, the answer is the number of rows that the database
tells. -/
def SendsOnce (statement : Statement) (after : Except MappingFault UInt64 × List Sent × σ) : Prop :=
  ∃ told, after.2.1 = [{ statement, completion := told }] ∧ ∀ affected, after.1 = .ok affected →
    ∃ completion, told = some completion ∧ affected = completion.affected

/-- An update of some rows is one statement. It assigns the values and what the enhancers that act
add, where the clauses and those of the scopes that are kept hold. -/
theorem sendsOnce_update (available : store.IsAvailable)
    (hmodel : model.IsBuiltOf store.recorded.now (scopes.map Scope.builtIn))
    (htable : model.schema.table ≠ "") {s : Selection ℓ}
    (filters : s.operation.query.Filters model.schema.table) {clauses : List (Clause Query)}
    {skipped : List String} (chosen : s.Chosen clauses skipped) {values : ColumnValues}
    (hne : values.entries ≠ []) (w : σ) :
    SendsOnce (store.dialect.assigning model.schema.table
        (values.entries ++ s.stamp model.schema values.columns (store.now.run w).1)
        (clauses ++ (s.keptScopes scopes).map Scope.clause))
      ((s.update model store.recorded values).run.run ([], w)) := by
  have query : (s.toOperation model store.recorded).query = s.operation.query :=
    query_toOperation hmodel s
  have heard : (s.toOperation model store.recorded).heard .preUpdate =
      (s.keptScopes scopes).map Scope.listener :=
    heard_preUpdate_of_chosen hmodel chosen
  have silent : (s.toOperation model store.recorded).heard .postUpdate = [] :=
    heard_eq_nil hmodel (chosen.silent .postUpdate) (by decide)
  have filled : ¬ values.isEmpty = true := by simpa [ColumnValues.isEmpty] using hne
  rw [update, if_neg filled]
  refine (ensures_adjustUpdate hmodel s values w).bindLift (R := fun result t =>
    SendsOnce _ (result, t)) (fun next => Ensures.of_and fun hnext => ?_) ([], w) rfl
  have some_entry : next.entries ≠ [] := by
    rw [hnext]
    exact List.append_ne_nil_of_left_ne_nil hne _
  dsimp only
  rw [runUpdate_of_scopes store heard silent (query ▸ filters) some_entry, if_neg htable, query,
    chosen.wheres, hnext]
  refine (ensures_send_once store _ _).mono fun result t outcome => ?_
  rcases outcome with ⟨told, sent, counted⟩ | ⟨-, unavailable, -⟩
  · exact ⟨told, sent, counted⟩
  · exact absurd available unavailable

/-- A restore of some rows is an update of those that are marked. -/
theorem restore_eq_update {column : String} (soft : model.schema.softDelete = some column)
    (s : Selection ℓ) :
    s.restore model store.recorded =
      (s.trashed column).update model store.recorded ⟨[(column, .null)]⟩ := by
  rw [restore, onlyTrashed, Model.softDeleteColumn, soft]
  rfl

/-- Leaving out the enhancer that hides marked rows leaves out the scopes of that name too. -/
theorem keptScopes_withTrashed (s : Selection ℓ) (scopes : List Scope) :
    s.withTrashed.keptScopes scopes =
      (s.keptScopes scopes).filter fun scope => scope.name != Enhancer.softDeletesName := by
  rw [keptScopes, keptScopes, List.filter_filter]
  refine List.filter_congr fun scope _ => ?_
  show (!(s.skipped ++ [Enhancer.softDeletesName]).contains scope.name) = _
  rw [List.contains_append, Bool.not_or, Bool.and_comm]
  simp [bne, Bool.beq_eq_decide_eq]

/-- It does not leave out the enhancer that keeps times. -/
theorem stamp_withTrashed (s : Selection ℓ) (schema : Schema) (columns : List String)
    (time : Instant) : s.withTrashed.stamp schema columns time = s.stamp schema columns time := by
  have other : (s.skipped ++ [Enhancer.softDeletesName]).contains Enhancer.timestampsName =
      s.skipped.contains Enhancer.timestampsName := by
    rw [List.contains_append]
    simp [Enhancer.softDeletesName, Enhancer.timestampsName]
  show (if (s.skipped ++ [Enhancer.softDeletesName]).contains _ then [] else _) = _
  rw [other, stamp]

/-- A restore of some rows is one statement. It assigns null to the mark and what the enhancers that
act add, where the clauses hold, the row is marked, and the clauses of the scopes hold that are kept
and do not have the name under which marked rows are hidden. -/
theorem sendsOnce_restore (available : store.IsAvailable)
    (hmodel : model.IsBuiltOf store.recorded.now (scopes.map Scope.builtIn))
    (htable : model.schema.table ≠ "") {column : String}
    (soft : model.schema.softDelete = some column) {s : Selection ℓ}
    (filters : s.operation.query.Filters model.schema.table) {clauses : List (Clause Query)}
    {skipped : List String} (chosen : s.Chosen clauses skipped) (w : σ) :
    SendsOnce (store.dialect.assigning model.schema.table
        ((column, .null) :: s.stamp model.schema [column] (store.now.run w).1)
        (clauses ++ ⟨.and, .nullCheck column true⟩ ::
          ((s.keptScopes scopes).filter fun scope =>
            scope.name != Enhancer.softDeletesName).map Scope.clause))
      ((s.restore model store.recorded).run.run ([], w)) := by
  have marked : s.choose model .onlyTrashed = .ok (s.trashed column) := by
    rw [choose, onlyTrashed, Model.softDeleteColumn, soft]
    rfl
  have chosen_marked := chosen.choice marked
  rw [Choice.clauses, soft] at chosen_marked
  have assigned : (⟨[(column, .null)]⟩ : ColumnValues).entries ≠ [] := List.cons_ne_nil _ _
  have restored := sendsOnce_update available hmodel htable (filters_choose filters rfl marked)
    chosen_marked assigned w
  rw [← restore_eq_update soft, List.append_assoc] at restored
  rw [← stamp_withTrashed s model.schema [column] (store.now.run w).1,
    ← keptScopes_withTrashed s scopes]
  exact restored

/-- Rows are not restored where none are marked. Nothing is sent then. -/
theorem restore_of_none (soft : model.schema.softDelete = none) (s : Selection ℓ) :
    s.restore model store.recorded = throw (.notSoftDeleting model.schema.table) := by
  rw [restore, Model.softDeleteColumn, soft]
  rfl

/-- **Updates and restores of chosen rows.** Take a model with scopes and a table, rows that a
caller chose by any conditions, and any names of enhancers that are left out, and let connections be
to be had. An update that assigns nothing is refused before anything is done, also where times are
kept. Any other update sends one statement: it assigns the values as they are and in their order,
and after them the time of the change, if times are kept, that enhancer is not left out and the
values do not have its column; its clauses are the caller's, and then one for every scope that is
not left out. A restore is refused where rows are not marked. Else it sends what an update sends
that sets the mark to null, with two differences. Between the caller's clauses and those of the
scopes stands the one that the row is marked, and scopes that have the name of the enhancer that
marks rows are left out. -/
theorem sends_one_assignment (available : store.IsAvailable)
    (hmodel : model.IsBuiltOf store.recorded.now (scopes.map Scope.builtIn))
    (htable : model.schema.table ≠ "") {choices : List Choice}
    (conditions : ∀ c ∈ choices, c.isCondition = true) {s : Selection ℓ}
    (hs : choices.foldlM (choose model) (ofModel model) = .ok s) (w : σ) :
    let chosen := choices.flatMap fun c => c.clauses model.schema
    let kept := s.keptScopes scopes
    let time := (store.now.run w).1
    let assigning := store.dialect.assigning model.schema.table
    (∀ values : ColumnValues, values.entries = [] →
        s.update model store.recorded values = throw (.query .emptyAssignment)) ∧
      (∀ values : ColumnValues, values.entries ≠ [] →
        SendsOnce (assigning (values.entries ++ s.stamp model.schema values.columns time)
            (chosen ++ kept.map Scope.clause))
          ((s.update model store.recorded values).run.run ([], w))) ∧
      (model.schema.softDelete = none →
        s.restore model store.recorded = throw (.notSoftDeleting model.schema.table)) ∧
      ∀ column, model.schema.softDelete = some column →
        SendsOnce (assigning ((column, .null) :: s.stamp model.schema [column] time)
            (chosen ++ ⟨.and, .nullCheck column true⟩ ::
              (kept.filter fun scope => scope.name != Enhancer.softDeletesName).map Scope.clause))
          ((s.restore model store.recorded).run.run ([], w)) := by
  intro chosen kept time assigning
  have fresh : (ofModel model : Selection ℓ).operation.query.Filters model.schema.table :=
    ⟨⟨rfl, rfl⟩, rfl, rfl⟩
  have filters := filters_choices conditions fresh hs
  have were_chosen : s.Chosen ([] ++ chosen) _ := (chosen_ofModel model).choices hs
  rw [List.nil_append] at were_chosen
  refine ⟨fun values h => ?_, fun values hne => ?_, fun none => ?_, fun column soft => ?_⟩
  · exact update_of_empty hmodel filters h
  · exact sendsOnce_update available hmodel htable filters were_chosen hne w
  · exact restore_of_none none s
  · exact sendsOnce_restore available hmodel htable soft filters were_chosen w

end Selection

end Assigning

section Naming

/-- A scope that has the name of the enhancer that marks rows. -/
def namesakeScope : Scope :=
  { name := Enhancer.softDeletesName, column := "branch_id", value := .int 3 }

/-- Documents of one tenant and one branch that are marked in place of being deleted. -/
def branchDocuments : Model (Journaled Unit) Empty FieldValues :=
  FieldModel.model
    { table := "docs", columns := [{ name := "id", primaryKey := true }],
      timestamps := some ⟨"created_at", "updated_at"⟩, softDelete := some "deleted_at" }
    [] ([ownedScope, namesakeScope].map fun scope =>
      scope.builtIn.enhancer (Store.obliging .mysql).recorded.now)

/-- The conditions for documents with some title or without a state. -/
def draftConditions : List Refinement :=
  [.where_ .and (.compare "title" .eq (.text "a")), .where_ .or (.compare "state" .eq .null)]

/-- The documents for which these hold. -/
def draftDocuments : Selection Empty :=
  (Selection.ofModel branchDocuments).filter fun op => op.mapQuery fun q =>
    q.refineEach draftConditions

/-- An update of these documents keeps to both scopes, and a restore to the one that is named
otherwise than the enhancer that marks rows. -/
theorem Selection.sends_one_assignment_draftDocuments :
    SendsOnce {
        kind := some .update
        sql := "UPDATE `docs` SET `title` = ?, `updated_at` = ? WHERE `title` = ? " ++
          "OR `state` IS NULL AND `tenant_id` = ? AND `branch_id` = ?"
        bindings := [.text "b", .timestamp default, .text "a", .int 7, .int 3]
        written := ["title", "updated_at"] }
      ((draftDocuments.update branchDocuments (Store.obliging .mysql).recorded
        ⟨[("title", .text "b")]⟩).run.run ([], ())) ∧
    SendsOnce {
        kind := some .update
        sql := "UPDATE `docs` SET `deleted_at` = ?, `updated_at` = ? WHERE `title` = ? " ++
          "OR `state` IS NULL AND `deleted_at` IS NOT NULL AND `tenant_id` = ?"
        bindings := [.null, .timestamp default, .text "a", .int 7]
        written := ["deleted_at", "updated_at"] }
      ((draftDocuments.restore branchDocuments (Store.obliging .mysql).recorded).run.run
        ([], ())) := by
  have available : (Store.obliging .mysql).IsAvailable := fun _ => rfl
  have hmodel : branchDocuments.IsBuiltOf (Store.obliging .mysql).recorded.now
      ([ownedScope, namesakeScope].map Scope.builtIn) := rfl
  have conditions : ∀ c ∈ [Choice.filter draftConditions], c.isCondition = true := by decide
  have chosen : [Choice.filter draftConditions].foldlM (Selection.choose branchDocuments)
      (Selection.ofModel branchDocuments) = .ok draftDocuments := rfl
  obtain ⟨-, updates, -, restores⟩ := Selection.sends_one_assignment available hmodel (by decide)
    conditions chosen ()
  exact ⟨updates ⟨[("title", .text "b")]⟩ (List.cons_ne_nil _ _), restores "deleted_at" rfl⟩

/-- No scope is left out of the documents, but a restore of them does not keep to all scopes: of
the rows that are marked, it restores those of every branch. -/
theorem Selection.restores_outside_scope :
    let s := draftDocuments
    let restored := (s.restore branchDocuments (Store.obliging .mysql).recorded).run.run ([], ())
    s.skipped = [] ∧
      ¬ SendsOnce (Dialect.mysql.assigning "docs"
          [("deleted_at", .null), ("updated_at", .timestamp default)]
          (s.operation.query.wheres ++ ⟨.and, .nullCheck "deleted_at" true⟩ ::
            [ownedScope, namesakeScope].map Scope.clause)) restored ∧
      restored.2.1.map (fun sent => sent.statement.bindings) =
        [[.null, .timestamp default, .text "a", .int 7]] := by
  intro s restored
  have bound : restored.2.1.map (fun sent => sent.statement.bindings) =
      [[.null, .timestamp default, .text "a", .int 7]] := by rfl
  refine ⟨rfl, ?_, bound⟩
  rintro ⟨told, sent, -⟩
  rw [sent] at bound
  have same : [Value.null, .timestamp default, .text "a", .int 7, .int 3] =
      [.null, .timestamp default, .text "a", .int 7] := List.head_eq_of_cons_eq bound
  cases same

end Naming

end SqlMapper
