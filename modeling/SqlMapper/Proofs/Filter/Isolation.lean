import SqlMapper.Entity.FieldModel
import SqlMapper.Entity.Record
import SqlMapper.Proofs.Filter.Choice
import SqlMapper.Proofs.Filter.Reading
import SqlMapper.Proofs.Run.Journal

/-!
# Whether restrictions restrict

The mapping adds conditions to what a caller chose: scopes, the hiding of marked rows, the key that
is looked for. They are added at the end and with `AND`. `Request.isolated_iff` says of every
statement that a request sends which clauses it has, and for each clause added with `AND` exactly
when it holds of the rows that are selected: if it holds whenever one of the alternatives that it
does not join does. A caller's filter with an `OR` leaves such alternatives, and their rows are
selected whatever is added (`Request.escapes_scope`).
-/

namespace SqlMapper

/-- What a caller asks of the rows it chose. -/
inductive Request where
  /-- The records of all rows. -/
  | get
  /-- The record of the first row. -/
  | first
  /-- The record with a key. -/
  | find (key : Value)
  /-- Whether there are any rows. -/
  | anyRows
  /-- Values to be assigned in all rows. -/
  | update (values : ColumnValues)
  /-- That all rows be deleted, or marked. -/
  | delete
  /-- That the mark be taken off all marked rows. -/
  | restore
deriving Inhabited

/-- A statement compiled from a query with the given conditions on rows. -/
def CompiledWith (d : Dialect) (wheres : List (Clause Query)) (statement : Statement) : Prop :=
  ∃ kind q, d.prepare kind q = .ok statement ∧ q.wheres = wheres

namespace Request

section Performing

variable {m : Type → Type} [Monad m] {ℓ α : Type}

/-- Carries out a request. -/
def perform (model : Model m ℓ α) (store : Store m ℓ) (s : Selection ℓ) : Request → m Unit
  | .get => discard (s.get model store).run
  | .first => discard (s.first model store).run
  | .find key => discard (s.find model store key).run
  | .anyRows => discard (s.anyRows model store).run
  | .update values => discard (s.update model store values).run
  | .delete => discard (s.delete model store).run
  | .restore => discard (s.restore model store).run

/-- The moment before the statement of a request. -/
def moment : Request → EventKind
  | .get | .first | .find _ | .anyRows => .preSelect
  | .update _ | .restore => .preUpdate
  | .delete => .preDelete

/-- The selection that a request acts on, as far as enhancers are concerned. -/
def onto (s : Selection ℓ) : Request → Selection ℓ
  | .restore => s.withTrashed
  | _ => s

/-- The clauses that a request adds itself. -/
def clauses (schema : Schema) : Request → List (Clause Query)
  | .find key => [⟨.and, .comparison schema.primaryKey .eq key⟩]
  | .restore => Choice.onlyTrashed.clauses schema
  | _ => []

/-- The conditions that enhancers add to a request on a selection. -/
def conditions (schema : Schema) (named : List BuiltIn) (s : Selection ℓ) (request : Request) :
    List (Predicate Query) :=
  Listener.conditions ((request.onto s).listeners schema named request.moment)

/-- The clauses that are added to the caller's choices: what the request adds itself, then what
enhancers add. -/
def added (schema : Schema) (named : List BuiltIn) (s : Selection ℓ) (request : Request) :
    List (Clause Query) :=
  request.clauses schema ++ (request.conditions schema named s).map (fun p => ⟨.and, p⟩)

/-- All clauses of the statement of a request. -/
def finalClauses (schema : Schema) (named : List BuiltIn) (choices : List Choice) (s : Selection ℓ)
    (request : Request) : List (Clause Query) :=
  choices.flatMap (fun choice => choice.clauses schema) ++ request.added schema named s

/-- What is added is added with `AND`. -/
theorem connector_of_mem_added (schema : Schema) (named : List BuiltIn) (s : Selection ℓ)
    (request : Request) : ∀ c ∈ request.added schema named s, c.connector = .and := by
  intro c hc
  rcases List.mem_append.1 hc with hc | hc
  · cases request with
    | find key =>
      obtain rfl := List.mem_singleton.1 hc
      rfl
    | restore =>
      obtain ⟨column, _, rfl⟩ := List.mem_map.1 hc
      rfl
    | _ => cases hc
  · obtain ⟨p, _, rfl⟩ := List.mem_map.1 hc
    rfl

/-- Every scope that is not left out adds its condition to every request, unless the model names an
enhancer that marks rows besides the one the schema asks for. -/
theorem scope_mem_added {schema : Schema} {named : List BuiltIn} (hnamed : .softDeletes ∉ named)
    {s : Selection ℓ} {request : Request} {name column : String} {value : Value}
    (h : .scope name column value ∈ (request.onto s).builtIns schema named) :
    ⟨.and, .comparison column .eq value⟩ ∈ request.added schema named s := by
  have hkind : request.moment ∈ [EventKind.preSelect, .preUpdate, .preDelete] := by
    cases request <;> simp [moment]
  have timestamps : ∀ b ∈ (if schema.timestamps.isSome then [BuiltIn.timestamps] else []),
      b = BuiltIn.timestamps := by
    split <;> simp
  have marking : ∀ b ∈ (if schema.softDelete.isSome then [BuiltIn.softDeletes] else []),
      b = BuiltIn.softDeletes := by
    split <;> simp
  rw [Selection.builtIns, BuiltIn.all, List.filter_append] at h
  have hscope := (List.mem_append.1 h).resolve_right fun hlast => by
    cases marking _ (List.mem_filter.1 hlast).1
  refine List.mem_append_right _ (List.mem_map.2 ⟨_, ?_, rfl⟩)
  rw [conditions, Selection.listeners, Selection.builtIns, BuiltIn.all, List.filter_append,
    List.flatMap_append]
  refine BuiltIn.scope_mem_conditions schema hkind (fun hmem => ?_) hscope _
  rcases List.mem_append.1 (List.mem_filter.1 hmem).1 with hmem | hmem
  · exact hnamed hmem
  · cases timestamps _ hmem

/-- The condition that rows are not marked is added to every request that reads or deletes, unless
it is left out. -/
theorem softDeletes_mem_added {schema : Schema} {column : String}
    (hschema : schema.softDelete = some column) {named : List BuiltIn} {s : Selection ℓ}
    {request : Request} (hkind : request.moment ∈ [EventKind.preSelect, .preDelete])
    (h : .softDeletes ∈ (request.onto s).builtIns schema named) :
    ⟨.and, .nullCheck column false⟩ ∈ request.added schema named s :=
  List.mem_append_right _ (List.mem_map.2
    ⟨_, BuiltIn.softDeletes_mem_conditions hschema hkind h, rfl⟩)

end Performing

section Sending

variable {σ ℓ α : Type} {store : Store (StateM σ) ℓ} {model : Model (Journaled σ) ℓ α}
  {named : List BuiltIn} {s : Selection ℓ}

/-- A query restricted by the conditions of listeners. -/
theorem wheres_restrict_conditions (q : Query) (ls : List (Listener ℓ)) :
    (q.restrict (Listener.conditions ls)).wheres =
      q.wheres ++ (Listener.conditions ls).map (fun p => ⟨.and, p⟩) := by
  rw [Query.wheres_restrict]
  congr 1
  exact List.map_congr_left fun p hp => by rw [Listener.normalize_conditions ls p hp]

/-- The listeners of an operation are those of its enhancers. -/
theorem heard_of_chosen (hmodel : model.IsBuiltOf store.recorded.now named)
    {chosen : List (Clause Query)} {skipped : List String} (hs : s.Chosen chosen skipped)
    (kind : EventKind) :
    (s.toOperation model store.recorded).heard kind = s.listeners model.schema named kind := by
  rw [Selection.heard_toOperation hmodel, hs.silent kind, List.nil_append]

/-- A statement that reads has the conditions of the enhancers at the end. -/
theorem sends_runRead (hmodel : model.IsBuiltOf store.recorded.now named)
    {chosen : List (Clause Query)} {skipped : List String} (hs : s.Chosen chosen skipped)
    (kind : StatementKind) :
    Sends (CompiledWith store.dialect (chosen ++
        (Listener.conditions (s.listeners model.schema named .preSelect)).map (fun p => ⟨.and, p⟩)))
      (store.recorded.executor.runRead kind (s.toOperation model store.recorded)).run := by
  have hpre := heard_of_chosen hmodel hs .preSelect
  have hpost := Selection.heard_eq_nil hmodel (hs.silent .postSelect) (by decide)
  have restricting := Selection.restricts_of_heard hmodel (hs.silent .preSelect) nofun
  rw [Executor.runRead_of_restricts store.recorded.hear_executor _ restricting hpost]
  refine Sends.prepare store fun statement hstatement => Sends.fetch store ⟨kind, _, hstatement, ?_⟩
  rw [hpre, Operation.mapQuery, wheres_restrict_conditions, Selection.query_toOperation hmodel,
    hs.wheres]

/-- A statement that updates has the conditions of the enhancers at the end. -/
theorem sends_runUpdate (hmodel : model.IsBuiltOf store.recorded.now named)
    {chosen : List (Clause Query)} {skipped : List String} (hs : s.Chosen chosen skipped)
    (values : ColumnValues) :
    Sends (CompiledWith store.dialect (chosen ++
        (Listener.conditions (s.listeners model.schema named .preUpdate)).map (fun p => ⟨.and, p⟩)))
      (store.recorded.executor.runUpdate (s.toOperation model store.recorded) values).run := by
  have hpre := heard_of_chosen hmodel hs .preUpdate
  have hpost := Selection.heard_eq_nil hmodel (hs.silent .postUpdate) (by decide)
  have restricting := Selection.restricts_of_heard hmodel (hs.silent .preUpdate) nofun
  unfold Executor.runUpdate
  dsimp only
  split
  · exact Sends.pure _
  · rw [Executor.runWrite_of_restricts store.recorded.hear_executor
      ((s.toOperation model store.recorded).mapQuery _) restricting hpost]
    refine Sends.prepare store fun statement hstatement => ?_
    refine Sends.bind (Sends.execute store ⟨.update, _, hstatement, ?_⟩) fun _ => Sends.pure _
    show ((Query.stageUpdate _ values).restrict _).wheres = _
    rw [show ((s.toOperation model store.recorded).mapQuery _).heard .preUpdate =
      s.listeners model.schema named .preUpdate from hpre, wheres_restrict_conditions,
      Selection.query_toOperation hmodel]
    exact congrArg (· ++ _) hs.wheres

/-- An update adjusts what it assigns, and has the conditions of the enhancers at the end. -/
theorem sends_update (hmodel : model.IsBuiltOf store.recorded.now named)
    {chosen : List (Clause Query)} {skipped : List String} (hs : s.Chosen chosen skipped)
    (values : ColumnValues) :
    Sends (CompiledWith store.dialect (chosen ++
        (Listener.conditions (s.listeners model.schema named .preUpdate)).map (fun p => ⟨.and, p⟩)))
      (s.update model store.recorded values).run := by
  unfold Selection.update
  split
  · exact sends_runUpdate hmodel hs values
  · rw [Selection.enhancers_eq hmodel]
    refine Sends.bindLift ?_ fun adjusted => sends_runUpdate hmodel hs adjusted
    exact (ensures_adjustUpdate
      (J := fun journal => ∀ sent ∈ journal, CompiledWith _ _ sent.statement)
      (V := fun _ => True) (fun _ _ _ _ => trivial) store.now model.schema
      (s.builtIns model.schema named) trivial).mono fun _ _ ht => ht.2

/-- A statement that deletes has the conditions of the enhancers at the end, and so has the update
that marks rows in its stead. -/
theorem sends_runDelete (hmodel : model.IsBuiltOf store.recorded.now named)
    {chosen : List (Clause Query)} {skipped : List String} (hs : s.Chosen chosen skipped) :
    Sends (CompiledWith store.dialect (chosen ++
        (Listener.conditions (s.listeners model.schema named .preDelete)).map (fun p => ⟨.and, p⟩)))
      (store.recorded.executor.runDelete (s.toOperation model store.recorded)).run := by
  have hpre := heard_of_chosen hmodel hs .preDelete
  have hpost := Selection.heard_eq_nil hmodel (hs.silent .postDelete) (by decide)
  have own : ∀ l ∈ s.listeners model.schema named .preDelete, l.isOwn :=
    BuiltIn.own_of_mem_listeners model.schema .preDelete _
  rcases Listener.restricts_or_marks own with restricting | ⟨before, column, updated, after, h, hb⟩
  · rw [← hpre] at restricting ⊢
    rw [Executor.runDelete, Executor.runWrite_of_restricts store.recorded.hear_executor _
      restricting hpost]
    refine Sends.prepare store fun statement hstatement => ?_
    refine Sends.bind (Sends.execute store ⟨.delete, _, hstatement, ?_⟩) fun _ => Sends.pure _
    rw [Operation.mapQuery, wheres_restrict_conditions, Selection.query_toOperation hmodel,
      hs.wheres]
  · rw [Executor.runDelete_of_marks store.recorded.hear_executor _ (hpre.trans h) hb hpost, h,
      Listener.conditions_append_marks hb]
    refine Sends.bindLift (Sends.aside store.now) fun time => ?_
    refine Sends.prepare store fun statement hstatement => ?_
    refine Sends.bind (Sends.execute store ⟨.update, _, hstatement, ?_⟩) fun _ => Sends.pure _
    show (Query.restrict _ _).wheres ++ [_] = _
    rw [wheres_restrict_conditions, Selection.query_toOperation hmodel, hs.wheres, List.map_append,
      List.append_assoc]
    rfl

/-- Taking the mark off rows is an update of the rows that are marked. -/
theorem sends_restore (hmodel : model.IsBuiltOf store.recorded.now named)
    {chosen : List (Clause Query)} {skipped : List String} (hs : s.Chosen chosen skipped) :
    Sends (CompiledWith store.dialect (chosen ++ Choice.onlyTrashed.clauses model.schema ++
        (Listener.conditions (s.withTrashed.listeners model.schema named .preUpdate)).map
          (fun p => ⟨.and, p⟩)))
      (s.restore model store.recorded).run := by
  unfold Selection.restore
  cases hc : model.softDeleteColumn with
  | error fault => exact Sends.pure _
  | ok column =>
    cases ht : s.onlyTrashed model with
    | error fault => exact Sends.pure _
    | ok trashed =>
      have marked := hs.choice (c := .onlyTrashed) ht
      obtain ⟨_, _, rfl⟩ := Selection.onlyTrashed_eq_ok ht
      exact sends_update hmodel marked (ColumnValues.empty.set column .null)

/-- The clauses of every statement that a request sends. -/
theorem sends_perform (hmodel : model.IsBuiltOf store.recorded.now named) {choices : List Choice}
    (hs : choices.foldlM (Selection.choose model) (Selection.ofModel model) = .ok s)
    (request : Request) :
    Sends (CompiledWith store.dialect (request.finalClauses model.schema named choices s))
      (request.perform model store.recorded s) := by
  have fresh : (Selection.ofModel model : Selection ℓ).Chosen [] [] :=
    Selection.chosen_ofModel model
  have chosen := fresh.choices hs
  rw [List.nil_append, List.nil_append] at chosen
  cases request with
  | get =>
    show Sends (CompiledWith store.dialect (_ ++ ([] ++ _))) _
    rw [List.nil_append]
    exact (Sends.bind (sends_runRead hmodel chosen .select) fun _ => Sends.pure _).discard
  | first =>
    show Sends (CompiledWith store.dialect (_ ++ ([] ++ _))) _
    rw [List.nil_append]
    have limited : (s.filter fun op => op.mapQuery fun q => { q with limit := some 1 }).Chosen
        (choices.flatMap fun choice => choice.clauses model.schema)
        (choices.flatMap Choice.skipped) := ⟨chosen.wheres, chosen.skipped, chosen.silent⟩
    have records := Sends.bind (sends_runRead hmodel limited .select) fun rows =>
      Sends.pure (Record.hydrateAll model rows)
    exact (Sends.bind records fun _ => Sends.pure _).discard
  | find key =>
    show Sends (CompiledWith store.dialect (_ ++ (_ ++ _))) _
    rw [← List.append_assoc]
    have found : ((s.whereEq model.schema.primaryKey key).filter fun op =>
          op.mapQuery fun q => { q with limit := some 1 }).Chosen
        (choices.flatMap (fun choice => choice.clauses model.schema) ++
          (Request.find key).clauses model.schema) (choices.flatMap Choice.skipped) :=
      { wheres := by
          rw [← chosen.wheres, clauses, ← Predicate.normalize_comparison]
          rfl
        skipped := chosen.skipped
        silent := chosen.silent }
    have records := Sends.bind (sends_runRead hmodel found .select) fun rows =>
      Sends.pure (Record.hydrateAll model rows)
    exact (Sends.bind records fun _ => Sends.pure _).discard
  | anyRows =>
    show Sends (CompiledWith store.dialect (_ ++ ([] ++ _))) _
    rw [List.nil_append]
    exact (Sends.bind (sends_runRead hmodel chosen .existence) fun _ => Sends.pure _).discard
  | update values =>
    show Sends (CompiledWith store.dialect (_ ++ ([] ++ _))) _
    rw [List.nil_append]
    exact (sends_update hmodel chosen values).discard
  | delete =>
    show Sends (CompiledWith store.dialect (_ ++ ([] ++ _))) _
    rw [List.nil_append]
    exact (sends_runDelete hmodel chosen).discard
  | restore =>
    show Sends (CompiledWith store.dialect (_ ++ (_ ++ _))) _
    rw [← List.append_assoc]
    exact (sends_restore hmodel chosen).discard

/-- **When restrictions restrict.** Every statement that a request sends has the clauses of the
caller's choices and then those that are added. Given the truth of all predicates for a row, an
added clause holds if the row is selected, if and only if it holds whenever one of the alternatives
of the choices before the last one does. For a clause that a choice has added with `AND`, the same
holds with the alternatives that it does not join. -/
theorem isolated_iff (hmodel : model.IsBuiltOf store.recorded.now named) {choices : List Choice}
    (hs : choices.foldlM (Selection.choose model) (Selection.ofModel model) = .ok s)
    (request : Request) (w : σ) {sent : Sent}
    (hsent : sent ∈ ((request.perform model store.recorded s).run ([], w)).2.1) :
    CompiledWith store.dialect (request.finalClauses model.schema named choices s) sent.statement ∧
      (∀ r, ⟨.and, r⟩ ∈ request.added model.schema named s → ∀ row : Predicate Query → Truth,
        ((Truth.ofClauses row (request.finalClauses model.schema named choices s) = .yes →
            row r = .yes) ↔
          ∀ run ∈ (alternatives (choices.flatMap fun c => c.clauses model.schema)).dropLast,
            (∀ p ∈ run, row p = .yes) → row r = .yes)) ∧
      ∀ before r after, request.finalClauses model.schema named choices s =
          before ++ ⟨.and, r⟩ :: after → ∀ row : Predicate Query → Truth,
        ((Truth.ofClauses row (request.finalClauses model.schema named choices s) = .yes →
            row r = .yes) ↔
          ∀ run ∈ rivals before after, (∀ p ∈ run, row p = .yes) → row r = .yes) := by
  refine ⟨sends_perform hmodel hs request ([], w) (by simp) sent hsent, ?_, ?_⟩
  · intro r hr row
    obtain ⟨before, after, h⟩ := List.append_of_mem hr
    have and_added := connector_of_mem_added model.schema named s request
    rw [h, List.forall_mem_append, List.forall_mem_cons] at and_added
    have final := Truth.yes_imp_iff row
      (choices.flatMap (fun c => c.clauses model.schema) ++ before) r after
    rw [rivals_of_and _ and_added.1 and_added.2.2, List.append_assoc, ← h] at final
    exact final
  · intro before r after h row
    rw [h]
    exact Truth.yes_imp_iff row before r after

end Sending

section Escaping

/-- The scope of the documents of one tenant. -/
def tenantScope : BuiltIn := .scope "tenant" "tenant_id" (.int 7)

/-- Documents, restricted to those of one tenant. -/
def documents : Model (Journaled Unit) Empty FieldValues :=
  FieldModel.model { table := "docs", columns := [{ name := "id", primaryKey := true }] } []
    [tenantScope.enhancer (Store.obliging .mysql).recorded.now]

/-- A filter for documents by one thing or another. -/
def eitherChoice : Choice :=
  .filter [.where_ .and (.compare "a" .eq (.int 1)), .where_ .or (.compare "b" .eq (.int 2))]

/-- The documents that the filter chooses. -/
def eitherDocuments : Selection Empty :=
  (Selection.ofModel documents).filter fun op => op.mapQuery fun q =>
    q.refineEach [.where_ .and (.compare "a" .eq (.int 1)), .where_ .or (.compare "b" .eq (.int 2))]

/-- The select that is sent for these documents. -/
def eitherSelect : Sent :=
  { statement := {
      kind := some .select
      sql := "SELECT * FROM `docs` WHERE `a` = ? OR `b` = ? AND `tenant_id` = ?"
      bindings := [.int 1, .int 2, .int 7] } }

/-- A row that meets both conditions of the filter, of another tenant. -/
def foreignRow (p : Predicate Query) : Truth :=
  if p.column = "tenant_id" then .no else .yes

/-- The scope does not restrict the documents of this filter to those of the tenant, since the first
alternative of the filter does not. -/
theorem isolated_eitherDocuments :
    (Truth.ofClauses foreignRow
        (get.finalClauses documents.schema [tenantScope] [eitherChoice] eitherDocuments) = .yes →
      foreignRow (.compare "tenant_id" .eq (.int 7)) = .yes) ↔
    ∀ run ∈ (alternatives ([eitherChoice].flatMap fun c => c.clauses documents.schema)).dropLast,
      (∀ p ∈ run, foreignRow p = .yes) → foreignRow (.compare "tenant_id" .eq (.int 7)) = .yes := by
  have sent : eitherSelect ∈
      ((get.perform documents (Store.obliging .mysql).recorded eitherDocuments).run ([], ())).2.1 :=
    List.mem_singleton.2 rfl
  have exact_condition := @isolated_iff Unit Empty FieldValues (Store.obliging .mysql) documents
    [tenantScope] eitherDocuments rfl [eitherChoice] rfl get () eitherSelect sent
  exact exact_condition.2.1 _ (List.mem_singleton.2 rfl) foreignRow

/-- A row of another tenant that meets the first alternative of the filter is selected. -/
theorem escapes_scope :
    ((get.perform documents (Store.obliging .mysql).recorded eitherDocuments).run ([], ())).2.1 =
        [eitherSelect] ∧
      ⟨.and, .compare "tenant_id" .eq (.int 7)⟩ ∈
        get.added documents.schema [tenantScope] eitherDocuments ∧
      Truth.ofClauses foreignRow
          (get.finalClauses documents.schema [tenantScope] [eitherChoice] eitherDocuments) = .yes ∧
      foreignRow (.compare "tenant_id" .eq (.int 7)) = .no := by
  refine ⟨rfl, List.mem_singleton.2 rfl, ?_, ?_⟩
  · rfl
  · rfl

end Escaping

end Request

end SqlMapper
