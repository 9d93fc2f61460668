import SqlMapper.Proofs.Filter.Deletion
import SqlMapper.Proofs.Filter.Reading
import SqlMapper.Proofs.Records.Mirror

/-!
# What an update of a record sends

An update of a record assigns what differs from its snapshot and, where times are kept, the time of
the change, unless that column differs itself. It is for the row with the key of the snapshot, and
the scopes of the model restrict it further (`Record.updating`). `Record.ensures_update` says that
this is all that is sent, and what stands in the way of sending it. So a save of an old record
writes its changes to its own row, or finds that there are none: `Record.sends_changes`.
-/

namespace SqlMapper

/-- What an update that assigns some columns assigns besides: the time of the change, unless the
column for it is one of them. -/
def Schema.stamp (schema : Schema) (columns : List String) (time : Instant) :
    List (String × Value) :=
  match schema.timestamps with
  | some kept => if kept.updated ∈ columns then [] else [(kept.updated, .timestamp time)]
  | none => []

/-- The clauses of a statement that is for one row: its key, and the restrictions of the scopes. -/
def Schema.rowClauses (schema : Schema) (key : Value) (scopes : List Scope) :
    List (Clause Query) :=
  ⟨.and, .compare schema.primaryKey .eq key⟩ :: scopes.map Scope.clause

/-- A row is selected for its key within all scopes. -/
theorem Schema.ofClauses_rowClauses (schema : Schema) (key : Value) (scopes : List Scope)
    (row : Predicate Query → Truth) :
    Truth.ofClauses row (schema.rowClauses key scopes) = .yes ↔
      row (.compare schema.primaryKey .eq key) = .yes ∧
        ∀ scope ∈ scopes, row (.comparison scope.column .eq scope.value) = .yes := by
  have joined : ∀ c ∈ (schema.rowClauses key scopes).tail, c.connector = .and := by
    intro c hc
    obtain ⟨scope, -, rfl⟩ := List.mem_map.1 hc
    rfl
  rw [Truth.ofClauses_eq_yes, alternatives_of_and joined]
  simp [rowClauses, Scope.clause]

/-! ## Enhancers of the library and updates -/

namespace BuiltIn

variable {ℓ : Type}

/-- The scope that an enhancer is, if it is one. -/
def scope? : BuiltIn → Option Scope
  | .scope name column value => some { name, column, value }
  | _ => none

/-- The listeners for the moment before an update are those of the scopes. -/
theorem listeners_preUpdate (schema : Schema) (bs : List BuiltIn) :
    bs.flatMap (fun b => (b.listeners schema .preUpdate : List (Listener ℓ))) =
      (bs.filterMap scope?).map Scope.listener := by
  induction bs with
  | nil => rfl
  | cons b rest ih =>
    rw [List.flatMap_cons, ih]
    cases b with
    | scope name column value => rfl
    | timestamps => rfl
    | softDeletes =>
      have silent : (softDeletes.listeners schema .preUpdate : List (Listener ℓ)) = [] := by
        cases hs : schema.softDelete <;> simp [listeners, hs]
      rw [silent]
      rfl

/-- The scopes among the enhancers of a model are those that it names. -/
theorem filterMap_scope?_all (schema : Schema) (named : List BuiltIn) :
    (all schema named).filterMap scope? = named.filterMap scope? := by
  rw [all, List.filterMap_append, List.filterMap_append]
  cases schema.timestamps <;> cases schema.softDelete <;> simp [scope?]

end BuiltIn

section Adjusting

variable {m : Type → Type} [Monad m] [LawfulMonad m] {ℓ : Type} (now : m Instant) (schema : Schema)

/-- Assignments that every enhancer leaves as they are stay so. -/
theorem adjustUpdate_of_left {es : List (Enhancer m ℓ)} {values : ColumnValues}
    (h : ∀ e ∈ es, e.onUpdate schema values = pure values) :
    adjustUpdate schema es values = pure values := by
  induction es with
  | nil => rfl
  | cons e rest ih =>
    rw [List.forall_mem_cons] at h
    rw [adjustUpdate, h.1, pure_bind, ih h.2]

/-- Assignments that have the time of the change, where times are kept, are adjusted no further. -/
theorem adjustUpdate_of_contains (bs : List BuiltIn) {values : ColumnValues}
    (h : ∀ kept, schema.timestamps = some kept → values.contains kept.updated = true) :
    adjustUpdate schema (bs.map fun b => (b.enhancer now : Enhancer m ℓ)) values = pure values := by
  refine adjustUpdate_of_left schema fun e he => ?_
  obtain ⟨b, -, rfl⟩ := List.mem_map.1 he
  cases b with
  | scope name column value => rfl
  | softDeletes => rfl
  | timestamps =>
    cases ht : schema.timestamps with
    | none => simp [BuiltIn.enhancer, Enhancer.timestamps, ht]
    | some kept => simp [BuiltIn.enhancer, Enhancer.timestamps, ht, h kept ht]

/-- The enhancers of the library adjust the assignments of an update as the first one that keeps
times does. -/
theorem adjustUpdate_builtIns (bs : List BuiltIn)
    (h : schema.timestamps.isSome = true → .timestamps ∈ bs) (values : ColumnValues) :
    adjustUpdate schema (bs.map fun b => (b.enhancer now : Enhancer m ℓ)) values =
      (Enhancer.timestamps now : Enhancer m ℓ).onUpdate schema values := by
  induction bs with
  | nil =>
    have untimed : schema.timestamps = none := Option.not_isSome_iff_eq_none.1 (by simpa using h)
    simp [adjustUpdate, Enhancer.timestamps, untimed]
  | cons b rest ih =>
    rw [List.map_cons, adjustUpdate]
    cases b with
    | scope name column value | softDeletes =>
      refine (pure_bind values _).trans (ih fun ht => ?_)
      exact (List.mem_cons.1 (h ht)).resolve_left fun heq => by cases heq
    | timestamps =>
      show ((Enhancer.timestamps now : Enhancer m ℓ).onUpdate schema values >>= fun values => _) = _
      cases ht : schema.timestamps with
      | none =>
        rw [Enhancer.timestamps]
        simp only [ht, pure_bind]
        exact adjustUpdate_of_contains now schema rest fun kept hkept => by
          rw [ht] at hkept
          cases hkept
      | some kept =>
        -- once the column for the time of the change is there, nothing is added
        have settled {next : ColumnValues} (hnext : next.contains kept.updated = true) :
            adjustUpdate schema (rest.map fun b => (b.enhancer now : Enhancer m ℓ)) next =
              pure next :=
          adjustUpdate_of_contains now schema rest fun other hother => by
            rw [ht] at hother
            cases hother
            exact hnext
        rw [Enhancer.timestamps]
        simp only [ht]
        cases hc : values.contains kept.updated with
        | true =>
          rw [if_pos rfl, pure_bind]
          exact settled hc
        | false =>
          rw [if_neg Bool.false_ne_true, bind_assoc]
          refine bind_congr fun time => ?_
          rw [pure_bind]
          exact settled (by rw [ColumnValues.contains, ColumnValues.get?_set_self]; rfl)

end Adjusting

/-- Where times are kept, the enhancers of a model keep them. -/
theorem BuiltIn.timestamps_mem_all {schema : Schema} (h : schema.timestamps.isSome = true)
    (named : List BuiltIn) : .timestamps ∈ all schema named := by
  simp [all, h]

/-- The enhancer that keeps times adds the time of the change to the assignments of an update,
unless its column is one of them. It leaves no trace on the journal. -/
theorem ensures_onUpdate_stamp {σ ℓ : Type} (now : StateM σ Instant) (schema : Schema)
    (values : ColumnValues) (w : σ) :
    Ensures (fun t => t = ([], w))
      ((Enhancer.timestamps (aside now) : Enhancer (Journaled σ) ℓ).onUpdate schema values)
      (fun next t => next.entries = values.entries ++ schema.stamp values.columns (now.run w).1 ∧
        t.1 = []) := by
  rw [Enhancer.timestamps, Schema.stamp]
  cases ht : schema.timestamps with
  | none =>
    simp only [ht, List.append_nil]
    exact Ensures.pure fun _ h => ⟨rfl, congrArg Prod.fst h⟩
  | some kept =>
    simp only [ht]
    by_cases present : kept.updated ∈ values.columns
    · rw [if_pos (ColumnValues.contains_iff.2 present), if_pos present]
      refine Ensures.pure fun _ h => ⟨(List.append_nil _).symm, congrArg Prod.fst h⟩
    · rw [if_neg (fun h => present (ColumnValues.contains_iff.1 h)), if_neg present]
      rintro _ rfl
      exact ⟨ColumnValues.entries_set_of_notMem present _, rfl⟩

/-- The enhancers of a model add the time of the change to the assignments of an update. They leave
no trace on the journal. -/
theorem ensures_adjustUpdate_stamp {σ ℓ : Type} (now : StateM σ Instant) (schema : Schema)
    (named : List BuiltIn) (values : ColumnValues) (w : σ) :
    Ensures (fun t => t = ([], w))
      (adjustUpdate schema ((BuiltIn.all schema named).map fun b =>
        (b.enhancer (aside now) : Enhancer (Journaled σ) ℓ)) values)
      (fun next t => next.entries = values.entries ++ schema.stamp values.columns (now.run w).1 ∧
        t.1 = []) := by
  rw [adjustUpdate_builtIns (aside now) schema _ fun h => BuiltIn.timestamps_mem_all h named]
  exact ensures_onUpdate_stamp now schema values w

/-! ## Updates of one row -/

section Sending

variable {σ ℓ α : Type} {store : Store (StateM σ) ℓ} {model : Model (Journaled σ) ℓ α}
  {named : List BuiltIn}

/-- The row of a model that has a key. -/
abbrev Selection.ofKey {m : Type → Type} (model : Model m ℓ α) (key : Value) : Selection ℓ :=
  (ofModel model).whereEq model.schema.primaryKey key

/-- The listeners for the moment before an update of the row with a key are those of the scopes. -/
theorem Selection.heard_preUpdate (hmodel : model.IsBuiltOf store.recorded.now named)
    (key : Value) :
    ((ofKey model key).toOperation model store.recorded).heard .preUpdate =
      (named.filterMap BuiltIn.scope?).map Scope.listener := by
  rw [heard_toOperation hmodel, listeners, builtIns]
  show [] ++ ((BuiltIn.all model.schema named).filter fun _ => true).flatMap _ = _
  rw [List.nil_append, List.filter_true, BuiltIn.listeners_preUpdate,
    BuiltIn.filterMap_scope?_all]

/-- The query for the row with a key filters the table of the model, and has one clause. -/
theorem Selection.filters_ofKey (model : Model (Journaled σ) ℓ α) {key : Value}
    (hkey : key.isNull = false) :
    (ofKey model key).operation.query.Filters model.schema.table ∧
      (ofKey model key).operation.query.wheres =
        [⟨.and, .compare model.schema.primaryKey .eq key⟩] := by
  have fresh : (Query.ofTable model.schema.table).Filters model.schema.table :=
    ⟨⟨rfl, rfl⟩, rfl, rfl⟩
  refine ⟨fresh.withClauses [⟨.and, .comparison model.schema.primaryKey .eq key⟩], ?_⟩
  show [] ++ [_] = _
  rw [Predicate.normalize_comparison, Predicate.comparison, hkey]
  rfl

/-- An update where the listeners are those of scopes is compiled with their clauses and sent, if
the query has a table. -/
theorem runUpdate_of_scopes (store : Store (StateM σ) ℓ) {op : Operation (Listener ℓ)}
    {table : String} {scopes : List Scope}
    (heard : op.heard .preUpdate = scopes.map Scope.listener) (silent : op.heard .postUpdate = [])
    (filters : op.query.Filters table) {values : ColumnValues} (hne : values.entries ≠ []) :
    store.recorded.executor.runUpdate op values =
      (if table = "" then throw (.query .missingTable)
      else do
        let completion ← store.recorded.executor.execute (store.dialect.assigning table
          values.entries (op.query.wheres ++ scopes.map Scope.clause))
        pure completion.affected) := by
  have restricts : ∀ l ∈ op.heard .preUpdate, l.restricts := by
    rw [heard]
    intro l hl
    obtain ⟨scope, -, rfl⟩ := List.mem_map.1 hl
    rfl
  have assigned :
      (op.mapQuery fun q => q.stageUpdate values).query.assignments.isEmpty = false := by
    simp [Operation.mapQuery, Query.stageUpdate, ColumnValues.columns, hne]
  have kept := filters.withClauses (scopes.map Scope.clause)
  have prepared : store.recorded.executor.prepare .update (op.mapQuery fun q =>
      (q.stageUpdate values).restrict (Listener.conditions (op.heard .preUpdate))) =
        if table = "" then throw (.query .missingTable)
        else pure (store.dialect.assigning table values.entries
          (op.query.wheres ++ scopes.map Scope.clause)) := by
    rw [Executor.prepare, heard, show store.recorded.executor.dialect = store.dialect from rfl]
    simp only [restrict_map_listener, Query.stageUpdate_withClauses, Operation.mapQuery]
    by_cases htable : table = ""
    · have untabled : ((op.query.withClauses (scopes.map Scope.clause)).stageUpdate values).table =
          "" := kept.table.trans htable
      rw [if_pos htable, Dialect.prepare_of_table_eq_empty untabled]
    · rw [if_neg htable, Dialect.prepare_assigning kept htable hne,
        Scope.wheres_withClauses_map_clause]
  rw [Executor.runUpdate, if_neg (by rw [assigned]; decide),
    Executor.runWrite_of_restricts store.recorded.hear_executor (op.mapQuery _) restricts silent]
  refine (congrArg (· >>= _) prepared).trans ?_
  by_cases htable : table = ""
  · rw [if_pos htable, if_pos htable]
    rfl
  · rw [if_neg htable, if_neg htable, pure_bind]

/-- An update of the row with a key is compiled with the restrictions of the scopes and sent, if the
model has a table. -/
theorem runUpdate_ofKey (hmodel : model.IsBuiltOf store.recorded.now named) {key : Value}
    (hkey : key.isNull = false) {values : ColumnValues} (hne : values.entries ≠ []) :
    store.recorded.executor.runUpdate
        ((Selection.ofKey model key).toOperation model store.recorded) values =
      (if model.schema.table = "" then throw (.query .missingTable)
      else do
        let completion ← store.recorded.executor.execute (store.dialect.assigning
          model.schema.table values.entries
            (model.schema.rowClauses key (named.filterMap BuiltIn.scope?)))
        pure completion.affected) := by
  obtain ⟨filters, wheres⟩ := Selection.filters_ofKey model hkey
  have query := Selection.query_toOperation hmodel (Selection.ofKey model key)
  have sent := runUpdate_of_scopes store (Selection.heard_preUpdate hmodel key)
    (Selection.heard_eq_nil hmodel rfl (by decide)) (query ▸ filters) hne
  rw [sent, query, wheres]
  rfl

end Sending

namespace Record

/-- What an update of a record assigns at a time: its changes, and the time if that is to be
kept. -/
def assigned {m : Type → Type} {ℓ α : Type} (model : Model m ℓ α) (r : Record α) (time : Instant) :
    List (String × Value) :=
  (r.snapshot.changes (r.attributes model)).entries ++
    model.schema.stamp (r.dirtyColumns model) time

/-- The statement that an update of a record sends, for the row with a key. -/
def updating {m : Type → Type} {ℓ α : Type} (model : Model m ℓ α) (r : Record α) (d : Dialect)
    (key : Value) (scopes : List Scope) (time : Instant) : Statement :=
  d.assigning model.schema.table (r.assigned model time) (model.schema.rowClauses key scopes)

/-- What can keep a statement that writes values of a record from being sent: there is no table, no
connection, or the datum refuses one of the values that it does not have. -/
inductive Hindered {σ ℓ α : Type} (model : Model (Journaled σ) ℓ α) (store : Store (StateM σ) ℓ)
    (r : Record α) (entries : List (String × Value)) : Prop
  | table (h : model.schema.table = "")
  | connection (h : ¬ store.IsAvailable)
  | refused {column : String} {value : Value} (mem : (column, value) ∈ entries)
      (differs : (r.attributes model).holds column value = false) {a : α} {fault : MappingFault}
      (h : model.setAttribute a column value = .error fault)
      (same : (model.attributes a).get? column = (r.attributes model).get? column)

section Updating

variable {σ ℓ α : Type} {store : Store (StateM σ) ℓ} {model : Model (Journaled σ) ℓ α}
  {columns : List String} {named : List BuiltIn}

/-- The key of a record is not null. -/
theorem isNull_of_key {m : Type → Type} {model : Model m ℓ α} {r : Record α} {key : Value}
    (h : r.key model = .ok key) : key.isNull = false := by
  unfold Record.key at h
  dsimp only at h
  split at h
  · split at h
    · cases h
    · next hnull =>
      cases h
      exact Bool.not_eq_true _ ▸ hnull
  · cases h

/-- The columns that an update of a record assigns are distinct. -/
theorem nodup_assigned (h : model.Separate) (r : Record α) (time : Instant) :
    ((r.assigned model time).map Prod.fst).Nodup := by
  have dirty : (r.dirtyColumns model).Nodup := ColumnValues.nodup_columns_filter (h.nodup r.model) _
  rw [assigned, List.map_append]
  show (r.dirtyColumns model ++ _).Nodup
  rw [Schema.stamp]
  split
  · next kept _ =>
    split
    · rwa [List.map_nil, List.append_nil]
    · next clean =>
      refine List.nodup_append.2
        ⟨dirty, List.pairwise_singleton _ _, fun column hcolumn last hlast => ?_⟩
      obtain rfl : last = kept.updated := List.mem_singleton.1 hlast
      rintro rfl
      exact clean hcolumn
  · rwa [List.map_nil, List.append_nil]

/-- If the values that are to be written cannot all be set in the datum, that stands in the way. -/
theorem hindered_of_sync (h : model.Separate) {r next : Record α} {values : ColumnValues}
    (hdistinct : (values.entries.map Prod.fst).Nodup) {fault : MappingFault}
    (hsync : r.sync model values = (.error fault, next)) :
    r.Hindered model store values.entries := by
  have stopped : (syncFrom model (r.attributes model) values.entries r.model).1 = .error fault :=
    congrArg Prod.fst hsync
  obtain ⟨⟨column, value⟩, mem, differs, a, refused, same⟩ :=
    exists_refused_of_syncFrom h hdistinct (Prod.ext stopped rfl)
  exact .refused mem differs refused same

/-- Nothing stands in the way if there is a table, if connections are to be had, and if the values
that differ can be set. -/
theorem not_hindered (htable : model.schema.table ≠ "") (available : store.IsAvailable)
    {r : Record α} {entries : List (String × Value)}
    (settable : ∀ entry ∈ entries, (r.attributes model).holds entry.1 entry.2 = false → ∀ a,
      (model.attributes a).get? entry.1 = (r.attributes model).get? entry.1 →
        ∃ next, model.setAttribute a entry.1 entry.2 = .ok next) :
    ¬ r.Hindered model store entries := by
  intro hindered
  cases hindered with
  | table empty => exact htable empty
  | connection unavailable => exact unavailable available
  | @refused column value mem differs a fault refused same =>
    obtain ⟨next, hnext⟩ := settable (column, value) mem differs a same
    rw [refused] at hnext
    cases hnext

/-- What comes of an update of a record: its one statement is sent, or nothing is sent, there is a
fault, and the row is not known or something stands in the way. -/
def Updates {β : Type} (model : Model (Journaled σ) ℓ α) (store : Store (StateM σ) ℓ)
    (scopes : List Scope) (r : Record α) (time : Instant) (outcome : Except MappingFault β)
    (journal : List Sent) : Prop :=
  (∃ key told, r.key model = .ok key ∧ journal = [{
    statement := r.updating model store.dialect key scopes time
    completion := told }]) ∨
  (journal = [] ∧ (∃ fault, outcome = .error fault) ∧
    ((∃ fault, r.key model = .error fault) ∨ r.Hindered model store (r.assigned model time)))

/-- What comes of an update does not depend on what is made of its result, as long as a fault stays
one. -/
theorem Updates.congr {β γ : Type} {scopes : List Scope} {r : Record α} {time : Instant}
    {outcome : Except MappingFault β} {other : Except MappingFault γ} {journal : List Sent}
    (h : r.Updates model store scopes time outcome journal)
    (fails : ∀ fault, outcome = .error fault → ∃ fault, other = .error fault) :
    r.Updates model store scopes time other journal := by
  rcases h with sent | ⟨quiet, ⟨fault, failed⟩, hindered⟩
  · exact .inl sent
  · exact .inr ⟨quiet, fails fault failed, hindered⟩

/-- A record that an update leaves: it is what it was, or it was given what the update assigns. -/
def Adjusted (model : Model (Journaled σ) ℓ α) (r : Record α) (time : Instant) (next : Record α) :
    Prop :=
  next = r ∨ ∃ values : ColumnValues, values.entries = r.assigned model time ∧
    next = (r.sync model values).2

/-- What keeps an update of a record from being sent, whatever its setters do: the row is not known,
there is no table or no connection, or what is to be assigned cannot be set in the datum. -/
inductive Stopped (model : Model (Journaled σ) ℓ α) (store : Store (StateM σ) ℓ) (r : Record α)
    (time : Instant) : Prop
  | unknown {fault : MappingFault} (h : r.key model = .error fault)
  | table (h : model.schema.table = "")
  | connection (h : ¬ store.IsAvailable)
  | refused {values : ColumnValues} (assigns : values.entries = r.assigned model time)
      {fault : MappingFault} {next : Record α} (h : r.sync model values = (.error fault, next))

/-- An update of a record of which something differs from its snapshot sends one statement, or it
fails before that. Either way the record is given what is assigned, as far as it takes it. -/
theorem ensures_update_or_stop (hmodel : model.IsBuiltOf store.recorded.now named) {r : Record α}
    (dirty : r.dirtyColumns model ≠ []) (w : σ) :
    Ensures (fun t => t = ([], w)) (r.update model store.recorded) (fun result t =>
      ((∃ key told, r.key model = .ok key ∧ t.1 = [{
          statement := r.updating model store.dialect key (named.filterMap BuiltIn.scope?)
            (store.now.run w).1
          completion := told }]) ∨
        (t.1 = [] ∧ (∃ fault, result.1 = .error fault) ∧
          r.Stopped model store (store.now.run w).1)) ∧
      r.Adjusted model (store.now.run w).1 result.2) := by
  rw [update]
  cases hkey : r.key model with
  | error fault =>
    rintro _ rfl
    exact ⟨.inr ⟨rfl, ⟨fault, rfl⟩, .unknown hkey⟩, .inl rfl⟩
  | ok key =>
    dsimp only
    rw [hmodel.allEnhancers]
    refine (ensures_adjustUpdate_stamp store.now model.schema named _ w).bind fun values =>
      Ensures.of_and fun hvalues => ?_
    have some_entry : values.entries ≠ [] := by
      rw [hvalues]
      refine List.append_ne_nil_of_left_ne_nil (fun hnone => dirty ?_) _
      rw [dirtyColumns, Snapshot.dirtyColumns, ColumnValues.columns, hnone, List.map_nil]
    obtain ⟨⟨outcome, next⟩, hsync⟩ : ∃ synced, r.sync model values = synced := ⟨_, rfl⟩
    have adjusted : r.Adjusted model (store.now.run w).1 next :=
      .inr ⟨values, hvalues, (congrArg Prod.snd hsync).symm⟩
    rw [hsync]
    cases outcome with
    | error fault =>
      exact Ensures.pure fun _ quiet =>
        ⟨.inr ⟨quiet, ⟨fault, rfl⟩, .refused hvalues hsync⟩, adjusted⟩
    | ok _ =>
      dsimp only
      rw [runUpdate_ofKey hmodel (isNull_of_key hkey) some_entry]
      by_cases htable : model.schema.table = ""
      · rw [if_pos htable]
        exact Ensures.pure fun _ quiet => ⟨.inr ⟨quiet, ⟨_, rfl⟩, .table htable⟩, adjusted⟩
      · rw [if_neg htable, hvalues]
        refine (ensures_send_once store _ _).bind fun result => ?_
        cases result with
        | ok affected =>
          refine Ensures.pure fun _ outcome => ?_
          rcases outcome with ⟨told, sent, -⟩ | ⟨-, -, _, failed⟩
          · exact ⟨.inl ⟨key, told, rfl, sent⟩, adjusted⟩
          · cases failed
        | error fault =>
          refine Ensures.pure fun _ outcome => ?_
          rcases outcome with ⟨told, sent, -⟩ | ⟨quiet, unavailable, -⟩
          · exact ⟨.inl ⟨key, told, rfl, sent⟩, adjusted⟩
          · exact ⟨.inr ⟨quiet, ⟨fault, rfl⟩, .connection unavailable⟩, adjusted⟩

/-- With separate attributes, something stands in the way of an update that is not sent. -/
theorem Stopped.hindered (h : model.Separate) {r : Record α} {time : Instant}
    (stopped : r.Stopped model store time) :
    (∃ fault, r.key model = .error fault) ∨ r.Hindered model store (r.assigned model time) := by
  cases stopped with
  | unknown hkey => exact .inl ⟨_, hkey⟩
  | table htable => exact .inr (.table htable)
  | connection unavailable => exact .inr (.connection unavailable)
  | refused assigns hsync =>
    rw [← assigns]
    exact .inr (hindered_of_sync h (assigns ▸ nodup_assigned h r time) hsync)

/-- An update of a record of which something differs from its snapshot sends one statement, unless
something stands in the way. Before that the record is given what is assigned. -/
theorem ensures_update (hmodel : model.IsBuiltOf store.recorded.now named)
    (h : model.Separate) {r : Record α} (dirty : r.dirtyColumns model ≠ []) (w : σ) :
    Ensures (fun t => t = ([], w)) (r.update model store.recorded) (fun result t =>
      r.Updates model store (named.filterMap BuiltIn.scope?) (store.now.run w).1 result.1 t.1 ∧
        r.Adjusted model (store.now.run w).1 result.2) := by
  refine (ensures_update_or_stop hmodel dirty w).mono fun result t outcome => ?_
  obtain ⟨sent | ⟨quiet, failed, stopped⟩, adjusted⟩ := outcome
  · exact ⟨.inl sent, adjusted⟩
  · exact ⟨.inr ⟨quiet, failed, stopped.hindered h⟩, adjusted⟩

/-- A record that holds what its row does is not written, and nothing is done for it. -/
theorem persist_of_clean {m : Type → Type} [Monad m] {model : Model m ℓ α} (store : Store m ℓ)
    {r : Record α} (stored : r.isStored = true) (clean : r.dirtyColumns model = []) :
    r.persist model store = pure (.ok false, r) := by
  have same : r.isDirty model = false := by
    show (!(r.dirtyColumns model).isEmpty) = false
    rw [clean]
    rfl
  rw [persist, stored, same]
  rfl

/-- A record with a row is updated if something differs. -/
theorem persist_of_dirty {m : Type → Type} [Monad m] {model : Model m ℓ α} (store : Store m ℓ)
    {r : Record α} (stored : r.isStored = true) (dirty : r.dirtyColumns model ≠ []) :
    r.persist model store = (do
      match ← r.update model store with
      | (.error fault, r) => pure (.error fault, r)
      | (.ok (), r) => pure (.ok true, r.written model)) := by
  have differs : r.isDirty model = true := by
    show (!(r.dirtyColumns model).isEmpty) = true
    simpa using dirty
  rw [persist, stored, differs]
  rfl

/-- Writing an old record of which something differs is an update. -/
theorem ensures_persist (hmodel : model.IsBuiltOf store.recorded.now named)
    (h : model.Separate) {r : Record α} (stored : r.isStored = true)
    (dirty : r.dirtyColumns model ≠ []) (w : σ) :
    Ensures (fun t => t = ([], w)) (r.persist model store.recorded) (fun result t =>
      r.Updates model store (named.filterMap BuiltIn.scope?) (store.now.run w).1 result.1 t.1) := by
  rw [persist_of_dirty _ stored dirty]
  refine (ensures_update hmodel h dirty w).bind fun result => ?_
  obtain ⟨outcome, next⟩ := result
  cases outcome with
  | error fault => exact Ensures.pure fun _ ⟨sent, _⟩ => sent.congr fun _ _ => ⟨fault, rfl⟩
  | ok _ => exact Ensures.pure fun _ ⟨sent, _⟩ => sent.congr nofun

/-- Putting attributes back after a fault does not change what came of an update. -/
theorem ensures_save (hmodel : model.IsBuiltOf store.recorded.now named)
    (h : model.Separate) {r : Record α} (stored : r.isStored = true)
    (dirty : r.dirtyColumns model ≠ []) (w : σ) :
    Ensures (fun t => t = ([], w)) (r.save model store.recorded) (fun result t =>
      r.Updates model store (named.filterMap BuiltIn.scope?) (store.now.run w).1 result.1 t.1) := by
  refine (ensures_persist hmodel h stored dirty w).bind fun result => ?_
  obtain ⟨outcome, next⟩ := result
  cases outcome with
  | error fault => exact Ensures.pure fun _ sent => sent
  | ok _ => exact Ensures.pure fun _ sent => sent

/-- The NaNs among the attributes can be set again. No comparison tells that they are unchanged, so
a write sets them. -/
def RetakesNaNs {m : Type → Type} (model : Model m ℓ α) (r : Record α) : Prop :=
  ∀ column value a, (r.attributes model).get? column = some value → value.isNaN = true →
    (model.attributes a).get? column = some value →
    ∃ next, model.setAttribute a column value = .ok next

/-- If a value is refused that an update is to set, then it is the time of the change, or a NaN that
an attribute holds. -/
theorem retakes_of_refused (h : model.Separate) {r : Record α} {time : Instant}
    {column : String} {value : Value} (assigned : (column, value) ∈ r.assigned model time)
    (differs : (r.attributes model).holds column value = false) :
    ((r.attributes model).get? column = some value ∧ value.isNaN = true) ∨
      ∃ kept, model.schema.timestamps = some kept ∧ column = kept.updated ∧
        value = .timestamp time := by
  rcases List.mem_append.1 assigned with change | stamped
  · have held := ColumnValues.get?_of_mem (h.nodup r.model) (List.mem_filter.1 change).1
    rw [ColumnValues.holds] at differs
    have held : (r.attributes model).get? column = some value := held
    rw [held] at differs
    refine .inl ⟨held, ?_⟩
    simpa [Value.equals_self] using differs
  · rw [Schema.stamp] at stamped
    split at stamped
    · next kept hkept =>
      split at stamped
      · cases stamped
      · cases List.mem_singleton.1 stamped
        exact .inr ⟨kept, hkept, rfl, rfl⟩
    · cases stamped

/-- **A save of an old record writes its changes to its own row.** Let connections be to be had, let
the enhancers be those of the library, in any number and order, and let the model have a table and
setters that change no other attribute and take the time of the change. If no attribute differs from
the snapshot, a save does nothing and tells so. If some do, it sends exactly one statement: an
update that assigns the attributes that differ, in their order and with their present values, and
after them the time of the change if times are kept and its column does not differ itself. Only a
datum that refuses a NaN that it holds can prevent that; then the save fails. The clauses select
exactly the rows within all scopes whose key is that of the snapshot, whatever the key is now. -/
theorem sends_changes (available : store.IsAvailable)
    (hmodel : model.IsBuiltOf store.recorded.now named) (h : model.Framed columns)
    (stampable : ∀ kept, model.schema.timestamps = some kept → ∀ a time, ∃ next,
      model.setAttribute a kept.updated (.timestamp time) = .ok next)
    (htable : model.schema.table ≠ "") {r : Record α} (stored : r.isStored = true) {key : Value}
    (hkey : r.snapshot.recorded? model.schema.primaryKey = some key) (hnull : key.isNull = false)
    (w : σ) :
    let time := (store.now.run w).1
    let scopes := named.filterMap BuiltIn.scope?
    let changes := r.snapshot.changes (r.attributes model)
    let clauses := model.schema.rowClauses key scopes
    let statement := store.dialect.assigning model.schema.table
      (changes.entries ++ model.schema.stamp (r.dirtyColumns model) time) clauses
    let after := (r.save model store.recorded).run ([], w)
    (r.dirtyColumns model = [] → r.save model store.recorded = pure (.ok false, r)) ∧
      (r.dirtyColumns model ≠ [] →
        (∃ completion, after.2.1 = [{ statement, completion }]) ∨
          (after.2.1 = [] ∧ (∃ fault, after.1.1 = .error fault) ∧ ¬ r.RetakesNaNs model)) ∧
      (changes.columns = r.dirtyColumns model ∧ ∀ column value, (column, value) ∈ changes.entries →
        (r.attributes model).get? column = some value) ∧
      ∀ row : Predicate Query → Truth, Truth.ofClauses row clauses = .yes ↔
        row (.compare model.schema.primaryKey .eq key) = .yes ∧
          ∀ scope ∈ scopes, row (.comparison scope.column .eq scope.value) = .yes := by
  have own_key : r.key model = .ok key := by
    rw [Record.key, hkey]
    simp [hnull]
  refine ⟨fun clean => ?_, fun dirty => ?_, ⟨rfl, fun column value change => ?_⟩,
    model.schema.ofClauses_rowClauses key _⟩
  · rw [save, persist_of_clean store.recorded stored clean]
    rfl
  · have outcome := ensures_save hmodel h.separate stored dirty w ([], w) rfl
    rcases outcome with ⟨other, told, hother, sent⟩ | ⟨quiet, failure, hindered⟩
    · obtain rfl : other = key := Except.ok.inj (hother.symm.trans own_key)
      exact .inl ⟨told, sent⟩
    · refine .inr ⟨quiet, failure, fun retakes => ?_⟩
      rcases hindered with ⟨fault, failed⟩ | hindered
      · rw [own_key] at failed
        cases failed
      · refine absurd hindered (not_hindered htable available fun entry mem differs a same => ?_)
        obtain ⟨column, value⟩ := entry
        rcases retakes_of_refused h.separate mem differs with ⟨held, nan⟩ | ⟨kept, hkept, rfl, rfl⟩
        · exact retakes column value a held nan (same.trans held)
        · exact stampable kept hkept a _
  · exact ColumnValues.get?_of_mem (h.nodup r.model) (List.mem_filter.1 change).1

end Updating

end Record

/-- Documents with a title and the time of their last change. -/
def timedDocs : Schema where
  table := "docs"
  columns := [{ name := "id", primaryKey := true }, { name := "title" }, { name := "updated_at" }]
  timestamps := some { created := "created_at", updated := "updated_at" }

/-- A document that was given another key and another title since it was read. -/
def editedDoc : Record (String → Value) where
  model column := if column = "id" then .int 9 else if column = "title" then .text "b" else .null
  snapshot := ⟨⟨[("id", .int 5), ("title", .text "a"), ("updated_at", .null)]⟩⟩
  isStored := true

/-- The update that a save of the document sends. -/
def editedDocUpdate : Statement where
  kind := some .update
  sql := "UPDATE `docs` SET `id` = ?, `title` = ?, `updated_at` = ? " ++
    "WHERE `id` = ? AND `tenant_id` = ?"
  bindings := [.int 9, .text "b", .timestamp default, .int 5, .int 7]
  written := ["id", "title", "updated_at"]

/-- The document is found by the key that it was read with, among those of its tenant. -/
theorem Record.sends_changes_editedDoc :
    let store := Store.obliging .mysql
    let model := timedDocs.freeModel [Enhancer.columnScope "tenant" "tenant_id" (.int 7)]
    editedDoc.dirtyColumns model ≠ [] ∧ ∃ completion,
      ((editedDoc.save model store.recorded).run ([], ())).2.1 =
        [{ statement := editedDocUpdate, completion }] := by
  intro store model
  have dirty : editedDoc.dirtyColumns model ≠ [] := by decide +kernel
  have stampable : ∀ kept, model.schema.timestamps = some kept → ∀ a time, ∃ next,
      model.setAttribute a kept.updated (.timestamp time) = .ok next := by
    rintro _ ⟨⟩ a time
    exact timedDocs.exists_setAttribute_freeModel _ (by decide) a _
  have retakes : editedDoc.RetakesNaNs model := fun column value a held _ _ =>
    timedDocs.exists_setAttribute_freeModel _
      (timedDocs.columns_freeModel _ _ ▸ ColumnValues.mem_columns_of_get? held) a value
  have hmodel : model.IsBuiltOf store.recorded.now [.scope "tenant" "tenant_id" (.int 7)] := rfl
  have framed := (timedDocs.faithful_freeModel (m := Journaled Unit) (ℓ := Empty)
    [Enhancer.columnScope "tenant" "tenant_id" (.int 7)] (by decide)).toFramed
  have available : store.IsAvailable := fun _ => rfl
  have own : editedDoc.snapshot.recorded? model.schema.primaryKey = some (.int 5) := by rfl
  have statement : editedDoc.updating model .mysql (.int 5)
      [{ name := "tenant", column := "tenant_id", value := .int 7 }] default = editedDocUpdate := by
    decide +kernel
  obtain ⟨-, sends, -⟩ := Record.sends_changes available hmodel framed stampable (by decide)
    (r := editedDoc) rfl own rfl ()
  rcases sends dirty with ⟨completion, sent⟩ | ⟨-, -, refuses⟩
  · exact ⟨dirty, completion, statement ▸ sent⟩
  · exact absurd retakes refuses

end SqlMapper
