import SqlMapper.Proofs.Query.Staging
import SqlMapper.Proofs.Run.Journal
import SqlMapper.Proofs.Run.Keys
import SqlMapper.Proofs.Values.Columns

/-!
# Replaying a journal

The statements of a journal that took effect can be replayed on a row: an insert makes a new row of
the values it was sent with and of the key that the database counted up, an update assigns its
values in the row, and no other statement changes it. The main statements say what an executor does
to the replayed row: `ensures_runInsert`, `ensures_runUpdate` and `ensures_runDelete`. Each of them
leaves the row alone if it fails, but for an insert that dies of its keys, which has taken effect.
-/

namespace SqlMapper

/-- The column that the database counts up. -/
def Schema.generatedColumn? (schema : Schema) : Option String :=
  (schema.columns.find? (fun c => c.primaryKey && c.autoIncrement)).map (fun c => c.name)

/-- At most one column is part of the key. -/
def Schema.HasSingleKey (schema : Schema) : Prop :=
  (schema.columns.filter (fun c => c.primaryKey)).length ≤ 1

instance (schema : Schema) : Decidable schema.HasSingleKey :=
  inferInstanceAs (Decidable (_ ≤ 1))

namespace Schema

variable {schema : Schema}

/-- There is a column that the database counts up if the key is to be asked for. -/
theorem isSome_generatedColumn? (schema : Schema) :
    schema.generatedColumn?.isSome = schema.isAutoIncrement := by
  rw [generatedColumn?, Option.isSome_map, List.isSome_find?, isAutoIncrement]

/-- The only key column is the first one. -/
theorem HasSingleKey.find? (h : schema.HasSingleKey) {c : Column} (hc : c ∈ schema.columns)
    (hkey : c.primaryKey = true) : schema.columns.find? (fun c => c.primaryKey) = some c := by
  have kept : c ∈ schema.columns.filter (fun c => c.primaryKey) := List.mem_filter.2 ⟨hc, hkey⟩
  rw [← List.head?_filter]
  rw [HasSingleKey] at h
  generalize schema.columns.filter (fun c => c.primaryKey) = keys at h kept
  cases keys with
  | nil => cases kept
  | cons first rest =>
    obtain rfl : rest = [] := List.length_eq_zero_iff.1 (by simpa using h)
    rw [List.mem_singleton.1 kept]
    rfl

/-- The column that the database counts up is the key column. -/
theorem HasSingleKey.eq_primaryKey (h : schema.HasSingleKey) {column : String}
    (hcolumn : schema.generatedColumn? = some column) : column = schema.primaryKey := by
  obtain ⟨c, hfind, rfl⟩ := Option.map_eq_some_iff.1 hcolumn
  have counted := List.find?_some hfind
  rw [Bool.and_eq_true] at counted
  rw [primaryKey, h.find? (List.mem_of_find?_eq_some hfind) counted.1]

/-- A key column that is counted up is the column that the database counts up. -/
theorem HasSingleKey.generatedColumn?_eq_some (h : schema.HasSingleKey) {column : String}
    {c : Column} (hcolumn : schema.column? column = some c)
    (hcounted : (c.primaryKey && c.autoIncrement) = true) :
    schema.generatedColumn? = some column := by
  have hc : c ∈ schema.columns := List.mem_of_find?_eq_some hcolumn
  have hname : c.name = column := by simpa using List.find?_some hcolumn
  have exists_counted : schema.generatedColumn?.isSome = true := by
    rw [isSome_generatedColumn?, isAutoIncrement, List.any_eq_true]
    exact ⟨c, hc, hcounted⟩
  obtain ⟨generated, hgenerated⟩ := Option.isSome_iff_exists.1 exists_counted
  rw [Bool.and_eq_true] at hcounted
  rw [hgenerated, h.eq_primaryKey hgenerated, primaryKey, h.find? hc hcounted.1]
  exact congrArg some hname

end Schema

/-- The row of an insert, with the key that the database gave it. -/
def Schema.insertedRow (schema : Schema) (assigned : List (String × Value)) (key : Int64) :
    ColumnValues :=
  match schema.generatedColumn? with
  | some column => (ColumnValues.ofList assigned).set column (.int key)
  | none => .ofList assigned

/-- What a row becomes by a statement that took effect. -/
def Statement.effect (statement : Statement) (schema : Schema) (completion : Completion)
    (row : ColumnValues) : ColumnValues :=
  match statement.kind with
  | some .insert | some .insertMany => schema.insertedRow statement.assignments completion.lastRowId
  | some .update => row.setAll statement.assignments
  | _ => row

/-- What a row becomes by a statement of a journal: nothing else if the statement failed. -/
def Sent.effect (sent : Sent) (schema : Schema) (row : ColumnValues) : ColumnValues :=
  match sent.completion with
  | some completion => sent.statement.effect schema completion row
  | none => row

/-- What a row becomes by the statements of a journal, one after another. -/
def replay (schema : Schema) (start : ColumnValues) (journal : List Sent) : ColumnValues :=
  journal.foldl (fun row sent => sent.effect schema row) start

/-- The last statement of a journal acts on what those before it made of the row. -/
theorem replay_concat (schema : Schema) (start : ColumnValues) (journal : List Sent) (sent : Sent) :
    replay schema start (journal ++ [sent]) = sent.effect schema (replay schema start journal) := by
  rw [replay, List.foldl_append]
  rfl

/-- A prepared statement writes the staged columns with the values in front. -/
theorem Dialect.prepare_eq_ok {d : Dialect} {kind : StatementKind} {q : Query}
    {statement : Statement} (h : d.prepare kind q = .ok statement) :
    statement.kind = some kind ∧
      statement.assignments = (q.writtenColumns kind).zip (q.bindingsFor kind) := by
  unfold Dialect.prepare at h
  cases hc : d.compile kind q with
  | error fault =>
    rw [hc] at h
    cases h
  | ok sql =>
    rw [hc] at h
    cases h
    exact ⟨rfl, rfl⟩

/-- A query that had no staged rows writes the columns of the one row that is staged. -/
theorem Query.written_stageInsert {q next : Query} {values : ColumnValues}
    (h : q.stageInsert [values] = .ok next) (hunstaged : q.bindings.inserts = [])
    (hdistinct : values.columns.Nodup) :
    (next.writtenColumns .insert).zip (next.bindingsFor .insert) = values.entries := by
  obtain ⟨_, rfl⟩ := stageInsert_eq_ok h
  have hcells : cells [values] = values.values := by
    rw [cells, columnsOfFirst, List.flatMap_singleton]
    exact ColumnValues.filterMap_get?_columns hdistinct
  have hcolumns : (List.replicate 1 values.columns).flatten = values.columns := List.append_nil _
  have hvalues : StatementKind.insert.sections.flatMap
      (q.bindings.append .insert (cells [values])).valuesOf = values.values ++ [] := by
    show q.bindings.inserts ++ cells [values] ++ [] = _
    rw [hunstaged, hcells, List.nil_append]
  show ((List.replicate 1 values.columns).flatten).zip (StatementKind.insert.sections.flatMap
    (q.bindings.append .insert (cells [values])).valuesOf) = values.entries
  rw [hcolumns, hvalues, ColumnValues.zip_columns_values]

/-- A query that had no staged assignments writes those that are staged, whatever rows it is
restricted to. -/
theorem Query.written_stageUpdate {q : Query} (hassignments : q.assignments = [])
    (hupdates : q.bindings.updates = []) (values : ColumnValues)
    (conditions : List (Predicate Query)) :
    (((q.stageUpdate values).restrict conditions).writtenColumns .update).zip
      (((q.stageUpdate values).restrict conditions).bindingsFor .update) = values.entries := by
  obtain ⟨restricted, _, _, _, supplied⟩ := (q.stageUpdate values).written_restrict conditions
  show ((q.stageUpdate values).restrict conditions).assignments.zip
    (((q.stageUpdate values).restrict conditions).bindings.updates ++ _) = values.entries
  rw [restricted, supplied]
  show (q.assignments ++ values.columns).zip (q.bindings.updates ++ values.values ++ _) =
    values.entries
  rw [hassignments, hupdates, List.nil_append, List.nil_append, ColumnValues.zip_columns_values]

/-- A database that tells of one row for every insert that takes effect. -/
def Store.TellsOneRow {σ ℓ : Type} (store : Store (StateM σ) ℓ) : Prop :=
  ∀ s statement completion, statement.kind = some .insert →
    ((store.source.execute statement).run s).1 = .ok completion → completion.affected = 1

section Sending

variable {σ ℓ β : Type} {store : Store (StateM σ) ℓ} {schema : Schema} {start row : ColumnValues}

/-- The replay of the journal is a row. -/
def Replays (schema : Schema) (start row : ColumnValues) (t : List Sent × σ) : Prop :=
  replay schema start t.1 = row

/-- An operation that is compiled and sent, and then answered if it can be. If the statement
succeeds, it acts on the row, and if it fails, the row is as it was. -/
theorem ensures_send {kind : StatementKind} {op : Operation (Listener ℓ)} {C : Completion → Prop}
    (hC : ∀ s statement completion, statement.kind = some kind →
      ((store.source.execute statement).run s).1 = .ok completion → C completion)
    (next : Completion → ColumnValues)
    (hnext : ∀ statement completion, store.dialect.prepare kind op.query = .ok statement →
      statement.effect schema completion row = next completion)
    (g : Completion → Option β) :
    Ensures (Replays schema start row)
      (do
        let statement ← store.recorded.executor.prepare kind op
        let completion ← store.recorded.executor.execute statement
        Executor.orDie (g completion) : ExceptT MappingFault (Journaled σ) β).run
      (either (fun b t => ∃ completion, C completion ∧ g completion = some b ∧
          Replays schema start (next completion) t)
        (fun _ t => Replays schema start row t ∨
          ∃ completion, g completion = none ∧ Replays schema start (next completion) t)) := by
  refine ensures_prepare store (fun statement hp => ?_) fun _ _ ht => .inl ht
  have hkind := (Dialect.prepare_eq_ok hp).1
  have executed := ensures_execute (J := fun journal => replay schema start journal = row)
    (R := either (fun completion journal => C completion ∧
        replay schema start journal = next completion)
      (fun _ journal => replay schema start journal = row))
    store statement (fun s completion => hC s statement completion hkind)
    (fun journal completion told before => ⟨told, ?_⟩)
    (fun journal fault before => ?_) (fun _ _ before => before)
  · refine Ensures.bindExcept
      (M := fun completion t => C completion ∧ Replays schema start (next completion) t)
      (executed.mono fun result t ht => ?_) fun completion => ?_
    · cases result with
      | ok completion => exact ht
      | error fault => exact .inl ht
    · cases answered : g completion with
      | none => exact Ensures.pure fun _ ht => .inr ⟨completion, answered, ht.2⟩
      | some b => exact Ensures.pure fun _ ht => ⟨completion, ht.1, answered, ht.2⟩
  · rw [replay_concat, before]
    exact hnext statement completion hp
  · show replay schema start _ = row
    rw [replay_concat, before]
    rfl

/-- An operation whose rows are counted always has an answer if it is sent. -/
theorem ensures_send_counted {kind : StatementKind} {op : Operation (Listener ℓ)}
    (next : ColumnValues)
    (hnext : ∀ statement completion, store.dialect.prepare kind op.query = .ok statement →
      statement.effect schema completion row = next) :
    Ensures (Replays schema start row)
      (do
        let statement ← store.recorded.executor.prepare kind op
        let completion ← store.recorded.executor.execute statement
        pure completion.affected : ExceptT MappingFault (Journaled σ) UInt64).run
      (either (fun _ => Replays schema start next) (fun _ => Replays schema start row)) := by
  refine (ensures_send (C := fun _ => True) (fun _ _ _ _ _ => trivial) (fun _ => next) hnext
    (fun completion => some completion.affected)).mono ?_
  rintro (fault | affected) t ht
  · obtain before | ⟨_, unanswered, _⟩ := ht
    · exact before
    · cases unanswered
  · obtain ⟨_, _, _, after⟩ := ht
    exact after

/-- An insert that succeeds makes a new row of its values, and tells the key that the database
counted up if it was asked to. One that fails may have made such a row before it died. -/
theorem ensures_runInsert (hstore : store.TellsOneRow) {op : Operation (Listener ℓ)}
    (hpre : op.heard .preCreate = []) (hpost : op.heard .postCreate = [])
    (hunstaged : op.query.bindings.inserts = []) {values : ColumnValues}
    (hdistinct : values.columns.Nodup) (returnKey : Bool) :
    Ensures (Replays schema start row)
      (store.recorded.executor.runInsert op values returnKey).run
      (either (fun result t => ∃ key, result.generated = (if returnKey then [key] else []) ∧
          Replays schema start (schema.insertedRow values.entries key) t)
        (fun _ t => Replays schema start row t ∨
          ∃ key, Replays schema start (schema.insertedRow values.entries key) t)) := by
  rw [Executor.runInsert,
    Executor.insertRows_of_silent store.recorded.hear_executor _ op hpre hpost]
  cases hstaged : op.query.stageInsert [values] with
  | error fault => exact Ensures.pure fun _ ht => .inl ht
  | ok query =>
    refine (ensures_send hstore
      (fun completion => schema.insertedRow values.entries completion.lastRowId) ?_ _).mono ?_
    · intro statement completion hp
      obtain ⟨hkind, hassigned⟩ := Dialect.prepare_eq_ok hp
      rw [Statement.effect, hkind, hassigned]
      have written := Query.written_stageInsert hstaged hunstaged hdistinct
      exact congrArg (schema.insertedRow · _) written
    · rintro (fault | result) t ht
      · exact ht.imp_right fun ⟨completion, _, after⟩ => ⟨completion.lastRowId, after⟩
      · obtain ⟨completion, affected, answered, after⟩ := ht
        exact ⟨completion.lastRowId, InsertResult.generated_of_one answered affected, after⟩

variable (store)

/-- An update that succeeds assigns its values in the row. -/
theorem ensures_runUpdate {op : Operation (Listener ℓ)}
    (hpre : ∀ l ∈ op.heard .preUpdate, l.restricts) (hpost : op.heard .postUpdate = [])
    (hassignments : op.query.assignments = []) (hupdates : op.query.bindings.updates = [])
    (values : ColumnValues) :
    Ensures (Replays schema start row)
      (store.recorded.executor.runUpdate op values).run
      (either (fun _ => Replays schema start (row.setAll values.entries))
        (fun _ => Replays schema start row)) := by
  unfold Executor.runUpdate
  dsimp only
  split
  · exact Ensures.pure fun _ ht => ht
  · rw [Executor.runWrite_of_restricts store.recorded.hear_executor (op.mapQuery _) hpre hpost]
    refine ensures_send_counted (row.setAll values.entries) fun statement completion hp => ?_
    obtain ⟨hkind, hassigned⟩ := Dialect.prepare_eq_ok hp
    rw [Statement.effect, hkind, hassigned]
    exact congrArg row.setAll (Query.written_stageUpdate hassignments hupdates values _)

/-- A delete that no listener calls off does not change the row, since a row that is gone is not
assigned anything. -/
theorem ensures_runDelete {op : Operation (Listener ℓ)}
    (hpre : ∀ l ∈ op.heard .preDelete, l.restricts) (hpost : op.heard .postDelete = []) :
    Ensures (Replays schema start row) (store.recorded.executor.runDelete op).run
      (fun _ => Replays schema start row) := by
  rw [Executor.runDelete, Executor.runWrite_of_restricts store.recorded.hear_executor op hpre hpost]
  refine (ensures_send_counted row fun statement completion hp => ?_).mono ?_
  · rw [Statement.effect, (Dialect.prepare_eq_ok hp).1]
  · rintro (fault | affected) t ht
    · exact ht
    · exact ht

end Sending

end SqlMapper
