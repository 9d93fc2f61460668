import SqlMapper.Proofs.Enhancing.Offers
import SqlMapper.Proofs.Query.Rows
import SqlMapper.Proofs.Records.Changes

/-!
# What a save of a new record sends

A save of a new record inserts its attributes, but for those that the database is to fill in, with
what the enhancers add (`Record.newRow`). These values are set in the datum before they are sent,
and the key that the database gives after (`Record.ensures_create`). So what a caller gave is
inserted as it is, and gaps are filled by the first enhancer that has something
(`Record.inserts_row`).
-/

namespace SqlMapper

/-! ## The statement -/

/-- The statement that inserts one row in a table. -/
def Dialect.insertion (d : Dialect) (table : String) (row : ColumnValues) : Statement where
  kind := some .insert
  sql := "INSERT INTO " ++ d.wrap table ++ " (" ++ d.wrapAll row.columns ++ ") VALUES " ++
    ("(" ++ d.placeholders row.columns.length ++ ")")
  bindings := row.values
  written := row.columns

/-- A row with distinct columns, of which there is one, can be staged. -/
theorem Query.stageInsert_row (q : Query) {row : ColumnValues} (hne : row.entries ≠ [])
    (hdistinct : row.columns.Nodup) :
    q.stageInsert [row] = .ok { q with
      insertColumns := row.columns
      insertRows := 1
      bindings := q.bindings.append .insert row.values } := by
  have uniform : Uniform [row] := by
    refine ⟨List.cons_ne_nil _ _, ?_, fun other hother => ?_⟩
    · simpa [columnsOfFirst, ColumnValues.columns] using hne
    · rw [List.mem_singleton.1 hother]
      exact List.Perm.refl _
  have stageable : (∃ next, q.stageInsert [row] = .ok next) ↔ Uniform [row] :=
    exists_stageInsert_eq_ok hdistinct
  obtain ⟨next, staged⟩ := stageable.2 uniform
  have values : cells [row] = row.values := by
    rw [cells, columnsOfFirst, List.flatMap_singleton]
    exact ColumnValues.filterMap_get?_columns hdistinct
  rw [staged, (stageInsert_eq_ok staged).2, values]
  rfl

/-- A query on a table with one staged row. -/
def Query.ofRow (table : String) (row : ColumnValues) : Query :=
  { ofTable table with
    insertColumns := row.columns
    insertRows := 1
    bindings := { inserts := row.values } }

/-- One row that is staged compiles to its insertion. -/
theorem Dialect.prepare_ofRow (d : Dialect) {table : String} (htable : table ≠ "")
    {row : ColumnValues} (hne : row.entries ≠ []) :
    d.prepare .insert (.ofRow table row) = .ok (d.insertion table row) := by
  have bound : (Query.ofRow table row).bindingsFor .insert = row.values := List.append_nil _
  have written : (Query.ofRow table row).writtenColumns .insert = row.columns := List.append_nil _
  have some_column : (row.columns.isEmpty || 1 == 0) = false := by
    simpa [ColumnValues.columns] using hne
  have filled : row.values.length = row.columns.length * 1 := by
    simp [ColumnValues.columns, ColumnValues.values]
  have compiled : d.compile .insert (.ofRow table row) = .ok (d.insertion table row).sql := by
    rw [compile, show (Query.ofRow table row).table = table from rfl,
      if_neg (by simpa using htable), text, insert]
    simp only [bound]
    show (if (row.columns.isEmpty || 1 == 0) = true then _ else
      if row.values.length ≠ row.columns.length * 1 then _ else _) = _
    rw [some_column, if_neg Bool.false_ne_true, if_neg (Decidable.not_not.2 filled)]
    rfl
  rw [prepare, compiled]
  simp only [bound, written]
  rfl

/-! ## Inserting one row -/

section Sending

variable {σ ℓ α : Type} {store : Store (StateM σ) ℓ} {model : Model (Journaled σ) ℓ α}
  {named : List BuiltIn}

/-- What came of an insert that is answered, from what the database tells of it. -/
def InsertResult.ofCompletion (returnKey : Bool) (completion : Completion) : InsertResult where
  affected := completion.affected
  generated :=
    if returnKey then (generatedKeys completion.lastRowId completion.affected).getD [] else []

/-- An insert is answered with what came of it, or not at all. -/
theorem InsertResult.eq_ofCompletion {returnKey : Bool} {completion : Completion}
    {result : InsertResult} (h : ofCompletion? returnKey completion = some result) :
    result = ofCompletion returnKey completion := by
  rw [ofCompletion?] at h
  rw [ofCompletion]
  cases returnKey with
  | false => exact (Option.some.inj h).symm
  | true =>
    rw [if_pos rfl] at h ⊢
    cases hkeys : generatedKeys completion.lastRowId completion.affected with
    | none =>
      rw [hkeys] at h
      cases h
    | some keys =>
      rw [hkeys] at h
      exact (Option.some.inj h).symm

/-- An insert of a row that has a column is compiled and sent, if the model has a table. -/
theorem runInsert_row (hmodel : model.IsBuiltOf store.recorded.now named) {row : ColumnValues}
    (hdistinct : row.columns.Nodup) (returnKey : Bool) :
    store.recorded.executor.runInsert ((Selection.ofModel model).toOperation model store.recorded)
        row returnKey =
      (if row.entries = [] then throw (.query .emptyInsert)
      else if model.schema.table = "" then throw (.query .missingTable)
      else do
        let completion ←
          store.recorded.executor.execute (store.dialect.insertion model.schema.table row)
        Executor.orDie (InsertResult.ofCompletion? returnKey completion)) := by
  have query : ((Selection.ofModel model).toOperation model store.recorded).query =
      .ofTable model.schema.table := Selection.query_toOperation hmodel _
  have silent (kind : EventKind)
      (hkind : kind ∈ [EventKind.preCreate, .postCreate, .postUpdate, .postDelete, .postSelect]) :
      ((Selection.ofModel model).toOperation model store.recorded).heard kind = [] :=
    Selection.heard_eq_nil hmodel rfl hkind
  rw [Executor.runInsert, Executor.insertRows_of_silent store.recorded.hear_executor _ _
    (silent .preCreate (by decide)) (silent .postCreate (by decide)), query]
  by_cases hne : row.entries = []
  · have refused : (Query.ofTable model.schema.table).stageInsert [row] = .error .emptyInsert := by
      rw [Query.stageInsert, if_pos (by simp [ColumnValues.isEmpty, hne])]
    rw [if_pos hne, refused]
  · rw [if_neg hne, Query.stageInsert_row _ hne hdistinct]
    have prepared : store.recorded.executor.prepare .insert
        { (Selection.ofModel model).toOperation model store.recorded with
          query := .ofRow model.schema.table row } =
        if model.schema.table = "" then throw (.query .missingTable)
        else pure (store.dialect.insertion model.schema.table row) := by
      rw [Executor.prepare, show store.recorded.executor.dialect = store.dialect from rfl]
      by_cases htable : model.schema.table = ""
      · rw [if_pos htable, Dialect.prepare_of_table_eq_empty htable]
      · rw [if_neg htable, Dialect.prepare_ofRow _ htable hne]
    refine (congrArg (· >>= _) prepared).trans ?_
    by_cases htable : model.schema.table = ""
    · rw [if_pos htable, if_pos htable]
      rfl
    · rw [if_neg htable, if_neg htable, pure_bind]

end Sending

namespace Record

/-- The attributes that a new row is inserted with: all but those that the database fills in. -/
def kept {m : Type → Type} {ℓ α : Type} (model : Model m ℓ α) (r : Record α) : ColumnValues :=
  (r.attributes model).filter (isInserted model.schema)

/-- An attribute is left out if it is a counted key that is not set, or null where there is a
default. -/
theorem isInserted_eq_false_iff {schema : Schema} {column : String} {value : Value} :
    isInserted schema column value = false ↔ ∃ c, schema.column? column = some c ∧
      ((c.primaryKey = true ∧ c.autoIncrement = true ∧ (value = .null ∨ value = .int 0)) ∨
        (c.hasDefault = true ∧ value = .null)) := by
  have unset : isUnsetKey value = true ↔ value = .null ∨ value = .int 0 := by
    cases value <;> simp [isUnsetKey]
  rw [isInserted]
  cases hc : schema.column? column with
  | none => simp
  | some c =>
    simp only [Option.some.injEq, exists_eq_left']
    by_cases counted : c.primaryKey = true ∧ c.autoIncrement = true
    · rw [if_pos (by simpa using counted), Bool.not_eq_false', unset]
      constructor
      · exact fun h => .inl ⟨counted.1, counted.2, h⟩
      · rintro (⟨-, -, h⟩ | ⟨-, h⟩)
        · exact h
        · exact .inl h
    · rw [if_neg (by simpa using counted)]
      cases c.hasDefault with
      | false => simpa using fun key auto => absurd ⟨key, auto⟩ counted
      | true =>
        rw [if_pos rfl, Bool.not_eq_false', Value.isNull_iff]
        constructor
        · exact fun h => .inr ⟨rfl, h⟩
        · rintro (⟨key, auto, -⟩ | ⟨-, h⟩)
          · exact absurd ⟨key, auto⟩ counted
          · exact h

/-- The row that a new record is inserted with. -/
def newRow {m : Type → Type} {ℓ α : Type} (model : Model m ℓ α) (named : List BuiltIn)
    (time : Instant) (r : Record α) : ColumnValues :=
  (r.kept model).fillAll
    ((BuiltIn.all model.schema named).flatMap (BuiltIn.offers model.schema time))

section Creating

variable {σ ℓ α : Type} {store : Store (StateM σ) ℓ} {model : Model (Journaled σ) ℓ α}
  {columns : List String} {named : List BuiltIn}

/-- What a record holds once its row was inserted: the key that the database gave, the other values
of the row, and else what it held before. -/
structure Took (model : Model (Journaled σ) ℓ α) (r : Record α) (row : ColumnValues)
    (generated : Option Int64) (next : Record α) : Prop where
  key : ∀ key, generated = some key →
    (next.attributes model).get? model.schema.primaryKey = some (.int key)
  values : ∀ column, column ≠ model.schema.primaryKey ∨ generated = none → ∀ value,
    row.get? column = some value →
      ∃ held, (next.attributes model).get? column = some held ∧ held.Agrees value
  others : ∀ column, column ≠ model.schema.primaryKey ∨ generated = none →
    row.get? column = none → (next.attributes model).get? column = (r.attributes model).get? column

/-- What comes of inserting the row of a record: the insertion is sent, and if it succeeds the
record holds what the row does. Or nothing is sent, for there are no columns or something stands in
the way. -/
def Creates {β : Type} (model : Model (Journaled σ) ℓ α) (store : Store (StateM σ) ℓ) (r : Record α)
    (row : ColumnValues) (result : Except MappingFault β × Record α) (journal : List Sent) : Prop :=
  (row.entries ≠ [] ∧ ∃ told, journal = [{
      statement := store.dialect.insertion model.schema.table row
      completion := told }] ∧
    ∀ b, result.1 = .ok b → ∃ completion, told = some completion ∧
      r.Took model row (InsertResult.ofCompletion model.schema.isAutoIncrement
        completion).generatedKey? result.2) ∨
  (journal = [] ∧ row.entries = [] ∧ result.1 = .error (.query .emptyInsert)) ∨
  (journal = [] ∧ row.entries ≠ [] ∧ (∃ fault, result.1 = .error fault) ∧
    r.Hindered model store row.entries)

/-- A key that is taken goes to the key column. Without one the record stays as it is. -/
theorem takeKey_eq_ok {m : Type → Type} {model : Model m ℓ α} {r next : Record α}
    {result : InsertResult} (taken : r.takeKey model result = (.ok (), next)) :
    (result.generatedKey? = none → next = r) ∧
      ∀ key, result.generatedKey? = some key → ∃ a,
        model.setAttribute r.model model.schema.primaryKey (.int key) = .ok a ∧
          next = { r with model := a } := by
  rw [takeKey] at taken
  cases hkey : result.generatedKey? with
  | none =>
    rw [hkey] at taken
    cases taken
    refine ⟨fun _ => rfl, fun key told => ?_⟩
    cases told
  | some key =>
    rw [hkey] at taken
    dsimp only at taken
    cases hset : model.setAttribute r.model model.schema.primaryKey (.int key) with
    | error fault =>
      rw [hset] at taken
      cases taken
    | ok a =>
      rw [hset] at taken
      cases taken
      refine ⟨fun unkeyed => ?_, fun other hother => ?_⟩
      · cases unkeyed
      cases hother
      exact ⟨a, hset, rfl⟩

/-- A record that takes the key of its row changes in no other attribute. -/
theorem Took.takeKey (h : model.Faithful columns) {r synced next : Record α} {row : ColumnValues}
    (hreported : Reported row (r.attributes model) (synced.attributes model))
    {result : InsertResult} (taken : synced.takeKey model result = (.ok (), next)) :
    r.Took model row result.generatedKey? next := by
  obtain ⟨unchanged, keyed⟩ := takeKey_eq_ok taken
  cases hkey : result.generatedKey? with
  | none =>
    obtain rfl := unchanged hkey
    refine ⟨fun key told => ?_, fun column _ => hreported.reports column,
      fun column _ => hreported.keeps column⟩
    cases told
  | some key =>
    obtain ⟨a, hset, rfl⟩ := keyed key hkey
    have same {column : String} (hcolumn : column ≠ model.schema.primaryKey ∨ some key = none) :
        (model.attributes a).get? column = (synced.attributes model).get? column :=
      h.frame hset column (hcolumn.resolve_right (Option.some_ne_none key))
    refine ⟨fun other hother => ?_, fun column hcolumn value hvalue => ?_,
      fun column hcolumn hnone => ?_⟩
    · cases hother
      exact h.reports hset
    · obtain ⟨held, hheld, agrees⟩ := hreported.reports column value hvalue
      exact ⟨held, (same hcolumn).trans hheld, agrees⟩
    · exact (same hcolumn).trans (hreported.keeps column hnone)

/-- Inserting the row of a record. -/
theorem ensures_create (hmodel : model.IsBuiltOf store.recorded.now named)
    (h : model.Faithful columns) (r : Record α) (w : σ) :
    Ensures (fun t => t = ([], w)) (r.create model store.recorded) (fun result t =>
      r.Creates model store (r.newRow model named (store.now.run w).1) result t.1) := by
  rw [create, hmodel.allEnhancers]
  refine (ensures_adjustInsert_offers store.now _ _ w).bind fun row => Ensures.of_and fun hrow => ?_
  have named_row : row = r.newRow model named (store.now.run w).1 := hrow
  have distinct : row.columns.Nodup := by
    rw [hrow]
    exact ColumnValues.nodup_columns_fillAll
      (ColumnValues.nodup_columns_filter (h.nodup r.model) _) _
  rw [← named_row]
  obtain ⟨⟨outcome, next⟩, hsync⟩ : ∃ synced, r.sync model row = synced := ⟨_, rfl⟩
  rw [hsync]
  cases outcome with
  | error fault =>
    have some_entry : row.entries ≠ [] := by
      intro hnone
      have stopped : (syncFrom model (r.attributes model) row.entries r.model).1 = .error fault :=
        congrArg Prod.fst hsync
      rw [hnone] at stopped
      cases stopped
    exact Ensures.pure fun _ quiet => .inr (.inr ⟨quiet, some_entry, ⟨fault, rfl⟩,
      hindered_of_sync h.toFramed.separate distinct hsync⟩)
  | ok _ =>
    dsimp only
    rw [runInsert_row hmodel distinct]
    by_cases hne : row.entries = []
    · rw [if_pos hne]
      exact Ensures.pure fun _ quiet => .inr (.inl ⟨quiet, hne, rfl⟩)
    · rw [if_neg hne]
      by_cases htable : model.schema.table = ""
      · rw [if_pos htable]
        exact Ensures.pure fun _ quiet => .inr (.inr ⟨quiet, hne, ⟨_, rfl⟩, .table htable⟩)
      · rw [if_neg htable]
        refine (ensures_send_answered store _ _).bind fun result => ?_
        cases result with
        | error fault =>
          refine Ensures.pure fun _ outcome => ?_
          rcases outcome with ⟨told, sent, -⟩ | ⟨quiet, unavailable, -⟩
          · exact .inl ⟨hne, told, sent, nofun⟩
          · exact .inr (.inr ⟨quiet, hne, ⟨fault, rfl⟩, .connection unavailable⟩)
        | ok result =>
          refine Ensures.pure fun _ outcome => ?_
          rcases outcome with ⟨told, sent, made⟩ | ⟨-, -, _, failed⟩
          · refine .inl ⟨hne, told, sent, fun _ taken => ?_⟩
            obtain ⟨completion, rfl, answered⟩ := made result rfl
            obtain rfl := InsertResult.eq_ofCompletion answered
            exact ⟨completion, rfl, .takeKey h (reported_sync h distinct hsync)
              (Prod.ext taken rfl)⟩
          · cases failed

/-- What comes of inserting the row of a record does not depend on what is made of its result, if
faults and attributes stay what they are. -/
theorem Creates.congr {β γ : Type} {r : Record α} {row : ColumnValues}
    {result : Except MappingFault β × Record α} {other : Except MappingFault γ × Record α}
    {journal : List Sent} (h : r.Creates model store row result journal)
    (fails : ∀ fault, result.1 = .error fault → other.1 = .error fault)
    (succeeds : ∀ c, other.1 = .ok c → (∃ b, result.1 = .ok b) ∧
      other.2.attributes model = result.2.attributes model) :
    r.Creates model store row other journal := by
  rcases h with ⟨hne, told, sent, took⟩ | ⟨quiet, hnone, failed⟩ |
    ⟨quiet, hne, ⟨fault, failed⟩, hindered⟩
  · refine .inl ⟨hne, told, sent, fun c hc => ?_⟩
    obtain ⟨⟨b, hb⟩, same⟩ := succeeds c hc
    obtain ⟨completion, hcompletion, key, values, others⟩ := took b hb
    exact ⟨completion, hcompletion, same ▸ key, same ▸ values, same ▸ others⟩
  · exact .inr (.inl ⟨quiet, hnone, fails _ failed⟩)
  · exact .inr (.inr ⟨quiet, hne, ⟨fault, fails _ failed⟩, hindered⟩)

/-- Writing a new record inserts its row. -/
theorem persist_of_new {m : Type → Type} [Monad m] {model : Model m ℓ α} (store : Store m ℓ)
    {r : Record α} (new : r.isStored = false) :
    r.persist model store = (do
      match ← r.create model store with
      | (.error fault, r) => pure (.error fault, r)
      | (.ok (), r) => pure (.ok true, r.written model)) := by
  rw [persist, new]
  rfl

/-- Saving a new record. If it succeeds, the record tells that it was written and that it has a
row. -/
theorem ensures_save_new (hmodel : model.IsBuiltOf store.recorded.now named)
    (h : model.Faithful columns) {r : Record α} (new : r.isStored = false) (w : σ) :
    Ensures (fun t => t = ([], w)) (r.save model store.recorded) (fun result t =>
      r.Creates model store (r.newRow model named (store.now.run w).1) result t.1 ∧
        ∀ saved, result.1 = .ok saved → saved = true ∧ result.2.isStored = true) := by
  rw [save, persist_of_new _ new, bind_assoc]
  refine (ensures_create hmodel h r w).bind fun result => ?_
  obtain ⟨outcome, next⟩ := result
  cases outcome with
  | error fault =>
    have same (stop : MappingFault) (failed : (Except.error fault : Except MappingFault Unit) =
        .error stop) : (Except.error fault : Except MappingFault Bool) = .error stop :=
      congrArg Except.error (Except.error.inj failed)
    refine Ensures.pure fun _ outcome => ⟨outcome.congr same fun saved taken => ?_,
      fun saved taken => ?_⟩
    · cases taken
    · cases taken
  | ok _ =>
    refine Ensures.pure fun _ outcome => ⟨outcome.congr (fun fault failed => ?_)
      fun _ _ => ⟨⟨_, rfl⟩, rfl⟩, fun saved taken => ?_⟩
    · cases failed
    · cases taken
      exact ⟨rfl, rfl⟩

/-- **A save of a new record inserts its data.** Let the enhancers be those of the library, in any
number and order, and let setting an attribute give it just what it is given. A save of a new record
sends at most one statement, the insertion of one row. Its columns are the attributes in their
order, without a counted key that is null or zero and without nulls that have a default, and after
them the columns that the enhancers offer values for, in the order of the first offers. A value of
an attribute that is not null is inserted as it is; every other column gets the first value offered
that is not null, or null if there is none. All times are the one that the clock tells first. If
there are no columns, nothing is sent and that is the fault. If there are some, the model has a
table and takes the values, and connections are to be had, the row is sent. After a save that
succeeds, the record has a row and holds the values that were inserted, and the key if the database
gave one. -/
theorem inserts_row (hmodel : model.IsBuiltOf store.recorded.now named)
    (h : model.Faithful columns) {r : Record α} (new : r.isStored = false) (w : σ) :
    let schema := model.schema
    let offers :=
      (BuiltIn.all schema named).flatMap (BuiltIn.offers schema (store.now.run w).1)
    let kept := r.kept model
    let row := r.newRow model named (store.now.run w).1
    let statement := store.dialect.insertion schema.table row
    let after := (r.save model store.recorded).run ([], w)
    (after.2.1 = [] ∨ ∃ completion, after.2.1 = [{ statement, completion }]) ∧
      (kept.entries.Sublist (r.attributes model).entries ∧
        ∀ entry ∈ (r.attributes model).entries, entry ∉ kept.entries ↔
          ∃ c, schema.column? entry.1 = some c ∧
            ((c.primaryKey = true ∧ c.autoIncrement = true ∧
                (entry.2 = .null ∨ entry.2 = .int 0)) ∨
              (c.hasDefault = true ∧ entry.2 = .null))) ∧
      row.columns = kept.columns ++
        ((offers.map Prod.fst).filter fun column => decide (column ∉ kept.columns)).eraseDups ∧
      (∀ column, row.get? column = Value.firstGiven (kept.candidates offers column)) ∧
      (∀ entry ∈ kept.entries, entry.2.isNull = false → entry ∈ row.entries) ∧
      (row.entries = [] → after.1.1 = .error (.query .emptyInsert) ∧ after.2.1 = []) ∧
      (row.entries ≠ [] → schema.table ≠ "" → store.IsAvailable →
        (∀ entry ∈ row.entries, ∀ a, ∃ next, model.setAttribute a entry.1 entry.2 = .ok next) →
        ∃ completion, after.2.1 = [{ statement, completion }]) ∧
      ∀ saved, after.1.1 = .ok saved → saved = true ∧ after.1.2.isStored = true ∧
        ∃ completion, after.2.1 = [{ statement, completion := some completion }] ∧
          r.Took model row
            (InsertResult.ofCompletion schema.isAutoIncrement completion).generatedKey?
            after.1.2 := by
  obtain ⟨creates, succeeds⟩ := ensures_save_new hmodel h new w ([], w) rfl
  have distinct : (r.kept model).columns.Nodup :=
    ColumnValues.nodup_columns_filter (h.nodup r.model) _
  refine ⟨?_, ⟨List.filter_sublist, fun entry hentry => ?_⟩, ColumnValues.columns_fillAll _ _,
    ColumnValues.get?_fillAll _ _, fun entry hentry hnull => ?_, fun hnone => ?_,
    fun hne htable available settable => ?_, fun saved hsaved => ?_⟩
  · rcases creates with ⟨-, told, sent, -⟩ | ⟨quiet, -⟩ | ⟨quiet, -⟩
    · exact .inr ⟨told, sent⟩
    · exact .inl quiet
    · exact .inl quiet
  · rw [← isInserted_eq_false_iff, ← Bool.not_eq_true, not_iff_not]
    exact ⟨fun hkept => (List.mem_filter.1 hkept).2, fun hkept => List.mem_filter.2 ⟨hentry, hkept⟩⟩
  · exact ColumnValues.mem_of_get?
      (ColumnValues.get?_fillAll_of_ne (ColumnValues.get?_of_mem distinct hentry) hnull _)
  · rcases creates with ⟨hne, -⟩ | ⟨quiet, -, failed⟩ | ⟨-, hne, -⟩
    · exact absurd hnone hne
    · exact ⟨failed, quiet⟩
    · exact absurd hnone hne
  · rcases creates with ⟨-, told, sent, -⟩ | ⟨-, hnone, -⟩ | ⟨-, -, -, hindered⟩
    · exact ⟨told, sent⟩
    · exact absurd hnone hne
    · exact absurd hindered
        (not_hindered htable available fun entry mem _ a _ => settable entry mem a)
  · rcases creates with ⟨-, told, sent, took⟩ | ⟨-, -, failed⟩ | ⟨-, -, ⟨fault, failed⟩, -⟩
    · obtain ⟨completion, rfl, holds⟩ := took saved hsaved
      exact ⟨(succeeds saved hsaved).1, (succeeds saved hsaved).2, completion, sent, holds⟩
    · cases failed.symm.trans hsaved
    · cases failed.symm.trans hsaved

end Creating

end Record

/-- Documents whose keys are counted up, with a state that the database fills in. -/
def countedDocs : Schema where
  table := "docs"
  columns := [{ name := "id", primaryKey := true, autoIncrement := true }, { name := "title" },
    { name := "state", hasDefault := true }, { name := "tenant_id" }, { name := "created_at" },
    { name := "updated_at" }]
  timestamps := some { created := "created_at", updated := "updated_at" }

/-- A new document that was given a title and a time of creation. -/
def newDoc : Record (String → Value) :=
  .ofModel fun column =>
    if column = "title" then .text "a" else if column = "created_at" then .int 3 else .null

/-- The insertion that a save of the document sends. -/
def newDocInsertion : Statement where
  kind := some .insert
  sql := "INSERT INTO `docs` (`title`, `tenant_id`, `created_at`, `updated_at`) VALUES (?, ?, ?, ?)"
  bindings := [.text "a", .int 7, .int 3, .timestamp default]
  written := ["title", "tenant_id", "created_at", "updated_at"]

/-- The document is inserted with its tenant and the time of its change, and takes its key. -/
theorem Record.inserts_row_newDoc :
    let store := Store.obliging .mysql
    let model := countedDocs.freeModel [Enhancer.columnScope "tenant" "tenant_id" (.int 7)]
    let after := (newDoc.save model store.recorded).run ([], ())
    (∃ completion, after.2.1 = [{ statement := newDocInsertion, completion }]) ∧
      (after.1.2.attributes model).get? "id" = some (.int 5) := by
  intro store model
  have hmodel : model.IsBuiltOf store.recorded.now [.scope "tenant" "tenant_id" (.int 7)] := rfl
  have faithful := countedDocs.faithful_freeModel (m := Journaled Unit) (ℓ := Empty)
    [Enhancer.columnScope "tenant" "tenant_id" (.int 7)] (by decide)
  have available : store.IsAvailable := fun _ => rfl
  have statement : Dialect.mysql.insertion model.schema.table
      (newDoc.newRow model [.scope "tenant" "tenant_id" (.int 7)] default) = newDocInsertion := by
    decide +kernel
  have listed : ∀ column ∈ (newDoc.newRow model [.scope "tenant" "tenant_id" (.int 7)]
      default).columns, column ∈ countedDocs.columns.map fun c => c.name := by
    decide +kernel
  have saved : ((newDoc.save model store.recorded).run ([], ())).1.1 = .ok true := by
    decide +kernel
  have answered : ((newDoc.save model store.recorded).run ([], ())).2.1.map Sent.completion =
      [some { affected := 1, lastRowId := 5 }] := by
    decide +kernel
  obtain ⟨-, -, -, -, -, -, sends, holds⟩ := Record.inserts_row hmodel faithful (r := newDoc) rfl ()
  have sent := sends (by decide +kernel) (by decide) available fun entry hentry a =>
    countedDocs.exists_setAttribute_freeModel _ (listed _ (List.mem_map_of_mem hentry)) a _
  have held := holds true saved
  generalize (newDoc.save model store.recorded).run ([], ()) = after at *
  obtain ⟨-, -, completion, told, took⟩ := held
  have counted : (InsertResult.ofCompletion true completion).generatedKey? = some 5 := by
    rw [told] at answered
    cases answered
    decide +kernel
  exact ⟨statement ▸ sent, took.key 5 counted⟩

end SqlMapper
