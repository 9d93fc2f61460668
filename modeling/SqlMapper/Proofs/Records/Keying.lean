import SqlMapper.Proofs.Records.Creation

/-!
# Where a generated key goes

Three scans of the columns decide about the key of a new record. It is left out of the row where the
column itself is a key that is counted up; it is asked for if there is any such column; and it is
written to the first column that is a key, counted up or not. So a record can be given the key of
another column of the table: `Record.keys_first_column` says when it is not.
-/

namespace SqlMapper

namespace Schema

/-- Whether the database counts a column up: it is flagged so, and as a key. -/
def Counts (schema : Schema) (column : String) : Prop :=
  ∃ c ∈ schema.columns, c.name = column ∧ c.primaryKey = true ∧ c.autoIncrement = true

instance (schema : Schema) (column : String) : Decidable (schema.Counts column) :=
  inferInstanceAs (Decidable (∃ c ∈ schema.columns, _))

variable {schema : Schema}

/-- A key is asked for if the database counts some column up. -/
theorem isAutoIncrement_iff : schema.isAutoIncrement = true ↔ ∃ column, schema.Counts column := by
  rw [isAutoIncrement, List.any_eq_true]
  constructor
  · rintro ⟨c, hc, counted⟩
    exact ⟨c.name, c, hc, rfl, by simpa using counted⟩
  · rintro ⟨_, c, hc, rfl, counted⟩
    exact ⟨c, hc, by simpa using counted⟩

/-- Where a key is asked for, the key column is the first one that is flagged as a key. -/
theorem exists_first_key (counts : schema.isAutoIncrement = true) :
    ∃ before c later, schema.columns = before ++ c :: later ∧
      (∀ b ∈ before, b.primaryKey = false) ∧ c.primaryKey = true ∧ schema.primaryKey = c.name := by
  obtain ⟨_, other, hother, -, key, -⟩ := isAutoIncrement_iff.1 counts
  obtain ⟨c, found⟩ := Option.isSome_iff_exists.1
    (List.find?_isSome.2 ⟨other, hother, key⟩ : (schema.columns.find? Column.primaryKey).isSome)
  obtain ⟨hkey, before, later, hcolumns, hbefore⟩ := List.find?_eq_some_iff_append.1 found
  refine ⟨before, c, later, hcolumns, fun b hb => by simpa using hbefore b hb, hkey, ?_⟩
  rw [primaryKey, show schema.columns.find? (fun c => c.primaryKey) = some c from found]

/-- The first key column is counted up if it is flagged so, or a later key column of that name
is. -/
theorem counts_first_key {before later : List Column} {c : Column}
    (hcolumns : schema.columns = before ++ c :: later)
    (hbefore : ∀ b ∈ before, b.primaryKey = false) (hkey : c.primaryKey = true) :
    schema.Counts c.name ↔ c.autoIncrement = true ∨ ∃ other ∈ later, other.name = c.name ∧
      other.primaryKey = true ∧ other.autoIncrement = true := by
  rw [Counts, hcolumns]
  constructor
  · rintro ⟨other, hother, hname, key, counted⟩
    rcases List.mem_append.1 hother with earlier | hrest
    · cases (hbefore other earlier).symm.trans key
    · rcases List.mem_cons.1 hrest with rfl | hlater
      · exact .inl counted
      · exact .inr ⟨other, hlater, hname, key, counted⟩
  · rintro (counted | ⟨other, hlater, counted⟩)
    · exact ⟨c, by simp, rfl, hkey, counted⟩
    · exact ⟨other, by simp [hlater], counted⟩

/-- A single key column is counted up where any column is. -/
theorem HasSingleKey.counts (h : schema.HasSingleKey) (counts : schema.isAutoIncrement = true) :
    schema.Counts schema.primaryKey := by
  obtain ⟨_, c, hc, -, key, counted⟩ := isAutoIncrement_iff.1 counts
  refine ⟨c, hc, ?_, key, counted⟩
  rw [primaryKey, h.find? hc key]

end Schema

section Keying

variable {σ ℓ α : Type}

/-- An insert that is not asked for keys gives none. -/
theorem Executor.ensures_generated_nil (x : Executor (StateM σ) ℓ) (kind : StatementKind)
    (op : Operation ℓ) (rows : List ColumnValues) :
    Ensures (fun _ => True) (x.insertRows kind op rows false).run
      (fun outcome _ => ∀ result, outcome = .ok result → result.generated = []) := by
  have fails (fault : MappingFault) (s : σ) : ∀ result : InsertResult,
      Except.error fault = Except.ok result → result.generated = [] := nofun
  rw [insertRows]
  cases op.query.stageInsert rows with
  | error fault => exact Ensures.pure fun s _ => fails (.query fault) s
  | ok query =>
    refine Ensures.bindAny fails fun reported => ?_
    have told {result : InsertResult} (h : result.generated = []) : Ensures (fun _ => True)
        (do
          let _ ← x.dispatch .postCreate reported.2
          return result : ExceptT MappingFault (StateM σ) InsertResult).run
        (fun outcome _ => ∀ result, outcome = .ok result → result.generated = []) := by
      refine Ensures.bindAny fails fun _ => Ensures.pure fun _ _ other hother => ?_
      exact Except.ok.inj hother ▸ h
    dsimp only
    split
    · exact Ensures.bindAny fails fun _ => told rfl
    · exact Ensures.bindAny fails fun _ => Ensures.bindAny fails fun _ => told rfl

namespace Record

variable (model : Model (StateM σ) ℓ α) (store : Store (StateM σ) ℓ) (r : Record α)

/-- The values that a record is inserted with: those that are not left to the database, as the
enhancers adjust them. -/
def rowValues : StateM σ ColumnValues :=
  adjustInsert model.schema (model.allEnhancers store.now) (r.kept model)

/-- The record with these values, before a key is given. -/
def unkeyed (w : σ) : Record α :=
  (r.sync model ((r.rowValues model store).run w).1).2

/-- What comes of inserting these values. -/
def insertion (w : σ) : Except MappingFault InsertResult :=
  let adjusted := (r.rowValues model store).run w
  ((store.executor.runInsert ((Selection.ofModel model).toOperation model store) adjusted.1
    model.schema.isAutoIncrement).run.run adjusted.2).1

/-- A record that was created took the key that the insert of its values gave. -/
theorem exists_insertion_of_create {w : σ} {next : Record α}
    (created : ((r.create model store).run w).1 = (.ok (), next)) :
    ∃ result, r.insertion model store w = .ok result ∧
      (r.unkeyed model store w).takeKey model result = (.ok (), next) := by
  rw [create, run_bind_eq] at created
  rw [insertion, unkeyed, rowValues, kept]
  generalize (adjustInsert model.schema (model.allEnhancers store.now) _).run w = adjusted
    at created ⊢
  obtain ⟨⟨outcome, synced⟩, hsync⟩ : ∃ synced, r.sync model adjusted.1 = synced := ⟨_, rfl⟩
  rw [hsync] at created ⊢
  cases outcome with
  | error fault => cases created
  | ok _ =>
    dsimp only at created ⊢
    rw [run_bind_eq] at created
    generalize StateT.run (ExceptT.run (Executor.runInsert store.executor _ _ _)) adjusted.2 =
      inserted at created ⊢
    obtain ⟨inserted, last⟩ := inserted
    cases inserted with
    | error fault => cases created
    | ok result => exact ⟨result, rfl, created⟩

/-- A new record that was saved is one that was created, and written. -/
theorem exists_created_of_save (new : r.isStored = false) {w : σ} {saved : Bool}
    (hsaved : ((r.save model store).run w).1.1 = .ok saved) :
    ∃ next, ((r.create model store).run w).1 = (.ok (), next) ∧
      ((r.save model store).run w).1.2 = next.written model := by
  rw [save, persist_of_new store new, bind_assoc, run_bind_eq] at hsaved ⊢
  generalize (r.create model store).run w = created at hsaved ⊢
  obtain ⟨⟨outcome, next⟩, last⟩ := created
  cases outcome with
  | error fault => cases hsaved
  | ok _ => exact ⟨next, rfl, rfl⟩

variable {model} {r}

/-- **A generated key goes to the first key column.** Let a new record be saved, with any columns,
flags, attributes, enhancers, listeners and database, and let the save succeed. If the insert gave
no key, then the record holds the values that it was inserted with. If it gave one, some column is
counted up, and the key is set in the first column that is flagged as a key, whatever the record
held there; after that the record is only noted as written, so where setters change no other
attribute, none is changed. That column is counted up just if it is flagged so itself, or a later
key column of the same name is. With a single key column it always is. -/
theorem keys_first_column (new : r.isStored = false) (w : σ) {saved : Bool}
    (hsaved : ((r.save model store).run w).1.1 = .ok saved) :
    let after := ((r.save model store).run w).1.2
    let unkeyed := r.unkeyed model store w
    ∃ result, r.insertion model store w = .ok result ∧
      (result.generatedKey? = none → after = unkeyed.written model) ∧
      ∀ key, result.generatedKey? = some key → ∃ before c later a,
        (model.schema.columns = before ++ c :: later ∧ (∀ b ∈ before, b.primaryKey = false) ∧
          c.primaryKey = true) ∧
        model.setAttribute unkeyed.model c.name (.int key) = .ok a ∧
        after = ({ unkeyed with model := a }).written model ∧
        (model.Separate → ∀ other, other ≠ c.name →
          (after.attributes model).get? other = (unkeyed.attributes model).get? other) ∧
        (∃ column, model.schema.Counts column) ∧
        (model.schema.Counts c.name ↔ c.autoIncrement = true ∨ ∃ other ∈ later,
          other.name = c.name ∧ other.primaryKey = true ∧ other.autoIncrement = true) ∧
        (model.schema.HasSingleKey → model.schema.Counts c.name) := by
  intro after unkeyed
  obtain ⟨next, created, hafter⟩ : ∃ next : Record α, _ ∧ after = next.written model :=
    exists_created_of_save model store r new hsaved
  obtain ⟨result, inserted, taken⟩ := exists_insertion_of_create model store r created
  clear_value after
  obtain ⟨unchanged, keyed⟩ := takeKey_eq_ok taken
  refine ⟨result, inserted, fun hnone => ?_, fun key hkey => ?_⟩
  · exact hafter.trans (congrArg (written model) (unchanged hnone))
  -- a key was given, so it was asked for
  have asked : model.schema.isAutoIncrement = true := by
    by_contra unasked
    rw [insertion, Bool.eq_false_iff.2 unasked] at inserted
    have generated := Executor.ensures_generated_nil store.executor .insert _ _ _ trivial
      result inserted
    rw [InsertResult.generatedKey?, generated] at hkey
    cases hkey
  obtain ⟨before, c, later, hcolumns, hbefore, hc, first⟩ := Schema.exists_first_key asked
  obtain ⟨a, hset, rfl⟩ := keyed key hkey
  rw [first] at hset
  refine ⟨before, c, later, a, ⟨hcolumns, hbefore, hc⟩, hset, hafter,
    fun separate other hother => ?_, Schema.isAutoIncrement_iff.1 asked,
    Schema.counts_first_key hcolumns hbefore hc, fun single => first ▸ single.counts asked⟩
  have held : after.attributes model = model.attributes a := congrArg (attributes model) hafter
  rw [held]
  exact separate.frame hset other hother

end Record

end Keying

/-- Documents of tenants. Both columns are parts of the key, and the second one is counted up. -/
def tenantDocs : Schema where
  table := "docs"
  columns := [{ name := "tenant_id", primaryKey := true },
    { name := "id", primaryKey := true, autoIncrement := true }, { name := "title" }]

/-- A new document of one tenant. -/
def tenantDoc : Record (String → Value) :=
  .ofModel fun column =>
    if column = "tenant_id" then .int 7 else if column = "title" then .text "a" else .null

/-- The key of a document whose only key is counted up goes to that key, and its title stays. -/
theorem Record.keys_first_column_newDoc :
    let store := Store.obliging .mysql
    let model : Model (StateM Unit) Empty (String → Value) := countedDocs.freeModel []
    let after := (newDoc.save model store).run ()
    after.1.1 = .ok true ∧ model.schema.Counts "id" ∧
      (after.1.2.attributes model).get? "id" = some (.int 5) ∧
      (after.1.2.attributes model).get? "title" =
        ((newDoc.unkeyed model store ()).attributes model).get? "title" := by
  intro store model
  have hsaved : ((newDoc.save model store).run ()).1.1 = .ok true := by decide +kernel
  have faithful := countedDocs.faithful_freeModel (m := StateM Unit) (ℓ := Empty) [] (by decide)
  have given : newDoc.insertion model store () = .ok { affected := 1, generated := [5] } := by
    decide +kernel
  obtain ⟨result, inserted, -, keyed⟩ := Record.keys_first_column store rfl () hsaved
  obtain rfl : _ = result := Except.ok.inj (given.symm.trans inserted)
  obtain ⟨before, c, later, a, -, hset, hafter, kept, -, -, single⟩ := keyed 5 rfl
  have counted := single (by decide)
  have alone : ∀ other ∈ countedDocs.columns, other.primaryKey = true → other.name = "id" := by
    decide
  obtain ⟨other, hother, hname, key, -⟩ := id counted
  have first : c.name = "id" := hname ▸ alone other hother key
  rw [first] at counted hset kept
  have others := kept faithful.plain.toSeparate "title" (by decide)
  have given_key := faithful.reports hset
  generalize (newDoc.save model store).run () = after at hsaved hafter others ⊢
  refine ⟨hsaved, counted, ?_, others⟩
  rw [hafter]
  exact given_key

/-- The key of a document with two key columns goes to the tenant, which is not counted up, and the
document has no key of its own. -/
theorem Record.rekeys_tenant :
    let store := Store.obliging .mysql
    let model : Model (StateM Unit) Empty (String → Value) := tenantDocs.freeModel []
    let after := (tenantDoc.save model store).run ()
    after.1.1 = .ok true ∧ (¬ model.schema.Counts "tenant_id" ∧ model.schema.Counts "id") ∧
      (tenantDoc.attributes model).get? "tenant_id" = some (.int 7) ∧
      (after.1.2.attributes model).get? "tenant_id" = some (.int 5) ∧
      (after.1.2.attributes model).get? "id" = some .null := by
  decide +kernel

end SqlMapper
