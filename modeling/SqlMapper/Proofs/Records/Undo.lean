import SqlMapper.Proofs.Records.Sync
import SqlMapper.Proofs.Run.Ensures

/-!
# Failed writes

Before a statement is sent, what enhancers adjusted has been set in the datum, and any number of
attributes may have been set when something fails: the database, a listener, compiling, or setting
an attribute. The attributes are then put back to what they were. `Record.revert_agrees` says that
this works from wherever the datum was left; the main statement is `Record.untouched_of_error`: a
write that fails leaves a record whose attributes agree with those before, with the same snapshot,
so that nothing can be told apart.
-/

namespace SqlMapper

variable {m : Type → Type} {ℓ α : Type}

/-- A model where setting an attribute back to a value that was reported for it succeeds and
restores it. -/
structure Model.Restorable (model : Model m ℓ α) (columns : List String) : Prop
    extends model.Framed columns where
  restores : ∀ a before column value, (model.attributes before).get? column = some value →
    ∃ next, model.setAttribute a column value = .ok next ∧ model.Reports next column value

/-- The writes of a record. -/
inductive Write where
  /-- Inserts the row or updates it. -/
  | save
  /-- Marks the row as deleted or removes it. -/
  | delete
  /-- Takes the mark off the row. -/
  | restore
  /-- Removes the row. -/
  | forceDelete
deriving DecidableEq, Inhabited

namespace Record

/-- Carries out a write. -/
def perform [Monad m] (model : Model m ℓ α) (store : Store m ℓ) (r : Record α) :
    Write → m (Except MappingFault Bool × Record α)
  | .save => r.save model store
  | .delete => r.delete model store
  | .restore => r.restore model store
  | .forceDelete => r.forceDelete model store

/-- A record that cannot be told apart from the one before. -/
structure Untouched (model : Model m ℓ α) (r next : Record α) : Prop where
  attributes : (next.attributes model).Agree (r.attributes model)
  snapshot : next.snapshot = r.snapshot
  isStored : next.isStored = r.isStored
  isDirty : next.isDirty model = r.isDirty model
  dirtyColumns : next.dirtyColumns model = r.dirtyColumns model
  isTrashed : next.isTrashed model = r.isTrashed model

/-- Agreeing attributes and the same snapshot leave nothing to tell apart. -/
theorem untouched_of_agree {model : Model m ℓ α} {columns : List String}
    (h : model.Framed columns) {r next : Record α}
    (attributes : (next.attributes model).Agree (r.attributes model))
    (snapshot : next.snapshot = r.snapshot) (isStored : next.isStored = r.isStored) :
    r.Untouched model next := by
  have dirty : next.dirtyColumns model = r.dirtyColumns model := by
    rw [dirtyColumns, dirtyColumns, snapshot]
    exact attributes.dirtyColumns (h.nodup next.model) r.snapshot
  refine ⟨attributes, snapshot, isStored, ?_, dirty, ?_⟩
  · exact congrArg (fun columns : List String => !columns.isEmpty) dirty
  · rw [isTrashed, isTrashed]
    cases model.schema.softDelete with
    | none => rfl
    | some column => exact congrArg (!·) (attributes.isUnset column)

/-- A record cannot be told apart from itself. -/
theorem untouched_self (model : Model m ℓ α) (r : Record α) : r.Untouched model r :=
  ⟨.refl _, rfl, rfl, rfl, rfl, rfl⟩

section Reverting

variable {model : Model m ℓ α} {columns : List String}

/-- Reverting puts back the attributes of an earlier datum, from wherever the record is. -/
theorem revert_agrees (h : model.Restorable columns) (before : α) (r : Record α) :
    ((r.revert model (model.attributes before)).attributes model).Agree
      (model.attributes before) := by
  have hnodup := h.nodup before
  have hreported : ∀ entry ∈ (model.attributes before).entries,
      (model.attributes before).get? entry.1 = some entry.2 :=
    fun entry hentry => ColumnValues.get?_of_mem hnodup hentry
  have settable : ∀ entry ∈ (model.attributes before).entries, ∀ a,
      ∃ next, model.setAttribute a entry.1 entry.2 = .ok next := by
    intro entry hentry a
    obtain ⟨next, hnext, _⟩ := h.restores a before entry.1 entry.2 (hreported entry hentry)
    exact ⟨next, hnext⟩
  have restored : ∀ entry ∈ (model.attributes before).entries, ∀ a next,
      model.setAttribute a entry.1 entry.2 = .ok next → model.Reports next entry.1 entry.2 := by
    intro entry hentry a next hnext
    obtain ⟨other, hother, hreports⟩ := h.restores a before entry.1 entry.2 (hreported entry hentry)
    rw [hother] at hnext
    cases hnext
    exact hreports
  obtain ⟨last, hlast⟩ := syncFrom_succeeds (r.attributes model) r.model settable
  have hrevert : r.sync model (model.attributes before) = (.ok (), { r with model := last }) := by
    rw [sync, hlast]
  have hagrees := (sync_agrees h.toFramed restored hnodup hrevert).1
  rw [revert, hrevert]
  have same_columns : (model.attributes last).columns = (model.attributes before).columns := by
    rw [h.columns_eq, h.columns_eq]
  refine ⟨same_columns, fun column v hv => ?_⟩
  obtain ⟨value, hvalue⟩ := ColumnValues.exists_get?
    (same_columns ▸ ColumnValues.mem_columns_of_get? hv)
  obtain ⟨w, hw, hwvalue⟩ := hagrees _ (ColumnValues.mem_of_get? hvalue)
  obtain rfl : w = v := Option.some.inj (hw.symm.trans hv)
  exact ⟨value, hvalue, hwvalue⟩

/-- A record whose datum alone may have changed is untouched once it is reverted. -/
theorem untouched_revert (h : model.Restorable columns) {r next : Record α}
    (snapshot : next.snapshot = r.snapshot) (isStored : next.isStored = r.isStored) :
    r.Untouched model (next.revert model (r.attributes model)) :=
  untouched_of_agree h.toFramed (revert_agrees h r.model next) snapshot isStored

end Reverting

section Writing

variable {σ : Type} {model : Model (StateM σ) ℓ α} {store : Store (StateM σ) ℓ}
  {columns : List String} {P : σ → Prop}

/-- A record of which the datum alone may differ. -/
structure SameRow (r next : Record α) : Prop where
  snapshot : next.snapshot = r.snapshot
  isStored : next.isStored = r.isStored

/-- Setting attributes changes the datum alone. -/
theorem sameRow_sync (model : Model (StateM σ) ℓ α) (r : Record α) (values : ColumnValues) :
    r.SameRow (r.sync model values).2 :=
  ⟨rfl, rfl⟩

/-- Taking a generated key changes the datum alone. -/
theorem SameRow.takeKey {r next : Record α} (h : r.SameRow next) (result : InsertResult) :
    r.SameRow (next.takeKey model result).2 := by
  unfold Record.takeKey
  split
  · exact h
  · split
    · exact ⟨h.snapshot, h.isStored⟩
    · exact h

/-- Inserting the row of a record changes the datum alone. -/
theorem sameRow_create (r : Record α) :
    Ensures P (r.create model store) (fun result _ => r.SameRow result.2) := by
  unfold create
  refine (Ensures.trivial _).bind fun values => ?_
  have synced := sameRow_sync model r values
  generalize r.sync model values = outcome at synced
  obtain ⟨result, next⟩ := outcome
  cases result with
  | error fault => exact Ensures.pure fun _ _ => synced
  | ok _ =>
    refine (Ensures.trivial _).bind fun inserted => ?_
    cases inserted with
    | error fault => exact Ensures.pure fun _ _ => synced
    | ok result => exact Ensures.pure fun _ _ => synced.takeKey result

/-- Updating the row of a record changes the datum alone. -/
theorem sameRow_update (r : Record α) :
    Ensures P (r.update model store) (fun result _ => r.SameRow result.2) := by
  unfold update
  cases r.key model with
  | error fault => exact Ensures.pure fun _ _ => ⟨rfl, rfl⟩
  | ok key =>
    refine (Ensures.trivial _).bind fun values => ?_
    have synced := sameRow_sync model r values
    generalize r.sync model values = outcome at synced
    obtain ⟨result, next⟩ := outcome
    cases result with
    | error fault => exact Ensures.pure fun _ _ => synced
    | ok _ =>
      refine (Ensures.trivial _).bind fun updated => ?_
      cases updated with
      | error fault => exact Ensures.pure fun _ _ => synced
      | ok _ => exact Ensures.pure fun _ _ => synced

/-- Writing a record that fails has changed the datum alone. -/
theorem sameRow_persist (r : Record α) :
    Ensures P (r.persist model store)
      (fun result _ => ∀ fault, result.1 = .error fault → r.SameRow result.2) := by
  unfold persist
  split
  · exact Ensures.pure fun _ _ => nofun
  · dsimp only
    split
    all_goals
      refine Ensures.bind (Q := fun result _ => r.SameRow result.2) ?_ fun result => ?_
    · exact sameRow_update r
    · obtain ⟨outcome | _, next⟩ := result
      · exact Ensures.pure fun _ same _ _ => same
      · exact Ensures.pure fun _ _ => nofun
    · exact sameRow_create r
    · obtain ⟨outcome | _, next⟩ := result
      · exact Ensures.pure fun _ same _ _ => same
      · exact Ensures.pure fun _ _ => nofun

/-- Writing a record of which the datum alone was changed, and putting the attributes back if that
fails, leaves the record untouched if it fails. -/
theorem untouched_persist_or_revert (h : model.Restorable columns) {r changed : Record α}
    (same : r.SameRow changed) :
    Ensures P
      (do
        match ← changed.persist model store with
        | (.error fault, next) => pure (.error fault, next.revert model (r.attributes model))
        | (.ok saved, next) => pure (.ok saved, next) :
        StateM σ (Except MappingFault Bool × Record α))
      (fun result _ => ∀ fault, result.1 = .error fault → r.Untouched model result.2) := by
  refine (sameRow_persist changed).bind fun result => ?_
  obtain ⟨outcome, next⟩ := result
  cases outcome with
  | error fault =>
    refine Ensures.pure fun _ failed _ _ => ?_
    obtain ⟨snapshot, isStored⟩ := failed fault rfl
    exact untouched_revert h (snapshot.trans same.snapshot) (isStored.trans same.isStored)
  | ok saved => exact Ensures.pure fun _ _ => nofun

/-- Setting one attribute and saving leaves the record untouched if it fails. -/
theorem untouched_writeColumn (h : model.Restorable columns) (r : Record α) (column : String)
    (value : Value) :
    Ensures P (r.writeColumn model store column value)
      (fun result _ => ∀ fault, result.1 = .error fault → r.Untouched model result.2) := by
  unfold writeColumn
  cases model.setAttribute r.model column value with
  | error fault => exact Ensures.pure fun _ _ _ _ => untouched_revert h rfl rfl
  | ok a => exact untouched_persist_or_revert h ⟨rfl, rfl⟩

/-- Removing the row of a record leaves the record untouched if it fails. -/
theorem untouched_forceDelete (r : Record α) :
    Ensures P (r.forceDelete model store)
      (fun result _ => ∀ fault, result.1 = .error fault → r.Untouched model result.2) := by
  unfold forceDelete
  split
  · exact Ensures.pure fun _ _ => nofun
  · cases r.key model with
    | error fault => exact Ensures.pure fun _ _ _ _ => untouched_self model r
    | ok key =>
      refine (Ensures.trivial _).bind fun deleted => ?_
      cases deleted with
      | error fault => exact Ensures.pure fun _ _ _ _ => untouched_self model r
      | ok affected => exact Ensures.pure fun _ _ => nofun

/-- Every write that fails leaves the record untouched. -/
theorem untouched_perform (h : model.Restorable columns) (store : Store (StateM σ) ℓ) (r : Record α)
    (write : Write) :
    Ensures P (r.perform model store write)
      (fun result _ => ∀ fault, result.1 = .error fault → r.Untouched model result.2) := by
  cases write with
  | save => exact untouched_persist_or_revert h ⟨rfl, rfl⟩
  | forceDelete => exact untouched_forceDelete r
  | delete =>
    show Ensures P (r.delete model store) _
    unfold delete
    cases model.schema.softDelete with
    | none => exact untouched_forceDelete r
    | some column =>
      dsimp only
      split
      · exact Ensures.pure fun _ _ => nofun
      · exact (Ensures.trivial _).bind fun time => untouched_writeColumn h r column _
  | restore =>
    show Ensures P (r.restore model store) _
    unfold restore
    cases model.softDeleteColumn with
    | error fault => exact Ensures.pure fun _ _ _ _ => untouched_self model r
    | ok column => exact untouched_writeColumn h r column .null

/-- **Failed writes leave the record as it was.** Whatever the enhancers, the listeners and the
database do, when a write fails, every attribute agrees with what it was before, the snapshot and
whether there is a row are the same, and so the record answers as before. -/
theorem untouched_of_error (h : model.Restorable columns) (store : Store (StateM σ) ℓ)
    (r : Record α) (write : Write) (s : σ) {fault : MappingFault} {next : Record α}
    (herror : ((r.perform model store write).run s).1 = (.error fault, next)) :
    r.Untouched model next := by
  have all := untouched_perform (P := fun _ => True) h store r write s trivial fault
  rw [herror] at all
  exact all rfl

end Writing

end Record

/-- A note has a key and a title. -/
structure Note where
  /-- The key. -/
  id : Value
  /-- The title. -/
  title : Value
deriving DecidableEq, Inhabited

namespace Note

/-- The model of notes, with enhancers besides those that the schema asks for. The database counts
the keys up. -/
def model {m : Type → Type} {ℓ : Type} (enhancers : List (Enhancer m ℓ)) : Model m ℓ Note where
  schema := {
    table := "notes"
    columns := [{ name := "id", primaryKey := true, autoIncrement := true }, { name := "title" }] }
  attributes note := ⟨[("id", note.id), ("title", note.title)]⟩
  fromRow row :=
    match row.value? "id", row.value? "title" with
    | some id, some title => .ok { id, title }
    | _, _ => .error (.missingColumn "id")
  setAttribute note column value :=
    if column = "id" then .ok { note with id := value }
    else if column = "title" then .ok { note with title := value }
    else .error (.unknownAttribute "notes" column)
  enhancers := enhancers

/-- Setting an attribute of a note sets that attribute and no other. -/
theorem get?_of_setAttribute {m : Type → Type} {ℓ : Type} {enhancers : List (Enhancer m ℓ)}
    {note next : Note} {column : String} {value : Value}
    (h : (model enhancers).setAttribute note column value = .ok next) :
    ((model enhancers).attributes next).get? column = some value ∧ ∀ other, other ≠ column →
      ((model enhancers).attributes next).get? other =
        ((model enhancers).attributes note).get? other := by
  by_cases hid : column = "id"
  · subst hid
    cases h
    exact ⟨rfl, fun other hother => by simp [model, ColumnValues.get?, hother.symm]⟩
  · by_cases htitle : column = "title"
    · subst htitle
      cases h
      refine ⟨rfl, fun other hother => ?_⟩
      by_cases hother_id : "id" = other <;>
        simp [model, ColumnValues.get?, hother_id, hother.symm]
    · simp [model, hid, htitle] at h

/-- Notes can be put back. -/
theorem restorable {m : Type → Type} {ℓ : Type} (enhancers : List (Enhancer m ℓ)) :
    (model enhancers).Restorable ["id", "title"] where
  distinct := by decide
  columns_eq _ := rfl
  frame h := (get?_of_setAttribute h).2
  restores note before column value h := by
    have hcolumn : column = "id" ∨ column = "title" := by
      simpa [model, ColumnValues.columns] using ColumnValues.mem_columns_of_get? h
    obtain ⟨next, hnext⟩ : ∃ next, (model enhancers).setAttribute note column value = .ok next := by
      rcases hcolumn with rfl | rfl
      · exact ⟨_, rfl⟩
      · exact ⟨_, rfl⟩
    exact ⟨next, hnext, value, (get?_of_setAttribute hnext).1, .refl value⟩

end Note

/-- A store that cannot be reached. -/
def Store.unreachable : Store (StateM Unit) Empty where
  dialect := .mysql
  source := {
    acquire := pure (.error .noConnection)
    fetch := fun _ => pure (.error .failedStatement)
    execute := fun _ => pure (.error .failedStatement) }
  now := pure default
  hear := fun listener _ => nomatch listener
  notice := fun _ => pure ()

/-- A note that a scope would have given a title has none after it could not be saved. -/
theorem Record.untouched_note :
    let model := Note.model [Enhancer.columnScope "drafts" "title" (.text "draft")]
    let r : Record Note := .ofModel { id := .null, title := .null }
    ∃ next, ((r.perform model Store.unreachable .save).run ()).1 =
        (.error (.database .noConnection), next) ∧ r.Untouched model next :=
  ⟨_, rfl, untouched_of_error (Note.restorable _) Store.unreachable _ .save () rfl⟩

end SqlMapper
