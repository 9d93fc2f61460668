import SqlMapper.Proofs.Records.Mirror

/-!
# The course of a record

The caller edits the datum of a record as it likes and asks for writes in between, and each write
may fail at any point. Every write keeps the snapshot a mirror of the row
(`Record.mirrored_perform`), so it is one at every point of the course: `Record.mirrors_of_steps`.
-/

namespace SqlMapper

/-- What happens to a record. -/
inductive Step (α : Type) where
  /-- The caller edits the datum. -/
  | edit (a : α)
  /-- The caller asks for a write. -/
  | write (write : Write)

namespace Record

/-- What a step makes of a record. What a write tells of itself is for the caller. -/
def step {m : Type → Type} [Monad m] {ℓ α : Type} (model : Model m ℓ α) (store : Store m ℓ)
    (r : Record α) : Step α → m (Record α)
  | .edit a => pure { r with model := a }
  | .write write => do
    let (_, next) ← r.perform model store write
    pure next

/-- What steps make of a record, one after another. -/
def steps {m : Type → Type} [Monad m] {ℓ α : Type} (model : Model m ℓ α) (store : Store m ℓ) :
    List (Step α) → Record α → m (Record α)
  | [], r => pure r
  | first :: rest, r => do
    let next ← r.step model store first
    steps model store rest next

/-- How the course of a record begins, with what is known of its row: a datum that is new has none,
and one that was read from a row is that row. -/
inductive Begins {m : Type → Type} {ℓ α : Type} (model : Model m ℓ α) :
    ColumnValues → Record α → Prop
  | ofModel (a : α) : Begins model .empty (.ofModel a)
  | hydrate {row : Row} {r : Record α} (h : hydrate model row = .ok r) :
    Begins model (r.attributes model) r

end Record

/-- A record that has a row holds what the statements on the journal made of it. -/
def Record.Mirrored {m : Type → Type} {ℓ α σ : Type} (model : Model m ℓ α) (columns : List String)
    (start : ColumnValues) (r : Record α) (t : List Sent × σ) : Prop :=
  r.isStored = true → ∀ column ∈ columns,
    Mirrors model.schema r.snapshot.persisted (replay model.schema start t.1) column

namespace Record

section Writing

variable {σ ℓ α : Type} {store : Store (StateM σ) ℓ} {model : Model (Journaled σ) ℓ α}
  {columns : List String} {named : List BuiltIn} {start row : ColumnValues}

/-- What a write of a datum leaves: the attributes mirror the row if it succeeded. If it failed and
there was a row, the row is as it was. -/
def Wrote (model : Model (Journaled σ) ℓ α) (columns : List String) (start row : ColumnValues)
    (stored : Bool) (result : Except MappingFault Unit × Record α) (t : List Sent × σ) : Prop :=
  match result.1 with
  | .ok _ => ∀ column ∈ columns,
      Mirrors model.schema (result.2.attributes model) (replay model.schema start t.1) column
  | .error _ => stored = true → Replays model.schema start row t

/-- A record of which the datum alone differs holds the same. -/
theorem SameRow.mirrored {r next : Record α} {t : List Sent × σ} (h : r.SameRow next)
    (hr : r.Mirrored model columns start t) : next.Mirrored model columns start t := by
  unfold Mirrored
  rw [h.snapshot, h.isStored]
  exact hr

/-- A record mirrors its row as long as the journal makes the same row. -/
theorem Mirrored.of_replays {r : Record α} {t t' : List Sent × σ}
    (hr : r.Mirrored model columns start t)
    (h : Replays model.schema start (replay model.schema start t.1) t') :
    r.Mirrored model columns start t' := by
  intro hstored column hcolumn
  rw [h]
  exact hr hstored column hcolumn

/-- A record that begins mirrors what is known of its row. -/
theorem Begins.mirrored (h : model.Framed columns) {r : Record α} (hbegins : Begins model start r)
    (s : σ) : r.Mirrored model columns start ([], s) := by
  cases hbegins with
  | ofModel a => exact nofun
  | @hydrate row r hrow =>
    rw [Record.hydrate] at hrow
    cases ha : model.fromRow row with
    | error fault =>
      rw [ha] at hrow
      cases hrow
    | ok a =>
      rw [ha] at hrow
      cases hrow
      intro _ column hcolumn
      rw [← h.columns_eq a] at hcolumn
      obtain ⟨value, hvalue⟩ := ColumnValues.exists_get? hcolumn
      have held := (Snapshot.get?_of (h.nodup a) column).trans hvalue
      exact mirrors_of_agrees held hvalue (.refl value)

/-- Both ways of writing end by taking the attributes as the new snapshot. -/
theorem mirrored_written (h : model.Exact columns) {stored : Bool}
    (result : Except MappingFault Unit × Record α) :
    Ensures (Wrote model columns start row stored result)
      (match result with
        | (.error fault, r) => pure (.error fault, r)
        | (.ok (), r) => pure (.ok true, r.written model) :
        Journaled σ (Except MappingFault Bool × Record α))
      (fun result t => match result.1 with
        | .ok _ => result.2.Mirrored model columns start t
        | .error _ => stored = true → Replays model.schema start row t) := by
  obtain ⟨outcome, next⟩ := result
  cases outcome with
  | error fault => exact Ensures.pure fun _ before => before
  | ok _ =>
    refine Ensures.pure fun t hwrote _ column hcolumn => ?_
    exact (hwrote column hcolumn).congr (Snapshot.get?_of (h.nodup next.model) column) rfl

variable (hmodel : model.IsBuiltOf store.recorded.now named)
include hmodel

/-- Removing the row of a record leaves nothing to mirror, and if it fails, the mirror that there
was. -/
theorem mirrored_forceDelete (r : Record α) :
    Ensures (r.Mirrored model columns start) (r.forceDelete model store.recorded)
      (fun result => result.2.Mirrored model columns start) := by
  unfold forceDelete
  split
  · exact Ensures.pure fun _ ht => ht
  · cases r.key model with
    | error fault => exact Ensures.pure fun _ ht => ht
    | ok key =>
      dsimp only
      refine Ensures.bind (Q := fun _ => r.Mirrored model columns start) ?_ fun deleted => ?_
      -- marked rows are included, so no listener turns the delete into an update
      · have kept (row : ColumnValues) : Ensures (Replays model.schema start row) _ _ :=
          ensures_runDelete store
            (Selection.restricts_of_heard hmodel
              (s := (Selection.ofModel model).withTrashed.whereEq model.schema.primaryKey key)
              rfl fun _ => Selection.softDeletes_notMem_withTrashed _ named (.ofModel model))
            (Selection.heard_eq_nil hmodel rfl (by decide))
        exact fun t ht => ht.of_replays (kept _ t rfl)
      · cases deleted with
        | error fault => exact Ensures.pure fun _ ht => ht
        | ok affected => exact Ensures.pure fun _ _ => nofun

variable (h : model.Exact columns)
include h

/-- Updating a record whose snapshot mirrors the row: the attributes mirror the row that is left. -/
theorem wrote_update (r : Record α)
    (hmirrors : ∀ column ∈ columns, Mirrors model.schema r.snapshot.persisted row column) :
    Ensures (Replays model.schema start row) (r.update model store.recorded)
      (Wrote model columns start row true) := by
  unfold update
  cases r.key model with
  | error fault => exact Ensures.pure fun _ before _ => before
  | ok key =>
    rw [hmodel.allEnhancers]
    -- the enhancers only add to the columns that differ, so these are all assigned
    refine Ensures.bind (ensures_adjustUpdate
      (J := fun journal => replay model.schema start journal = row)
      (V := fun values => values.Covers (r.snapshot.changes (r.attributes model)).columns)
      (fun _ column value hvalues => hvalues.set column value) store.now model.schema
      (BuiltIn.all model.schema named) (ColumnValues.covers_filter (h.nodup r.model) _))
      fun values => Ensures.of_and fun hcovers => ?_
    obtain ⟨⟨outcome, next⟩, hsync⟩ : ∃ synced, r.sync model values = synced := ⟨_, rfl⟩
    rw [hsync]
    cases outcome with
    | error fault => exact Ensures.pure fun _ before _ => before
    | ok _ =>
      have hreported := reported_sync h.toFaithful hcovers.nodup hsync
      have updated : Ensures (Replays model.schema start row) _ _ := ensures_runUpdate store
        (Selection.restricts_of_heard hmodel
          (s := (Selection.ofModel model).whereEq model.schema.primaryKey key) rfl nofun)
        (Selection.heard_eq_nil hmodel rfl (by decide))
        (by rw [Selection.query_toOperation hmodel]; rfl)
        (by rw [Selection.query_toOperation hmodel]; rfl) values
      refine updated.bind fun result => ?_
      cases result with
      | error fault => exact Ensures.pure fun _ before _ => before
      | ok affected =>
        refine Ensures.pure fun t after column hcolumn => ?_
        rw [after]
        exact mirrors_setAll hreported hcovers (exists_attribute h.toFramed r hcolumn)
          (hmirrors column hcolumn)

variable (hkey : model.schema.HasSingleKey) (hstore : store.TellsOneRow)
include hkey hstore

/-- Inserting a record: the attributes mirror the new row. -/
theorem wrote_create (r : Record α) :
    Ensures (Replays model.schema start row) (r.create model store.recorded)
      (Wrote model columns start row false) := by
  unfold create
  rw [hmodel.allEnhancers]
  -- the enhancers only add to the columns that are not left out, so these are all written
  refine Ensures.bind (ensures_adjustInsert
    (J := fun journal => replay model.schema start journal = row)
    (V := fun values => values.Covers
      ((r.attributes model).filter (isInserted model.schema)).columns)
    (fun _ column value hvalues => hvalues.set column value) store.now model.schema
    (BuiltIn.all model.schema named) (ColumnValues.covers_filter (h.nodup r.model) _))
    fun values => Ensures.of_and fun hcovers => ?_
  obtain ⟨⟨outcome, next⟩, hsync⟩ : ∃ synced, r.sync model values = synced := ⟨_, rfl⟩
  rw [hsync]
  cases outcome with
  | error fault => exact Ensures.pure fun _ _ => nofun
  | ok _ =>
    have hreported := reported_sync h.toFaithful hcovers.nodup hsync
    have inserted : Ensures (Replays model.schema start row) _ _ := ensures_runInsert hstore
      (Selection.heard_eq_nil hmodel (s := .ofModel model) rfl (by decide))
      (Selection.heard_eq_nil hmodel rfl (by decide))
      (by rw [Selection.query_toOperation hmodel]; rfl) hcovers.nodup model.schema.isAutoIncrement
    refine inserted.bind fun result => ?_
    cases result with
    | error fault => exact Ensures.pure fun _ _ => nofun
    | ok result =>
      refine Ensures.pure fun t ht => ?_
      obtain ⟨key, hgenerated, after⟩ := ht
      obtain ⟨last, htaken, hkeyed⟩ := keyed_takeKey h hkey next hgenerated
      rw [htaken]
      intro column hcolumn
      rw [after]
      exact mirrors_insertedRow hkey hreported hkeyed hcovers
        (exists_attribute h.toFramed r hcolumn)

/-- Writing a record whose snapshot mirrors the row, if there is one. If it succeeds, the snapshot
mirrors the row that is left; if it fails, a row that there was is as it was. -/
theorem mirrored_persist (r : Record α)
    (hmirrors : r.isStored = true → ∀ column ∈ columns,
      Mirrors model.schema r.snapshot.persisted row column) :
    Ensures (Replays model.schema start row) (r.persist model store.recorded)
      (fun result t => match result.1 with
        | .ok _ => result.2.Mirrored model columns start t
        | .error _ => r.isStored = true → Replays model.schema start row t) := by
  unfold persist
  split
  · refine Ensures.pure fun t before hstored column hcolumn => ?_
    rw [before]
    exact hmirrors hstored column hcolumn
  · dsimp only
    split
    · next hstored =>
      rw [hstored]
      exact (wrote_update hmodel h r (hmirrors hstored)).bind (mirrored_written h)
    · next new =>
      rw [Bool.eq_false_iff.2 new]
      exact (wrote_create hmodel h hkey hstore r).bind (mirrored_written h)

/-- Writing a record leaves a mirror. If it fails, the record that there was is still one, and of
the record that is left the datum alone differs. -/
theorem mirrored_persist_of_mirrored (r : Record α) :
    Ensures (r.Mirrored model columns start) (r.persist model store.recorded)
      (fun result t => match result.1 with
        | .ok _ => result.2.Mirrored model columns start t
        | .error _ => ∀ next, result.2.SameRow next → next.Mirrored model columns start t) := by
  intro t ht
  have all := ((mirrored_persist hmodel h hkey hstore r ht).and (sameRow_persist r)) t rfl
  revert all
  generalize (r.persist model store.recorded).run t = outcome
  obtain ⟨⟨result, next⟩, last⟩ := outcome
  rintro ⟨wrote, same⟩
  cases result with
  | ok _ => exact wrote
  | error fault =>
    intro other hother
    have hnext := same fault rfl
    have same_row : r.SameRow other :=
      ⟨hother.snapshot.trans hnext.snapshot, hother.isStored.trans hnext.isStored⟩
    intro hstored
    have was_stored : r.isStored = true := same_row.isStored.symm.trans hstored
    exact same_row.mirrored (ht.of_replays (wrote was_stored)) hstored

/-- Writing a record and putting attributes back if that fails leaves a mirror. -/
theorem mirrored_persist_or_revert (r : Record α) (previous : ColumnValues) :
    Ensures (r.Mirrored model columns start)
      (do
        match ← r.persist model store.recorded with
        | (.error fault, next) => pure (.error fault, next.revert model previous)
        | (.ok saved, next) => pure (.ok saved, next) :
        Journaled σ (Except MappingFault Bool × Record α))
      (fun result => result.2.Mirrored model columns start) := by
  refine (mirrored_persist_of_mirrored hmodel h hkey hstore r).bind fun result => ?_
  obtain ⟨outcome, next⟩ := result
  cases outcome with
  | error fault => exact Ensures.pure fun _ ht => ht _ (sameRow_sync model next previous)
  | ok saved => exact Ensures.pure fun _ ht => ht

/-- Setting one attribute and saving leaves a mirror. -/
theorem mirrored_writeColumn (r : Record α) (column : String) (value : Value) :
    Ensures (r.Mirrored model columns start) (r.writeColumn model store.recorded column value)
      (fun result => result.2.Mirrored model columns start) := by
  unfold writeColumn
  cases model.setAttribute r.model column value with
  | error fault => exact Ensures.pure fun _ ht => (sameRow_sync model r _).mirrored ht
  | ok a => exact mirrored_persist_or_revert hmodel h hkey hstore { r with model := a } _

/-- Every write leaves a mirror, whether or not it fails. -/
theorem mirrored_perform (r : Record α) (write : Write) :
    Ensures (r.Mirrored model columns start) (r.perform model store.recorded write)
      (fun result => result.2.Mirrored model columns start) := by
  cases write with
  | save => exact mirrored_persist_or_revert hmodel h hkey hstore r _
  | forceDelete => exact mirrored_forceDelete hmodel r
  | delete =>
    show Ensures _ (r.delete model store.recorded) _
    unfold delete
    cases model.schema.softDelete with
    | none => exact mirrored_forceDelete hmodel r
    | some column =>
      dsimp only
      split
      · exact Ensures.pure fun _ ht => ht
      · have told : Ensures (r.Mirrored model columns start) store.recorded.now
            (fun _ => r.Mirrored model columns start) :=
          fun _ ht => ht
        exact told.bind fun time => mirrored_writeColumn hmodel h hkey hstore r column _
  | restore =>
    show Ensures _ (r.restore model store.recorded) _
    unfold restore
    cases model.softDeleteColumn with
    | error fault => exact Ensures.pure fun _ ht => ht
    | ok column => exact mirrored_writeColumn hmodel h hkey hstore r column .null

/-- Every step leaves a mirror. -/
theorem mirrored_step (r : Record α) (step : Step α) :
    Ensures (r.Mirrored model columns start) (r.step model store.recorded step)
      (fun next => next.Mirrored model columns start) := by
  cases step with
  | edit a => exact Ensures.pure fun _ ht => ht
  | write write =>
    exact (mirrored_perform hmodel h hkey hstore r write).bind fun _ => Ensures.pure fun _ ht => ht

/-- A course of steps leaves a mirror. The induction is on the steps that are still to come. -/
theorem mirrored_steps (course : List (Step α))
    (r : Record α) :
    Ensures (r.Mirrored model columns start) (steps model store.recorded course r)
      (fun next => next.Mirrored model columns start) := by
  induction course generalizing r with
  | nil => exact Ensures.pure fun _ ht => ht
  | cons first rest ih =>
    exact (mirrored_step hmodel h hkey hstore r first).bind fun next => ih next

end Writing

/-- **The snapshot of a record mirrors what was written.** Let the enhancers be those of the
library, and let the caller edit the datum and ask for writes in any order, whichever of them fail.
If the record has a row at last, its snapshot agrees in every column with the row that the
statements on the journal made, starting from the attributes it was read with; a column that was
left out since the database has a default for it is held as null. -/
theorem mirrors_of_steps {σ ℓ α : Type} {store : Store (StateM σ) ℓ}
    {model : Model (Journaled σ) ℓ α} {columns : List String} {named : List BuiltIn}
    {start : ColumnValues} (hmodel : model.IsBuiltOf store.recorded.now named)
    (h : model.Exact columns) (hkey : model.schema.HasSingleKey) (hstore : store.TellsOneRow)
    {r next : Record α} (hbegins : Begins model start r) (course : List (Step α)) {s last : σ}
    {journal : List Sent}
    (hcourse : (steps model store.recorded course r).run ([], s) = (next, journal, last))
    (hstored : next.isStored = true) :
    ∀ column ∈ columns,
      Mirrors model.schema next.snapshot.persisted (replay model.schema start journal) column := by
  have all := mirrored_steps hmodel h hkey hstore course r _ (hbegins.mirrored h.toFramed s)
  rw [hcourse] at all
  exact all hstored

end Record

namespace Note

/-- Notes are just what was set. -/
theorem exact_model {m : Type → Type} {ℓ : Type} (enhancers : List (Enhancer m ℓ)) :
    (model enhancers).Exact ["id", "title"] where
  toFramed := (restorable enhancers).toFramed
  reports h := (get?_of_setAttribute h).1
  takesKey _ _ _ := ⟨_, rfl⟩

end Note

/-- A note is inserted with the title of a scope and the key that the database counts up, is given
another title, is removed, and is inserted again. -/
theorem Record.mirrors_note :
    let store := Store.obliging .mysql
    let model := Note.model [Enhancer.columnScope "drafts" "title" (.text "draft")]
    let course : List (Step Note) := [.write .save, .edit { id := .int 5, title := .text "final" },
      .write .save, .write .forceDelete, .write .save]
    let after := (steps model store.recorded course
      (.ofModel { id := .null, title := .null })).run ([], ())
    after.1.isStored = true ∧ after.2.1.length = 4 ∧ ∀ column ∈ ["id", "title"],
      Mirrors model.schema after.1.snapshot.persisted
        (replay model.schema .empty after.2.1) column := by
  intro store model course after
  have hstored : after.1.isStored = true := by decide +kernel
  have hsent : after.2.1.length = 4 := by decide +kernel
  have hmodel : model.IsBuiltOf store.recorded.now [.scope "drafts" "title" (.text "draft")] := rfl
  have hstore : store.TellsOneRow := by
    intro s statement completion _ hcompletion
    cases hcompletion
    rfl
  have hafter : (steps model store.recorded course
    (.ofModel { id := .null, title := .null })).run ([], ()) = after := rfl
  clear_value after
  obtain ⟨next, journal, last⟩ := after
  exact ⟨hstored, hsent, mirrors_of_steps hmodel (Note.exact_model _) (by decide) hstore
    (.ofModel _) course hafter hstored⟩

end SqlMapper
