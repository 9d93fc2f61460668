import SqlMapper.Proofs.Records.Changes
import SqlMapper.Proofs.Records.Undo

/-!
# What marking a record writes

Deleting a record sets the mark in the datum, restoring it takes the mark off, and both then write
the record. But to write a record is to write all that differs from its snapshot, so edits that were
not saved yet are written along with the mark (`Record.Sends`), and they are part of the snapshot
after that (`Record.Settled`). `Record.marks_with_edits` says when marking a record sets nothing but
the mark and the time of the change, and when other edits stay edits; `Record.deletes_with_title` is
a delete that writes an edit.
-/

namespace SqlMapper

/-- Marking sets the column for the mark and the one for the time of the change. -/
theorem Schema.mem_markedColumns_iff {schema : Schema} {column other : String} :
    other ∈ schema.markedColumns column ↔ other = column ∨
      ∃ kept, schema.timestamps = some kept ∧ other = kept.updated := by
  rw [markedColumns]
  cases schema.timestamps with
  | none => simp
  | some kept =>
    by_cases h : kept.updated = column
    · simp [h]
    · simp [h]

/-- The time of the change stands in a column that marking sets. -/
theorem Schema.mem_markedColumns_of_stamp {schema : Schema} {column : String}
    {columns : List String} {time : Instant} {entry : String × Value}
    (h : entry ∈ schema.stamp columns time) : entry.1 ∈ schema.markedColumns column := by
  rw [stamp] at h
  split at h
  · next kept hkept =>
    split at h
    · cases h
    · cases List.mem_singleton.1 h
      exact mem_markedColumns_iff.2 (.inr ⟨kept, hkept, rfl⟩)
  · cases h

namespace Record

section Plain

variable {m : Type → Type} {ℓ α : Type} {model : Model m ℓ α}

/-- A column is dirty if it has a value that the snapshot does not hold. -/
theorem mem_dirtyColumns_iff (h : model.Separate) {r : Record α} {column : String} :
    column ∈ r.dirtyColumns model ↔ ∃ value, (r.attributes model).get? column = some value ∧
      r.snapshot.persisted.holds column value = false := by
  have distinct : (r.attributes model).columns.Nodup := h.nodup r.model
  rw [dirtyColumns, Snapshot.dirtyColumns_eq_filter _ distinct, List.mem_filter,
    Option.any_eq_true]
  constructor
  · rintro ⟨-, value, held, differs⟩
    exact ⟨value, held, by simpa using differs⟩
  · rintro ⟨value, held, differs⟩
    exact ⟨ColumnValues.mem_columns_of_get? held, value, held, by simpa using differs⟩

/-- Whether a column is dirty depends on its value and the snapshot. -/
theorem mem_dirtyColumns_congr (h : model.Separate) {r next : Record α} {column : String}
    (value : (next.attributes model).get? column = (r.attributes model).get? column)
    (snapshot : next.snapshot = r.snapshot) :
    column ∈ next.dirtyColumns model ↔ column ∈ r.dirtyColumns model := by
  rw [mem_dirtyColumns_iff h, mem_dirtyColumns_iff h, value, snapshot]

/-- Once the attributes are the snapshot, only a NaN is dirty. -/
theorem mem_dirtyColumns_of_snapshot (h : model.Separate) {r : Record α} {column : String}
    (snapshot : r.snapshot = .of (r.attributes model)) :
    column ∈ r.dirtyColumns model ↔ ∃ value, (r.attributes model).get? column = some value ∧
      value.isNaN = true := by
  rw [mem_dirtyColumns_iff h, snapshot]
  refine exists_congr fun value => and_congr_right fun held => ?_
  have recorded : (Snapshot.of (r.attributes model)).persisted.get? column = some value :=
    (Snapshot.get?_of (h.nodup r.model) column).trans held
  rw [ColumnValues.holds, recorded]
  simp [Value.equals_self]

/-- A synchronization keeps the columns to which it gives, at most, what they have. -/
theorem sync_keeps (h : model.Plain) (r : Record α) {values : ColumnValues} {column : String}
    (same : ∀ entry ∈ values.entries, entry.1 = column →
      (r.attributes model).get? column = some entry.2) :
    ((r.sync model values).2.attributes model).get? column =
      (r.attributes model).get? column :=
  syncFrom_keeps h (r.attributes model) same

/-- Putting attributes back keeps those that are what they were. -/
theorem revert_keeps (h : model.Plain) {r next : Record α} {other : String}
    (same : (next.attributes model).get? other = (r.attributes model).get? other) :
    ((next.revert model (r.attributes model)).attributes model).get? other =
      (r.attributes model).get? other := by
  refine (sync_keeps h next fun entry hentry heq => ?_).trans same
  rw [same, ← heq]
  exact ColumnValues.get?_of_mem (h.nodup r.model) hentry

end Plain

section Marking

variable {σ ℓ α : Type} {store : Store (StateM σ) ℓ} {model : Model (Journaled σ) ℓ α}
  {named : List BuiltIn} {column : String}

/-- An update does not touch the snapshot. -/
theorem Adjusted.snapshot_eq {r next : Record α} {time : Instant}
    (adjusted : r.Adjusted model time next) : next.snapshot = r.snapshot := by
  rcases adjusted with rfl | ⟨values, -, rfl⟩
  · rfl
  · rfl

/-- An update changes nothing in the columns that marking is not about. -/
theorem Adjusted.keeps (h : model.Plain) {r next : Record α} {time : Instant}
    (adjusted : r.Adjusted model time next) (other : String)
    (hother : other ∉ model.schema.markedColumns column) :
    (next.attributes model).get? other = (r.attributes model).get? other := by
  rcases adjusted with rfl | ⟨values, hvalues, rfl⟩
  · rfl
  · refine sync_keeps h r fun entry hentry heq => ?_
    rw [hvalues] at hentry
    -- what is assigned is what the attribute holds, or it is the time of the change
    rcases List.mem_append.1 hentry with change | stamped
    · rw [← heq]
      exact ColumnValues.get?_of_mem (h.nodup r.model) (List.mem_filter.1 change).1
    · exact absurd (heq ▸ Schema.mem_markedColumns_of_stamp stamped) hother

/-- What a write leaves of a record in the columns that marking is not about: the attributes stay
what they are, and all attributes become the snapshot if the record was written. -/
structure Settled (model : Model (Journaled σ) ℓ α) (column : String) (r : Record α)
    (result : Except MappingFault Bool × Record α) : Prop where
  keeps : ∀ other, other ∉ model.schema.markedColumns column →
    (result.2.attributes model).get? other = (r.attributes model).get? other
  written : result.1 = .ok true → result.2.snapshot = .of (result.2.attributes model)
  unwritten : result.1 ≠ .ok true → result.2.snapshot = r.snapshot

/-- A record that was not written is settled if its attributes and its snapshot are the same. -/
theorem settled_of_keeps {r next : Record α} {outcome : Except MappingFault Bool}
    (unwritten : outcome ≠ .ok true)
    (keeps : ∀ other, other ∉ model.schema.markedColumns column →
      (next.attributes model).get? other = (r.attributes model).get? other)
    (snapshot : next.snapshot = r.snapshot) : r.Settled model column (outcome, next) :=
  ⟨keeps, fun taken => absurd taken unwritten, fun _ => snapshot⟩

/-- Writing a record that has a row settles it. -/
theorem settled_persist (hmodel : model.IsBuiltOf store.recorded.now named) (h : model.Plain)
    (column : String) {r : Record α} (stored : r.isStored = true) (w : σ) :
    Ensures (fun t => t = ([], w)) (r.persist model store.recorded)
      (fun result _ => r.Settled model column result) := by
  by_cases clean : r.dirtyColumns model = []
  · rw [persist_of_clean _ stored clean]
    exact Ensures.pure fun _ _ => settled_of_keeps nofun (fun _ _ => rfl) rfl
  · rw [persist_of_dirty _ stored clean]
    refine (ensures_update hmodel h.toSeparate clean w).bind fun result => ?_
    obtain ⟨outcome, next⟩ := result
    cases outcome with
    | error fault =>
      exact Ensures.pure fun _ ⟨_, adjusted⟩ =>
        settled_of_keeps nofun (adjusted.keeps h) adjusted.snapshot_eq
    | ok _ => exact Ensures.pure fun _ ⟨_, adjusted⟩ => ⟨adjusted.keeps h, fun _ => rfl, nofun⟩

/-- The statements that a write sends where some columns are dirty, said of the columns that marking
is not about: at most one, one if the record was written, and then an update of what is dirty. -/
def Sends (schema : Schema) (column : String) (dirty : List String)
    (outcome : Except MappingFault Bool) (journal : List Sent) : Prop :=
  (journal = [] ∧ outcome ≠ .ok true) ∨ ∃ sent, journal = [sent] ∧
    sent.statement.kind = some .update ∧ ∀ other, other ∉ schema.markedColumns column →
      (other ∈ sent.statement.written ↔ other ∈ dirty)

/-- An update writes what is dirty, and the time of the change. -/
theorem mem_written_updating {r : Record α} {d : Dialect} {key : Value} {scopes : List Scope}
    {time : Instant} {other : String} (hother : other ∉ model.schema.markedColumns column) :
    other ∈ (r.updating model d key scopes time).written ↔ other ∈ r.dirtyColumns model := by
  have unstamped : other ∉ (model.schema.stamp (r.dirtyColumns model) time).map Prod.fst := by
    intro stamped
    obtain ⟨entry, hentry, rfl⟩ := List.mem_map.1 stamped
    exact hother (Schema.mem_markedColumns_of_stamp hentry)
  show other ∈ (r.assigned model time).map Prod.fst ↔ _
  rw [assigned, List.map_append, List.mem_append, or_iff_left unstamped]
  rfl

/-- Writing a record that has a row. -/
theorem sends_persist (hmodel : model.IsBuiltOf store.recorded.now named) (h : model.Plain)
    (column : String) {r : Record α} (stored : r.isStored = true) (w : σ) :
    Ensures (fun t => t = ([], w)) (r.persist model store.recorded) (fun result t =>
      Sends model.schema column (r.dirtyColumns model) result.1 t.1) := by
  by_cases clean : r.dirtyColumns model = []
  · rw [persist_of_clean _ stored clean]
    rintro _ rfl
    exact .inl ⟨rfl, nofun⟩
  · refine (ensures_persist hmodel h.toSeparate stored clean w).mono fun result t updates => ?_
    rcases updates with ⟨key, told, -, sent⟩ | ⟨quiet, ⟨fault, failed⟩, -⟩
    · exact .inr ⟨_, sent, rfl, fun other hother => mem_written_updating hother⟩
    · exact .inl ⟨quiet, failed ▸ nofun⟩

/-- Setting the column for the mark and writing the record. -/
theorem ensures_writeColumn (hmodel : model.IsBuiltOf store.recorded.now named) (h : model.Plain)
    {r : Record α} (stored : r.isStored = true) (value : Value) (w : σ) :
    Ensures (fun t => t = ([], w)) (r.writeColumn model store.recorded column value)
      (fun result t => r.Settled model column result ∧
        Sends model.schema column (r.dirtyColumns model) result.1 t.1) := by
  rw [writeColumn]
  cases hset : model.setAttribute r.model column value with
  | error fault =>
    refine Ensures.pure fun t ht => ⟨?_, .inl ⟨congrArg Prod.fst ht, nofun⟩⟩
    exact settled_of_keeps nofun (fun _ _ => revert_keeps h rfl) rfl
  | ok a =>
    have same {other : String} (hother : other ∉ model.schema.markedColumns column) :
        (model.attributes a).get? other = (r.attributes model).get? other :=
      h.frame hset other fun heq => hother (Schema.mem_markedColumns_iff.2 (.inl heq))
    have dirty {other : String} (hother : other ∉ model.schema.markedColumns column) :
        other ∈ ({ r with model := a } : Record α).dirtyColumns model ↔
          other ∈ r.dirtyColumns model :=
      mem_dirtyColumns_congr h.toSeparate (same hother) rfl
    have stored : ({ r with model := a } : Record α).isStored = true := stored
    dsimp only
    refine ((settled_persist hmodel h column stored w).and
      (sends_persist hmodel h column stored w)).bind fun result => ?_
    obtain ⟨outcome, next⟩ := result
    have sends {t : List Sent × σ} (sent : Sends model.schema column
        (({ r with model := a } : Record α).dirtyColumns model) outcome t.1) :
        Sends model.schema column (r.dirtyColumns model) outcome t.1 :=
      sent.imp id fun ⟨sent, only, update, writes⟩ =>
        ⟨sent, only, update, fun other hother => (writes other hother).trans (dirty hother)⟩
    cases outcome with
    | error fault =>
      refine Ensures.pure fun t ⟨settled, sent⟩ => ⟨?_, sends sent⟩
      exact settled_of_keeps nofun (fun other hother => revert_keeps h
        ((settled.keeps other hother).trans (same hother))) (settled.unwritten nofun)
    | ok saved =>
      refine Ensures.pure fun t ⟨settled, sent⟩ => ⟨?_, sends sent⟩
      exact ⟨fun other hother => (settled.keeps other hother).trans (same hother),
        settled.written, settled.unwritten⟩

/-- Marking a record that has a row. -/
theorem ensures_marking (hmodel : model.IsBuiltOf store.recorded.now named) (h : model.Plain)
    (soft : model.schema.softDelete = some column) {r : Record α} (stored : r.isStored = true)
    {write : Write} (marking : write = .delete ∨ write = .restore) (w : σ) :
    Ensures (fun t => t = ([], w)) (r.perform model store.recorded write)
      (fun result t => r.Settled model column result ∧
        Sends model.schema column (r.dirtyColumns model) result.1 t.1) := by
  rcases marking with rfl | rfl
  · show Ensures _ (r.delete model store.recorded) _
    rw [delete, soft, stored]
    refine Ensures.bind (Q := fun _ t => t = ([], (store.now.run w).2)) ?_ fun time =>
      ensures_writeColumn hmodel h stored _ _
    rintro _ rfl
    rfl
  · show Ensures _ (r.restore model store.recorded) _
    rw [restore, Model.softDeleteColumn, soft]
    exact ensures_writeColumn hmodel h stored _ w

/-- **Marking a record writes its edits.** Let the enhancers be those of the library, in any number
and order, and let setting an attribute give it just what it is given. A delete or a restore of a
record that has a row sends at most one statement, and exactly one if it tells that the record was
written. Apart from the mark and the time of the change, this update assigns just the columns that
were dirty before. So it assigns the mark and the time of the change only, exactly if nothing else
was dirty; and what else was dirty still is afterwards, exactly if the write did not succeed or was
about NaNs, which always are. -/
theorem marks_with_edits (hmodel : model.IsBuiltOf store.recorded.now named) (h : model.Plain)
    (soft : model.schema.softDelete = some column) {r : Record α} (stored : r.isStored = true)
    {write : Write} (marking : write = .delete ∨ write = .restore) (w : σ) :
    let own := model.schema.markedColumns column
    let edits := (r.dirtyColumns model).filter fun other => decide (other ∉ own)
    let after := (r.perform model store.recorded write).run ([], w)
    ((after.2.1 = [] ∧ after.1.1 ≠ .ok true) ∨ ∃ sent, after.2.1 = [sent] ∧
        sent.statement.kind = some .update ∧
        ∀ other, other ∉ own → (other ∈ sent.statement.written ↔ other ∈ edits)) ∧
      ((∀ sent ∈ after.2.1, ∀ other ∈ sent.statement.written, other ∈ own) ↔
        after.2.1 = [] ∨ edits = []) ∧
      ((∀ other ∈ edits, other ∈ after.1.2.dirtyColumns model) ↔
        (after.1.1 = .ok true → ∀ other ∈ edits, ∃ value,
          (r.attributes model).get? other = some value ∧ value.isNaN = true)) := by
  intro own edits after
  obtain ⟨settled, sends⟩ := ensures_marking hmodel h soft stored marking w ([], w) rfl
  have edited {other : String} : other ∈ edits ↔ other ∈ r.dirtyColumns model ∧ other ∉ own := by
    simp [edits]
  have writes {sent : Sent} (h : ∀ other, other ∉ own →
      (other ∈ sent.statement.written ↔ other ∈ r.dirtyColumns model)) (other : String)
      (hother : other ∉ own) : other ∈ sent.statement.written ↔ other ∈ edits := by
    rw [h other hother, edited, and_iff_left hother]
  refine ⟨?_, ?_, ?_⟩
  · exact sends.imp id fun ⟨sent, only, update, written⟩ => ⟨sent, only, update, writes written⟩
  · rcases sends with ⟨quiet, -⟩ | ⟨sent, only, -, written⟩
    · exact ⟨fun _ => .inl quiet, fun _ => by rw [quiet]; exact nofun⟩
    · rw [only, List.forall_mem_singleton, or_iff_right (List.cons_ne_nil _ _),
        List.eq_nil_iff_forall_not_mem]
      constructor
      · intro within other hother
        have foreign := (edited.1 hother).2
        exact foreign (within other ((writes written other foreign).2 hother))
      · intro none other hother
        by_contra foreign
        exact none other ((writes written other foreign).1 hother)
  · by_cases taken : after.1.1 = .ok true
    · rw [forall_prop_of_true taken]
      refine forall₂_congr fun other hother => ?_
      rw [mem_dirtyColumns_of_snapshot h.toSeparate (settled.written taken),
        settled.keeps other (edited.1 hother).2]
    · refine iff_of_true (fun other hother => ?_) fun h => absurd h taken
      obtain ⟨dirty, foreign⟩ := edited.1 hother
      exact (mem_dirtyColumns_congr h.toSeparate (settled.keeps other foreign)
        (settled.unwritten taken)).2 dirty

end Marking

end Record

/-- Documents with a title that are marked in place of being deleted. -/
def markedDocs : Schema where
  table := "docs"
  columns := [{ name := "id", primaryKey := true }, { name := "title" }, { name := "deleted_at" },
    { name := "updated_at" }]
  timestamps := some { created := "created_at", updated := "updated_at" }
  softDelete := some "deleted_at"

/-- A document that was given another title since it was read, with a mark. -/
def titledDoc (mark : Value) : Record (String → Value) where
  model column :=
    if column = "id" then .int 5
    else if column = "title" then .text "b"
    else if column = "deleted_at" then mark
    else .null
  snapshot :=
    ⟨⟨[("id", .int 5), ("title", .text "a"), ("deleted_at", mark), ("updated_at", .null)]⟩⟩
  isStored := true

/-- Restoring the document writes its title too, which counts as saved then. -/
theorem Record.marks_with_edits_titledDoc :
    let store := Store.obliging .mysql
    let model := markedDocs.freeModel [Enhancer.columnScope "tenant" "tenant_id" (.int 7)]
    let r := titledDoc (.timestamp default)
    let after := (r.perform model store.recorded .restore).run ([], ())
    "title" ∈ r.dirtyColumns model ∧ (∃ sent, after.2.1 = [sent] ∧
      "title" ∈ sent.statement.written) ∧ "title" ∉ after.1.2.dirtyColumns model := by
  intro store model r
  have hmodel : model.IsBuiltOf store.recorded.now [.scope "tenant" "tenant_id" (.int 7)] := rfl
  have plain := (markedDocs.faithful_freeModel (m := Journaled Unit) (ℓ := Empty)
    [Enhancer.columnScope "tenant" "tenant_id" (.int 7)] (by decide)).plain
  have soft : model.schema.softDelete = some "deleted_at" := rfl
  have edits : ((r.dirtyColumns model).filter fun other =>
      decide (other ∉ model.schema.markedColumns "deleted_at")) = ["title"] := by
    decide +kernel
  have marking : Write.restore = .delete ∨ Write.restore = .restore := .inr rfl
  have saved : ((r.perform model store.recorded .restore).run ([], ())).1.1 = .ok true := by rfl
  obtain ⟨sends, -, settles⟩ :=
    Record.marks_with_edits hmodel plain soft (r := r) rfl marking ()
  rw [edits, saved] at sends settles
  rcases sends with ⟨-, unsaved⟩ | ⟨sent, only, -, writes⟩
  · exact absurd rfl unsaved
  · refine ⟨by decide +kernel, ⟨sent, only, (writes "title" (by decide)).2 (by decide)⟩, ?_⟩
    intro still
    have nans := settles.1 (fun other hother => List.mem_singleton.1 hother ▸ still) rfl
    obtain ⟨value, held, nan⟩ := nans "title" (by decide)
    obtain rfl : Value.text "b" = value := Option.some.inj held
    cases nan

/-- Deleting a document with an edit does not set the mark and the time of the change only: the
title is written as well, and is not dirty any more. -/
theorem Record.deletes_with_title :
    let store := Store.obliging .mysql
    let model := markedDocs.freeModel []
    let r := titledDoc .null
    let after := (r.delete model store.recorded).run ([], ())
    model.schema.markedColumns "deleted_at" = ["deleted_at", "updated_at"] ∧
      r.dirtyColumns model = ["title"] ∧
      after.2.1 = [{
        statement := {
          kind := some .update
          sql := "UPDATE `docs` SET `title` = ?, `deleted_at` = ?, `updated_at` = ? WHERE `id` = ?"
          bindings := [.text "b", .timestamp default, .timestamp default, .int 5]
          written := ["title", "deleted_at", "updated_at"] }
        completion := some { affected := 1, lastRowId := 5 } }] ∧
      after.1.2.dirtyColumns model = [] := by
  decide +kernel

end SqlMapper
