import SqlMapper.Proofs.Filter.Isolation
import SqlMapper.Proofs.Records.Restoring

/-!
# What deletes do to rows that are marked already

A row that is marked holds the time of its deletion. A delete of rows that a caller chose marks only
those that are not marked yet (`Selection.spares_marked`). A delete of a record sets the time in the
datum and writes what differs, to the row with its key, so a record that is marked is marked again,
with another time (`Record.ensures_writeColumn_row`). `deletes_of_marked` says when that time is the
same, and `Record.marks_twice` is a document that is deleted twice.
-/

namespace SqlMapper

/-- A statement that is not about rows which are marked in a column, given the truth of all
predicates for a row. -/
def Statement.SparesMarked (d : Dialect) (column : String) (s : Statement) : Prop :=
  ∃ clauses, CompiledWith d clauses s ∧ ∀ row : Predicate Query → Truth,
    row (.nullCheck column false) ≠ .yes → Truth.ofClauses row clauses ≠ .yes

section Choosing

variable {σ ℓ α : Type} {store : Store (StateM σ) ℓ} {model : Model (Journaled σ) ℓ α}
  {named : List BuiltIn} {column : String}

/-- A delete of rows that were chosen by clauses joined by `AND` spares those that are marked, or it
removes rows because the caller left out the enhancer that marks them. -/
theorem Selection.spares_marked (hmodel : model.IsBuiltOf store.recorded.now named)
    (soft : model.schema.softDelete = some column) {choices : List Choice} {s : Selection ℓ}
    (hs : choices.foldlM (choose model) (ofModel model) = .ok s)
    (joined : ∀ c ∈ (choices.flatMap fun c => c.clauses model.schema).tail, c.connector = .and)
    (w : σ) {sent : Sent} (hsent : sent ∈ ((s.delete model store.recorded).run.run ([], w)).2.1) :
    (Enhancer.softDeletesName ∈ s.skipped ∧ sent.statement.kind = some .delete) ∨
      sent.statement.SparesMarked store.dialect column := by
  have fresh : (ofModel model : Selection ℓ).Chosen [] [] := chosen_ofModel model
  have chosen := fresh.choices hs
  rw [List.nil_append, List.nil_append] at chosen
  by_cases marking : .softDeletes ∈ s.builtIns model.schema named
  · have compiled := Request.sends_runDelete hmodel chosen ([], w) nofun sent hsent
    have guarded : ⟨.and, .nullCheck column false⟩ ∈ Request.delete.added model.schema named s :=
      Request.softDeletes_mem_added soft (by decide) marking
    have all_and := Request.connector_of_mem_added model.schema named s .delete
    exact .inr ⟨_, compiled, fun row marked selected =>
      marked (Truth.yes_of_added joined all_and guarded selected)⟩
  · have skipped : Enhancer.softDeletesName ∈ s.skipped := by
      have asked : BuiltIn.softDeletes ∈ BuiltIn.all model.schema named := by
        rw [BuiltIn.all, soft]
        simp
      by_contra kept
      exact marking (List.mem_filter.2 ⟨asked, by simpa [BuiltIn.name] using kept⟩)
    have restricts := restricts_of_heard hmodel (chosen.silent .preDelete) fun _ => marking
    have removal : SqlMapper.Sends (Statement.IsOf fun kind => kind = .delete)
        (s.delete model store.recorded).run := by
      rw [delete, Executor.runDelete]
      exact sends_runWrite store (p := fun kind => kind = .delete) rfl fun l hl =>
        Listener.asksOnly_of_restricts (restricts l hl) _ _
    obtain ⟨kind, hkind, rfl⟩ := removal ([], w) nofun sent hsent
    exact .inl ⟨skipped, hkind⟩

end Choosing

/-- Whether the time of the change stands in the column for the mark. -/
def Schema.StampsMark (schema : Schema) (column : String) : Prop :=
  ∃ kept, schema.timestamps = some kept ∧ kept.updated = column

namespace Record

section Writing

variable {σ ℓ α : Type} {store : Store (StateM σ) ℓ} {model : Model (Journaled σ) ℓ α}
  {named : List BuiltIn} {column : String}

/-- Setting one attribute of a record that has a row and writing it sends at most one statement, the
update of what differs then. If nothing is sent although the write succeeds, nothing differed. -/
theorem ensures_writeColumn_row (hmodel : model.IsBuiltOf store.recorded.now named) {r : Record α}
    (stored : r.isStored = true) (column : String) (value : Value) (w : σ) :
    Ensures (fun t => t = ([], w)) (r.writeColumn model store.recorded column value)
      (fun result t =>
        (t.1 = [] ∧ ∀ saved, result.1 = .ok saved → ∃ a,
          model.setAttribute r.model column value = .ok a ∧
            ({ r with model := a } : Record α).dirtyColumns model = []) ∨
        ∃ a key told, model.setAttribute r.model column value = .ok a ∧
          ({ r with model := a } : Record α).key model = .ok key ∧ t.1 = [{
            statement := ({ r with model := a } : Record α).updating model store.dialect key
              (named.filterMap BuiltIn.scope?) (store.now.run w).1
            completion := told }]) := by
  rw [writeColumn]
  cases hset : model.setAttribute r.model column value with
  | error fault =>
    rintro _ rfl
    exact .inl ⟨rfl, fun saved succeeded => by cases succeeded⟩
  | ok a =>
    dsimp only
    by_cases clean : ({ r with model := a } : Record α).dirtyColumns model = []
    · rw [persist_of_clean (r := { r with model := a }) store.recorded stored clean, pure_bind]
      rintro _ rfl
      exact .inl ⟨rfl, fun _ _ => ⟨a, rfl, clean⟩⟩
    · rw [persist_of_dirty (r := { r with model := a }) store.recorded stored clean, bind_assoc]
      refine (ensures_update_or_stop hmodel clean w).bind fun result => ?_
      obtain ⟨fault | _, next⟩ := result
      · refine Ensures.pure fun _ outcome => ?_
        rcases outcome.1 with ⟨key, told, hkey, sent⟩ | ⟨quiet, -⟩
        · exact .inr ⟨a, key, told, rfl, hkey, sent⟩
        · exact .inl ⟨quiet, fun saved succeeded => by cases succeeded⟩
      · refine Ensures.pure fun _ outcome => ?_
        rcases outcome.1 with ⟨key, told, hkey, sent⟩ | ⟨-, ⟨_, failed⟩, -⟩
        · exact .inr ⟨a, key, told, rfl, hkey, sent⟩
        · cases failed

/-- A record of which the datum alone differs has the key of the snapshot, if there is one. -/
theorem key_eq_of_recorded {r : Record α} {key own : Value} (hkey : r.key model = .ok key)
    (recorded : r.snapshot.recorded? model.schema.primaryKey = some own) : key = own := by
  rw [Record.key, recorded] at hkey
  cases hnull : own.isNull with
  | true => simp [hnull] at hkey
  | false => simpa [hnull, eq_comm] using hkey

section Marked

variable {r : Record α} {mark : Value} {time : Instant} (h : model.Plain)
  (recorded : r.snapshot.recorded? column = some mark)
  (held : (r.attributes model).get? column = some (.timestamp time))
include h recorded held

/-- A time that was set for the mark is a change if it is another one than the snapshot has. -/
theorem mem_changes_mark (value : Value) :
    (column, value) ∈ (r.snapshot.changes (r.attributes model)).entries ↔
      mark ≠ .timestamp time ∧ value = .timestamp time := by
  have holds : r.snapshot.persisted.holds column (.timestamp time) = true ↔
      mark = .timestamp time := by
    rw [ColumnValues.holds, show r.snapshot.persisted.get? column = some mark from recorded]
    cases mark <;> simp [Value.equals]
  constructor
  · intro changed
    obtain ⟨mem, differs⟩ := List.mem_filter.1 changed
    have own := ColumnValues.get?_of_mem (h.nodup r.model) mem
    obtain rfl : Value.timestamp time = value := Option.some.inj (held.symm.trans own)
    exact ⟨fun same => by simp [holds.2 same] at differs, rfl⟩
  · rintro ⟨other, rfl⟩
    refine List.mem_filter.2 ⟨ColumnValues.mem_of_get? held, ?_⟩
    simpa using mt holds.1 other

/-- Then the column for the mark is dirty. -/
theorem mem_dirtyColumns_mark : column ∈ r.dirtyColumns model ↔ mark ≠ .timestamp time := by
  constructor
  · intro changed
    obtain ⟨⟨_, value⟩, hentry, rfl⟩ := List.mem_map.1 changed
    exact ((mem_changes_mark h recorded held value).1 hentry).1
  · intro other
    exact List.mem_map_of_mem (f := Prod.fst)
      ((mem_changes_mark h recorded held _).2 ⟨other, rfl⟩)

/-- What an update assigns to the column for the mark: the time that was set there, if it is another
one than the snapshot has, and else the time of the change, if that stands there too. -/
theorem mem_assigned_mark (later : Instant) (value : Value) :
    (column, value) ∈ r.assigned model later ↔
      (mark ≠ .timestamp time ∧ value = .timestamp time) ∨
        (mark = .timestamp time ∧ model.schema.StampsMark column ∧ value = .timestamp later) := by
  have dirty := mem_dirtyColumns_mark h recorded held
  have stamp : (column, value) ∈ model.schema.stamp (r.dirtyColumns model) later ↔
      mark = .timestamp time ∧ model.schema.StampsMark column ∧ value = .timestamp later := by
    rw [Schema.stamp, Schema.StampsMark]
    cases model.schema.timestamps with
    | none => simp
    | some kept =>
      dsimp only
      by_cases changed : kept.updated ∈ r.dirtyColumns model
      · rw [if_pos changed]
        refine iff_of_false List.not_mem_nil ?_
        rintro ⟨same, ⟨_, ⟨⟩, rfl⟩, -⟩
        exact dirty.1 changed same
      · rw [if_neg changed, List.mem_singleton, Prod.mk.injEq]
        constructor
        · rintro ⟨rfl, rfl⟩
          exact ⟨not_not.1 (mt dirty.2 changed), ⟨kept, rfl, rfl⟩, rfl⟩
        · rintro ⟨-, ⟨_, ⟨⟩, rfl⟩, rfl⟩
          exact ⟨rfl, rfl⟩
  rw [assigned, List.mem_append, mem_changes_mark h recorded held, stamp]

/-- So it assigns nothing but the mark of the snapshot exactly if the times are the same. -/
theorem assigned_mark_iff (later : Instant) :
    (∀ value, (column, value) ∈ r.assigned model later → value = mark) ↔
      mark = .timestamp time ∧ (model.schema.StampsMark column → mark = .timestamp later) := by
  simp only [mem_assigned_mark h recorded held]
  constructor
  · intro only
    have same : mark = .timestamp time := by
      by_contra other
      exact other (only _ (.inl ⟨other, rfl⟩)).symm
    exact ⟨same, fun stamps => (only _ (.inr ⟨same, stamps, rfl⟩)).symm⟩
  · rintro ⟨same, stamped⟩ value (⟨other, -⟩ | ⟨-, stamps, rfl⟩)
    · exact absurd same other
    · exact (stamped stamps).symm

end Marked

end Writing

end Record

section Deleting

variable {σ ℓ α : Type} {store : Store (StateM σ) ℓ} {model : Model (Journaled σ) ℓ α}
  {named : List BuiltIn} {column : String}

/-- **Deletes of rows that are marked.** Let the enhancers be those of the library, in any number
and order, and let the schema have a column for the mark. A delete of chosen rows, where the choices
add clauses joined by `AND`, sends only statements that spare the rows that are marked; or it
removes rows, since the caller left out the enhancer that marks them. A delete of a record that has
a row sends at most one statement. That is an update of all rows within the scopes that have the key
of the snapshot, marked or not. Where setting an attribute gives it just what it is given, the
update assigns nothing but the mark of the snapshot to the column for the mark, exactly if the clock
tells the time that the snapshot has there, and tells it once more for the time of the change, if
that stands in the same column. If the clock tells another time and the delete succeeds, then the
update is sent. -/
theorem deletes_of_marked (hmodel : model.IsBuiltOf store.recorded.now named)
    (soft : model.schema.softDelete = some column) (w : σ) :
    (∀ (choices : List Choice) (s : Selection ℓ),
      choices.foldlM (Selection.choose model) (Selection.ofModel model) = .ok s →
      (∀ c ∈ (choices.flatMap fun c => c.clauses model.schema).tail, c.connector = .and) →
      ∀ sent ∈ ((s.delete model store.recorded).run.run ([], w)).2.1,
        (Enhancer.softDeletesName ∈ s.skipped ∧ sent.statement.kind = some .delete) ∨
          sent.statement.SparesMarked store.dialect column) ∧
    ∀ r : Record α, r.isStored = true → ∀ mark, r.snapshot.recorded? column = some mark →
      let time := (store.now.run w).1
      let later := (store.now.run (store.now.run w).2).1
      let scopes := named.filterMap BuiltIn.scope?
      let after := (r.delete model store.recorded).run ([], w)
      (after.2.1 = [] ∨ ∃ sent key entries, after.2.1 = [sent] ∧
        sent.statement = store.dialect.assigning model.schema.table entries
          (model.schema.rowClauses key scopes) ∧
        (∀ own, r.snapshot.recorded? model.schema.primaryKey = some own → key = own) ∧
        (∀ row, Truth.ofClauses row (model.schema.rowClauses key scopes) = .yes ↔
          row (.compare model.schema.primaryKey .eq key) = .yes ∧
            ∀ scope ∈ scopes, row (.comparison scope.column .eq scope.value) = .yes) ∧
        (model.Plain → ((∀ value, (column, value) ∈ entries → value = mark) ↔
          mark = .timestamp time ∧
            (model.schema.StampsMark column → mark = .timestamp later)))) ∧
      (model.Plain → mark ≠ .timestamp time → ∀ saved, after.1.1 = .ok saved →
        after.2.1 ≠ []) := by
  refine ⟨fun choices s hs joined sent hsent =>
    Selection.spares_marked hmodel soft hs joined w hsent, ?_⟩
  intro r stored mark recorded time later scopes after
  have written := Record.ensures_writeColumn_row hmodel stored column (.timestamp time)
    (store.now.run w).2 ([], (store.now.run w).2) rfl
  have marks : after = (r.writeColumn model store.recorded column (.timestamp time)).run
      ([], (store.now.run w).2) := by
    show (r.delete model store.recorded).run ([], w) = _
    rw [Record.delete, soft, stored]
    rfl
  rw [← marks] at written
  refine ⟨?_, fun plain other saved succeeded quiet => ?_⟩
  · rcases written with ⟨quiet, -⟩ | ⟨a, key, told, hset, hkey, sent⟩
    · exact .inl quiet
    · -- setting the mark leaves the snapshot as it is, and with it the key of the row
      exact .inr ⟨_, key, _, sent, rfl, fun own hown => Record.key_eq_of_recorded hkey hown,
        model.schema.ofClauses_rowClauses key scopes, fun plain => Record.assigned_mark_iff
          (r := { r with model := a }) plain recorded (plain.reports hset) later⟩
  · rcases written with ⟨-, clean⟩ | ⟨a, key, told, -, -, sent⟩
    · obtain ⟨a, hset, clean⟩ := clean saved succeeded
      have dirty := (Record.mem_dirtyColumns_mark (r := { r with model := a }) plain recorded
        (plain.reports hset)).2 other
      rw [clean] at dirty
      cases dirty
    · cases quiet.symm.trans sent

end Deleting

/-- A store like `Store.obliging` whose clock tells a later second each time. -/
def Store.ticking : Store (StateM Nat) Empty where
  dialect := .mysql
  source := {
    acquire := pure (.ok ())
    fetch := fun _ => pure (.ok [])
    execute := fun _ => pure (.ok { affected := 1, lastRowId := 5 }) }
  now := modifyGet fun seconds : Nat => (⟨seconds, 0⟩, seconds + 1)
  hear := fun listener _ => nomatch listener
  notice := fun _ => pure ()

/-- The documents with some title. -/
def titledTrash : Choice :=
  .filter [.where_ .and (.compare "title" .eq (.text "a"))]

/-- A delete of these documents spares those that are marked. A delete of one of them that is marked
gives it another time. -/
theorem deletes_of_marked_trashedDoc :
    let store := Store.ticking
    let model : Model (Journaled Nat) Empty (String → Value) := trashDocs.freeModel []
    let chosen := (Selection.ofModel model).filter fun op => op.mapQuery fun q =>
      q.refineEach [.where_ .and (.compare "title" .eq (.text "a"))]
    let after := (trashedDoc.delete model store.recorded).run ([], 8)
    (∀ sent ∈ ((chosen.delete model store.recorded).run.run ([], 8)).2.1,
      sent.statement.SparesMarked .mysql "deleted_at") ∧
      ∃ sent key entries, after.2.1 = [sent] ∧ sent.statement =
        Dialect.mysql.assigning "docs" entries (trashDocs.rowClauses key []) ∧
        ¬ ∀ value, ("deleted_at", value) ∈ entries → value = .timestamp default := by
  intro store model chosen
  have hmodel : model.IsBuiltOf store.recorded.now [] := rfl
  have plain := (trashDocs.faithful_freeModel (m := Journaled Nat) (ℓ := Empty) []
    (by decide)).plain
  have soft : model.schema.softDelete = some "deleted_at" := rfl
  obtain ⟨spares, marks⟩ := deletes_of_marked hmodel soft 8
  have marked : trashedDoc.snapshot.recorded? "deleted_at" = some (.timestamp default) := by rfl
  obtain ⟨sends, sends_some⟩ := marks trashedDoc rfl _ marked
  have succeeded : ((trashedDoc.delete model store.recorded).run ([], 8)).1.1 = .ok true := by rfl
  refine ⟨fun sent hsent => ?_, ?_⟩
  · have chose : [titledTrash].foldlM (Selection.choose model) (Selection.ofModel model) =
        .ok chosen := rfl
    refine (spares _ chosen chose (fun c hc => by cases hc) sent hsent).resolve_left ?_
    rintro ⟨skipped, -⟩
    cases skipped
  · have some_sent := sends_some plain (by decide) true succeeded
    rcases sends with quiet | ⟨sent, key, entries, only, update, -, -, only_mark⟩
    · exact absurd quiet some_sent
    · refine ⟨sent, key, entries, only, update, fun same => ?_⟩
      exact absurd ((only_mark plain).1 same).1 (by decide)

/-- A document that is marked is marked again by a delete, and once more by another one, each time
with the time that it is by then. A delete of chosen documents would have spared it. -/
theorem Record.marks_twice :
    let store := Store.ticking
    let model : Model (Journaled Nat) Empty (String → Value) := trashDocs.freeModel []
    let chosen := (Selection.ofModel model).filter fun op => op.mapQuery fun q =>
      q.refineEach [.where_ .and (.compare "title" .eq (.text "a"))]
    let first := (trashedDoc.delete model store.recorded).run ([], 8)
    let second := (first.1.2.delete model store.recorded).run first.2
    trashedDoc.snapshot.recorded? "deleted_at" = some (.timestamp ⟨0, 0⟩) ∧
      second.2.1.map (fun sent => (sent.statement.sql, sent.statement.bindings)) =
        [("UPDATE `docs` SET `deleted_at` = ? WHERE `id` = ?", [.timestamp ⟨8, 0⟩, .int 5]),
          ("UPDATE `docs` SET `deleted_at` = ? WHERE `id` = ?", [.timestamp ⟨9, 0⟩, .int 5])] ∧
      ((chosen.delete model store.recorded).run.run ([], 8)).2.1.map
          (fun sent => sent.statement.sql) =
        ["UPDATE `docs` SET `deleted_at` = ? WHERE `title` = ? AND `deleted_at` IS NULL"] := by
  decide +kernel

end SqlMapper
