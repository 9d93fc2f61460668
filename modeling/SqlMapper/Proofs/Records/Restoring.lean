import SqlMapper.Proofs.Records.Course
import SqlMapper.Proofs.Records.Creation
import SqlMapper.Proofs.Run.Asking

/-!
# What a restore of a record makes of its row

A restore takes the mark off in the datum and then writes the record, and to write a record that has
no row is to insert one. So a restore of a record that has a row is an update
(`Record.sends_writeColumn_asked`), and a restore of one that was never saved, or whose row was
removed, makes a row (`Record.makesRow_writeColumn`), where a delete does nothing.
`Record.restores_or_inserts` puts the two together, and `Record.restores_removed` is a document that
is back after it was removed and restored.
-/

namespace SqlMapper

/-- Whether statements of a kind make new rows. -/
def StatementKind.Inserts (kind : StatementKind) : Prop :=
  kind = .insert ∨ kind = .insertMany

instance (kind : StatementKind) : Decidable kind.Inserts :=
  inferInstanceAs (Decidable (_ ∨ _))

/-- Whether a statement makes new rows. -/
def Statement.Inserts (s : Statement) : Prop :=
  s.IsOf StatementKind.Inserts

/-- A statement of another kind makes no rows. -/
theorem Statement.IsOf.not_inserts {s : Statement} (h : s.IsOf fun kind => ¬ kind.Inserts) :
    ¬ s.Inserts := by
  rintro ⟨kind, hkind, inserts⟩
  obtain ⟨other, hother, leaves⟩ := h
  obtain rfl : kind = other := Option.some.inj (hkind.symm.trans hother)
  exact leaves inserts

namespace Record

/-! ## Whether there is a row -/

section Storing

variable {σ ℓ α : Type} {model : Model (StateM σ) ℓ α} {store : Store (StateM σ) ℓ}
  {P : σ → Prop}

/-- A record has a row after a write if it had one before or if the write succeeded. -/
def Stays (r : Record α) (result : Except MappingFault Bool × Record α) : Prop :=
  result.2.isStored = true ↔ r.isStored = true ∨ ∃ saved, result.1 = .ok saved

/-- A write that fails and changes the datum alone leaves the row that there was. -/
theorem SameRow.stays {r next : Record α} (same : r.SameRow next) (fault : MappingFault) :
    r.Stays (.error fault, next) := by
  have failed : ¬ ∃ saved, (Except.error fault : Except MappingFault Bool) = .ok saved := nofun
  rw [Stays, or_iff_left failed, same.isStored]

/-- Writing a record takes no row from it, and gives it one if it succeeds. -/
theorem stays_persist (r : Record α) :
    Ensures P (r.persist model store) (fun result _ => r.Stays result) := by
  rw [persist]
  split
  · next clean =>
    rw [Bool.and_eq_true] at clean
    exact Ensures.pure fun _ _ => iff_of_true clean.1 (.inl clean.1)
  · dsimp only
    split
    all_goals
      refine Ensures.bind (Q := fun result _ => r.SameRow result.2) ?_ fun result => ?_
    · exact sameRow_update r
    · obtain ⟨fault | _, next⟩ := result
      · exact Ensures.pure fun _ same => same.stays fault
      · exact Ensures.pure fun _ _ => iff_of_true rfl (.inr ⟨true, rfl⟩)
    · exact sameRow_create r
    · obtain ⟨fault | _, next⟩ := result
      · exact Ensures.pure fun _ same => same.stays fault
      · exact Ensures.pure fun _ _ => iff_of_true rfl (.inr ⟨true, rfl⟩)

variable (model store) in
/-- So does setting one attribute and saving. -/
theorem stays_writeColumn (r : Record α) (column : String) (value : Value) :
    Ensures P (r.writeColumn model store column value) (fun result _ => r.Stays result) := by
  rw [writeColumn]
  cases model.setAttribute r.model column value with
  | error fault => exact Ensures.pure fun _ _ => (sameRow_sync model r _).stays fault
  | ok a =>
    refine (stays_persist { r with model := a }).bind fun result => ?_
    obtain ⟨fault | saved, next⟩ := result
    · exact Ensures.pure fun _ stays => stays
    · exact Ensures.pure fun _ stays => stays

end Storing

/-! ## What is sent -/

section Sending

variable {σ ℓ α : Type} {model : Model (StateM σ) ℓ α} {store : Store (StateM σ) ℓ}
  {p : StatementKind → Prop}

/-- No listener that hears of an update of a row asks for statements of other kinds. -/
def AsksForUpdates (p : StatementKind → Prop) (model : Model (StateM σ) ℓ α)
    (store : Store (StateM σ) ℓ) : Prop :=
  ∀ key, ∀ l ∈ ((Selection.ofKey model key).toOperation model store).heard .preUpdate,
    AsksOnly p (Listener.hear store.now store.hear) .preUpdate l

/-- No listener that hears of a new row calls its insert off. -/
def LetsCreate (model : Model (StateM σ) ℓ α) (store : Store (StateM σ) ℓ) : Prop :=
  ∀ l ∈ ((Selection.ofModel model).toOperation model store).heard .preCreate,
    LetsPass (Listener.hear store.now store.hear) .preCreate l

/-- An update of a record sends updates, and what listeners ask for. -/
theorem sends_update_asked (hupdate : p .update) (asks : AsksForUpdates p model store)
    (r : Record α) :
    SqlMapper.Sends (Statement.IsOf p) (r.update model.recorded store.recorded) := by
  rw [update]
  cases r.key model.recorded with
  | error fault => exact Sends.pure _
  | ok key =>
    dsimp only
    rw [model.allEnhancers_recorded, adjustUpdate_recorded]
    refine Ensures.bind (Sends.aside _) fun values => ?_
    obtain ⟨⟨outcome, next⟩, hsync⟩ : ∃ synced, r.sync model.recorded values = synced := ⟨_, rfl⟩
    rw [hsync]
    cases outcome with
    | error fault => exact Sends.pure _
    | ok _ =>
      dsimp only
      rw [Selection.toOperation_recorded]
      refine Ensures.bind (sends_runUpdate_asked store hupdate (asks key) values) fun updated => ?_
      cases updated with
      | error fault => exact Sends.pure _
      | ok _ => exact Sends.pure _

/-- Writing a record that has a row is an update of the row, if anything. -/
theorem sends_persist_asked (hupdate : p .update) (asks : AsksForUpdates p model store)
    {r : Record α} (stored : r.isStored = true) :
    SqlMapper.Sends (Statement.IsOf p) (r.persist model.recorded store.recorded) := by
  by_cases clean : r.dirtyColumns model.recorded = []
  · rw [persist_of_clean store.recorded stored clean]
    exact Sends.pure _
  · rw [persist_of_dirty store.recorded stored clean]
    refine Ensures.bind (sends_update_asked hupdate asks r) fun result => ?_
    obtain ⟨fault | _, next⟩ := result
    · exact Sends.pure _
    · exact Sends.pure _

/-- So is setting one of its attributes and saving. -/
theorem sends_writeColumn_asked (hupdate : p .update) (asks : AsksForUpdates p model store)
    {r : Record α} (stored : r.isStored = true) (column : String) (value : Value) :
    SqlMapper.Sends (Statement.IsOf p)
      (r.writeColumn model.recorded store.recorded column value) := by
  rw [writeColumn]
  cases model.recorded.setAttribute r.model column value with
  | error fault => exact Sends.pure _
  | ok a =>
    refine Ensures.bind (sends_persist_asked hupdate asks (r := { r with model := a }) stored)
      fun result => ?_
    obtain ⟨fault | _, next⟩ := result
    · exact Sends.pure _
    · exact Sends.pure _

/-- What comes of an insert that is not called off: one statement is sent, and it makes a row, or
there is a fault and nothing is sent. -/
def MakesRow {β : Type} (result : Except MappingFault β × Record α) (journal : List Sent) : Prop :=
  (journal = [] ∧ ∃ fault, result.1 = .error fault) ∨
    ∃ sent, journal = [sent] ∧ sent.statement.kind = some .insert

/-- Inserting the row of a record. -/
theorem makesRow_create (lets : LetsCreate model store) (r : Record α) :
    Ensures (fun t => t.1 = []) (r.create model.recorded store.recorded)
      (fun result t => MakesRow result t.1) := by
  rw [create, model.allEnhancers_recorded, adjustInsert_recorded]
  refine (ensures_aside (J := fun journal => journal = []) _).bind fun values => ?_
  obtain ⟨⟨outcome, next⟩, hsync⟩ : ∃ synced, r.sync model.recorded values = synced := ⟨_, rfl⟩
  rw [hsync]
  cases outcome with
  | error fault => exact Ensures.pure fun _ quiet => .inl ⟨quiet, fault, rfl⟩
  | ok _ =>
    dsimp only
    rw [Selection.toOperation_recorded, Executor.runInsert]
    refine (ensures_insertRows_once store .insert lets [values] _).bind fun inserted => ?_
    cases inserted with
    | error fault =>
      exact Ensures.pure fun _ outcome => outcome.imp_left <| And.imp_right fun _ => ⟨fault, rfl⟩
    | ok result =>
      refine Ensures.pure fun _ outcome => .inr (outcome.resolve_left ?_)
      rintro ⟨-, _, failed⟩
      cases failed

/-- What comes of an insert does not depend on what is made of its result, as long as a fault stays
one. -/
theorem MakesRow.congr {β γ : Type} {result : Except MappingFault β × Record α}
    {other : Except MappingFault γ × Record α} {journal : List Sent}
    (h : MakesRow result journal)
    (fails : ∀ fault, result.1 = .error fault → ∃ fault, other.1 = .error fault) :
    MakesRow other journal :=
  h.imp_left fun ⟨quiet, fault, failed⟩ => ⟨quiet, fails fault failed⟩

/-- Setting one attribute of a record that has no row and writing it makes a row. -/
theorem makesRow_writeColumn (lets : LetsCreate model store) {r : Record α}
    (new : r.isStored = false) (column : String) (value : Value) :
    Ensures (fun t => t.1 = []) (r.writeColumn model.recorded store.recorded column value)
      (fun result t => MakesRow result t.1) := by
  rw [writeColumn]
  cases model.recorded.setAttribute r.model column value with
  | error fault => exact Ensures.pure fun _ quiet => .inl ⟨quiet, fault, rfl⟩
  | ok a =>
    dsimp only
    rw [persist_of_new store.recorded (r := { r with model := a }) new, bind_assoc]
    refine (makesRow_create lets { r with model := a }).bind fun result => ?_
    obtain ⟨fault | _, next⟩ := result
    · exact Ensures.pure fun _ made => made.congr fun _ _ => ⟨fault, rfl⟩
    · exact Ensures.pure fun _ made => made.congr nofun

variable (store) in
/-- **A restore makes a row for a record that has none.** Take any model with a column for the mark,
any enhancers, listeners and database, and a record in any state. If the record has a row, a restore
leaves it that, and it sends no insert unless a listener that hears of the update asks for one. If
it has none, a delete does nothing and tells so, but a restore gives it a row whenever it succeeds:
if no listener calls the insert off, then one statement is sent, an insert, or nothing is sent and
there is a fault. So with such listeners, that no restore makes a row and that one of a record
without a row sends nothing and leaves it without, is true exactly if the record has a row or the
restore fails before anything is sent. -/
theorem restores_or_inserts {column : String} (soft : model.schema.softDelete = some column)
    (r : Record α) (w : σ) :
    let after := (r.restore model.recorded store.recorded).run ([], w)
    (r.isStored = true → after.1.2.isStored = true ∧
      (AsksForUpdates (fun kind => ¬ kind.Inserts) model store →
        ∀ sent ∈ after.2.1, ¬ sent.statement.Inserts)) ∧
    (r.isStored = false →
      r.delete model.recorded store.recorded = pure (.ok false, r) ∧
      (after.1.2.isStored = true ↔ ∃ saved, after.1.1 = .ok saved) ∧
      (LetsCreate model store → (after.2.1 = [] ∧ ∃ fault, after.1.1 = .error fault) ∨
        ∃ sent, after.2.1 = [sent] ∧ sent.statement.kind = some .insert)) ∧
    (AsksForUpdates (fun kind => ¬ kind.Inserts) model store → LetsCreate model store →
      (((∀ sent ∈ after.2.1, ¬ sent.statement.Inserts) ∧
          (r.isStored = false → after.2.1 = [] ∧ after.1.2.isStored = false)) ↔
        r.isStored = true ∨ after.2.1 = [])) := by
  intro after
  have writes : r.restore model.recorded store.recorded =
      r.writeColumn model.recorded store.recorded column .null := by
    rw [restore, Model.softDeleteColumn,
      show model.recorded.schema.softDelete = some column from soft]
  have stays : r.Stays after.1 := by
    have ensured := stays_writeColumn model.recorded store.recorded (P := fun _ => True) r column
      .null ([], w) trivial
    rwa [← writes] at ensured
  have updates (stored : r.isStored = true)
      (asks : AsksForUpdates (fun kind => ¬ kind.Inserts) model store) :
      ∀ sent ∈ after.2.1, ¬ sent.statement.Inserts := by
    have sends := sends_writeColumn_asked (by decide) asks stored column .null ([], w) nofun
    rw [← writes] at sends
    exact fun sent hsent => (sends sent hsent).not_inserts
  have creates (new : r.isStored = false) (lets : LetsCreate model store) :
      MakesRow after.1 after.2.1 := by
    have made := makesRow_writeColumn lets new column .null ([], w) rfl
    rwa [← writes] at made
  refine ⟨fun stored => ⟨stays.2 (.inl stored), updates stored⟩,
    fun new => ⟨?_, ?_, creates new⟩, fun asks lets => ⟨fun spared => ?_, ?_⟩⟩
  · rw [delete, show model.recorded.schema.softDelete = some column from soft, new]
    rfl
  · have unstored : ¬ r.isStored = true := by simp [new]
    exact stays.trans (or_iff_right unstored)
  · cases stored : r.isStored with
    | true => exact .inl rfl
    | false => exact .inr (spared.2 stored).1
  · rintro (stored | quiet)
    · exact ⟨updates stored asks, fun new => by rw [stored] at new; cases new⟩
    · rw [quiet]
      refine ⟨nofun, fun new => ⟨rfl, Bool.eq_false_iff.2 fun stored => ?_⟩⟩
      rcases creates new lets with ⟨-, fault, failed⟩ | ⟨sent, only, -⟩
      · rcases stays.1 stored with stored | ⟨saved, succeeded⟩
        · rw [new] at stored
          cases stored
        · cases failed.symm.trans succeeded
      · cases quiet.symm.trans only

end Sending

end Record

/-- Documents that are marked in place of being deleted. -/
def trashDocs : Schema where
  table := "docs"
  columns := [{ name := "id", primaryKey := true }, { name := "title" }, { name := "deleted_at" }]
  softDelete := some "deleted_at"

/-- A document that is marked. -/
def trashedDoc : Record (String → Value) where
  model column :=
    if column = "id" then .int 5 else if column = "title" then .text "a" else .timestamp default
  snapshot := ⟨⟨[("id", .int 5), ("title", .text "a"), ("deleted_at", .timestamp default)]⟩⟩
  isStored := true

/-- A restore of the document is no insert, and one of a new document with the same attributes is
nothing but an insert, if it succeeds. -/
theorem Record.restores_or_inserts_trashedDoc :
    let store := Store.obliging .mysql
    let model : Model (StateM Unit) Empty (String → Value) := trashDocs.freeModel []
    let restored := (trashedDoc.restore model.recorded store.recorded).run ([], ())
    let made :=
      ((Record.ofModel trashedDoc.model).restore model.recorded store.recorded).run ([], ())
    (restored.1.2.isStored = true ∧ ∀ sent ∈ restored.2.1, ¬ sent.statement.Inserts) ∧
      ((made.2.1 = [] ∧ ∃ fault, made.1.1 = .error fault) ∨
        ∃ sent, made.2.1 = [sent] ∧ sent.statement.kind = some .insert) := by
  intro store model
  have unheard (key : Value) :
      ((Selection.ofKey model key).toOperation model store).heard .preUpdate = [] := rfl
  have unseen : ((Selection.ofModel model).toOperation model store).heard .preCreate = [] := rfl
  have asks : Record.AsksForUpdates (fun kind => ¬ kind.Inserts) model store := by
    intro key l hl
    rw [unheard] at hl
    cases hl
  have lets : Record.LetsCreate model store := by
    intro l hl
    rw [unseen] at hl
    cases hl
  have soft : model.schema.softDelete = some "deleted_at" := rfl
  obtain ⟨stored, -, -⟩ := Record.restores_or_inserts store soft trashedDoc ()
  obtain ⟨-, new, -⟩ := Record.restores_or_inserts store soft (.ofModel trashedDoc.model) ()
  exact ⟨⟨(stored rfl).1, (stored rfl).2 asks⟩, (new rfl).2.2 lets⟩

/-- A document whose row was removed is back after a restore, and so is one that never had a row:
either way the restore sends an insert. -/
theorem Record.restores_removed :
    let store := Store.obliging .mysql
    let model : Model (Journaled Unit) Empty (String → Value) := trashDocs.freeModel []
    let removed := (trashedDoc.forceDelete model store.recorded).run ([], ())
    let restored := (removed.1.2.restore model store.recorded).run removed.2
    let made := ((Record.ofModel trashedDoc.model).restore model store.recorded).run ([], ())
    removed.1.2.isStored = false ∧
      restored.2.1.map (fun sent => sent.statement.sql) = ["DELETE FROM `docs` WHERE `id` = ?",
        "INSERT INTO `docs` (`id`, `title`, `deleted_at`) VALUES (?, ?, ?)"] ∧
      restored.1.2.isStored = true ∧
      made.2.1.map (fun sent => sent.statement.sql) =
        ["INSERT INTO `docs` (`id`, `title`, `deleted_at`) VALUES (?, ?, ?)"] ∧
      made.1.2.isStored = true := by
  decide +kernel

end SqlMapper
