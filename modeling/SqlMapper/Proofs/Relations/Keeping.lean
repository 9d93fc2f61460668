import Mathlib.Data.List.Induction
import SqlMapper.Proofs.Relations.Loading
import SqlMapper.Proofs.Values.Marks

/-!
# What a relation keeps

A relation to one record keeps a flag and a record that may be missing, and one to any number of
records keeps a list that may be missing. Both are read as one thing here (`Related`): asked for
when nothing is kept, they load, and keep what was loaded unless that failed; asked for when
something is kept, they answer with it and do nothing. So what they are after any number of gets and
resets depends only on whether a get has succeeded since the last reset (`Related.Answered`,
`Related.after_of_isNew`).
-/

namespace SqlMapper

/-- A relation to at most one record or to any number of them. -/
inductive Related (α : Type) where
  /-- A relation to at most one record. -/
  | one (relation : HasOne α)
  /-- A relation to any number of records. -/
  | many (relation : HasMany α)

namespace Related

section Fields

variable {α : Type}

/-- The keys. -/
def keys : Related α → RelationKeys
  | one h => h.keys
  | many h => h.keys

/-- Whether the relation was loaded. -/
def isLoaded : Related α → Bool
  | one h => h.isLoaded
  | many h => h.isLoaded

/-- The records that are kept. -/
def kept : Related α → List (Record α)
  | one h => h.record.toList
  | many h => h.loaded.getD []

/-- Forgets what was loaded. -/
def reset : Related α → Related α
  | one h => one h.reset
  | many h => many h.reset

/-- How many rows are selected at most. -/
def limit : Related α → Option Nat
  | one _ => some 1
  | many _ => none

/-- The records that are taken of those of the selected rows. -/
def taken (records : List (Record α)) : Related α → List (Record α)
  | one _ => records.head?.toList
  | many _ => records

/-- The relation when records were loaded. -/
def holding (records : List (Record α)) : Related α → Related α
  | one h => one { h with isLoaded := true, record := records.head? }
  | many h => many { h with loaded := some records }

/-- The relation when records were loaded, or when that failed. -/
def settled (r : Related α) : Except MappingFault (List (Record α)) → Related α
  | .ok records => r.holding records
  | .error _ => r

/-- A relation as it is created. -/
inductive IsNew : Related α → Prop
  /-- One to at most one record. -/
  | one (keys : RelationKeys) : IsNew (one { keys })
  /-- One to any number of records. -/
  | many (keys : RelationKeys) : IsNew (many { keys })

variable {r : Related α} {records : List (Record α)}

/-- A relation that records were loaded into counts as loaded. -/
theorem isLoaded_holding : (r.holding records).isLoaded = true := by
  cases r <;> rfl

/-- Kept is what is taken of the records. -/
theorem kept_holding : (r.holding records).kept = r.taken records := by
  cases r <;> rfl

/-- A new relation was not loaded. -/
theorem IsNew.isLoaded (new : r.IsNew) : r.isLoaded = false := by
  cases new <;> rfl

/-- A new relation keeps nothing. -/
theorem IsNew.kept (new : r.IsNew) : r.kept = [] := by
  cases new <;> rfl

/-- There is nothing to forget for a new relation. -/
theorem IsNew.reset (new : r.IsNew) : r.reset = r := by
  cases new <;> rfl

/-- A new relation is as it was once it has forgotten what was loaded. -/
theorem IsNew.reset_holding (new : r.IsNew) : (r.holding records).reset = r := by
  cases new <;> rfl

end Fields

section Asking

variable {τ ℓ α : Type} (model : Model (StateM τ) ℓ α) (store : Store (StateM τ) ℓ)
  (parent : ColumnValues)

/-- The related records, and the relation after it. -/
def get : Related α → StateM τ (Except MappingFault (List (Record α)) × Related α)
  | one h => do
    let (result, h) ← h.get model store parent
    pure (result.map Option.toList, one h)
  | many h => do
    let (result, h) ← h.get model store parent
    pure (result, many h)

/-- What is loaded when nothing is kept. -/
def load : Related α → ExceptT MappingFault (StateM τ) (List (Record α))
  | one h => do
    let record ← h.keys.load model parent none fun s => s.first model store
    pure record.toList
  | many h => h.keys.load model parent [] fun s => s.get model store

variable {r : Related α} {t : τ}

/-- A relation that was loaded answers with what it keeps. -/
theorem run_get_of_loaded (loaded : r.isLoaded = true) :
    (r.get model store parent).run t = ((.ok r.kept, r), t) := by
  cases r with
  | one h =>
    obtain ⟨keys, _ | _, record⟩ := h
    · cases loaded
    · rfl
  | many h =>
    obtain ⟨keys, _ | records⟩ := h
    · cases loaded
    · rfl

/-- A relation that was not loaded answers with what it loads, and keeps that. -/
theorem run_get_of_unloaded (unloaded : r.isLoaded = false)
    {result : Except MappingFault (List (Record α))} {t' : τ}
    (loads : (r.load model store parent).run.run t = (result, t')) :
    (r.get model store parent).run t = ((result, r.settled result), t') := by
  cases r with
  | one h =>
    obtain ⟨keys, _ | _, record⟩ := h
    · obtain ⟨⟨outcome, t₁⟩, first⟩ : ∃ outcome, (keys.load model parent none fun s =>
          s.first model store).run.run t = outcome := ⟨_, rfl⟩
      rw [load, ExceptT.run_bind, StateT.run_bind, first] at loads
      rw [get, StateT.run_bind, HasOne.get, if_neg Bool.false_ne_true, StateT.run_bind, first]
      rcases outcome with fault | _ | record <;> cases loads <;> rfl
    · cases unloaded
  | many h =>
    obtain ⟨keys, _ | records⟩ := h
    · rw [load] at loads
      rw [get, StateT.run_bind, HasMany.get, StateT.run_bind, loads]
      cases result <;> rfl
    · cases unloaded

/-- What is loaded is all taken. -/
theorem taken_of_load {records : List (Record α)}
    (loads : ((r.load model store parent).run.run t).1 = .ok records) :
    r.taken records = records := by
  cases r with
  | one h =>
    obtain ⟨⟨outcome, t₁⟩, first⟩ : ∃ outcome, (h.keys.load model parent none fun s =>
        s.first model store).run.run t = outcome := ⟨_, rfl⟩
    rw [load, ExceptT.run_bind, StateT.run_bind, first] at loads
    rcases outcome with fault | _ | record <;> cases loads <;> rfl
  | many h => rfl

/-- Nothing is loaded for a parent without the attribute. -/
theorem load_of_missing (absent : parent.get? r.keys.parentKey = none) :
    r.load model store parent = throw (.missingColumn r.keys.parentKey) := by
  cases r with
  | one h =>
    rw [load, RelationKeys.load_of_missing, throw_bind]
    · rfl
    · exact absent
  | many h => exact RelationKeys.load_of_missing absent

/-- No records are loaded for a parent whose attribute is null. -/
theorem load_of_null {value : Value} (present : parent.get? r.keys.parentKey = some value)
    (null : value.isNull = true) : r.load model store parent = pure [] := by
  cases r with
  | one h =>
    rw [load, RelationKeys.load_of_null (by exact present) null, pure_bind]
    rfl
  | many h => exact RelationKeys.load_of_null present null

end Asking

/-! ## Gets and resets -/

/-- Something that is done with a relation. -/
inductive Use (τ ℓ : Type) where
  /-- It is asked for the related records of a parent, with any store in any state. -/
  | get (store : Store (StateM τ) ℓ) (parent : ColumnValues) (t : τ)
  /-- It is reset. -/
  | reset

section Uses

variable {τ ℓ α : Type} (model : Model (StateM τ) ℓ α) (r : Related α)

/-- What is answered to a get. -/
def answer (store : Store (StateM τ) ℓ) (parent : ColumnValues) (t : τ) :
    Except MappingFault (List (Record α)) :=
  ((r.get model store parent).run t).1.1

/-- The relation after something was done with it. -/
def use : Use τ ℓ → Related α
  | .get store parent t => ((r.get model store parent).run t).1.2
  | .reset => r.reset

/-- The relation after one thing after another was done with it. -/
def after (uses : List (Use τ ℓ)) : Related α :=
  uses.foldl (use model) r

/-- A get has succeeded with records, and there was no reset since then. -/
def Answered (uses : List (Use τ ℓ)) (records : List (Record α)) : Prop :=
  ∃ before store parent t later, uses = before ++ .get store parent t :: later ∧ .reset ∉ later ∧
    (r.after model before).answer model store parent t = .ok records

variable {model r} {uses : List (Use τ ℓ)} {records : List (Record α)}

section Step

variable {store : Store (StateM τ) ℓ} {parent : ColumnValues} {t : τ}

/-- Records that are kept are answered to every get. -/
theorem answer_holding (all : r.taken records = records) :
    (r.holding records).answer model store parent t = .ok records := by
  rw [answer, run_get_of_loaded model store parent isLoaded_holding, kept_holding, all]

/-- Records that are kept are not replaced by a get. -/
theorem use_get_holding :
    (r.holding records).use model (.get store parent t) = r.holding records := by
  rw [use, run_get_of_loaded model store parent isLoaded_holding]

/-- A relation that was not loaded keeps what it answers. -/
theorem use_get_of_unloaded (unloaded : r.isLoaded = false) :
    r.use model (.get store parent t) = r.settled (r.answer model store parent t) := by
  rw [use, answer, run_get_of_unloaded model store parent unloaded rfl]

/-- A relation that was not loaded answers with nothing that it does not take. -/
theorem taken_of_answer (unloaded : r.isLoaded = false)
    (answers : r.answer model store parent t = .ok records) : r.taken records = records := by
  rw [answer, run_get_of_unloaded model store parent unloaded rfl] at answers
  exact taken_of_load model store parent answers

end Step

/-- No get has succeeded before the first use. -/
theorem not_answered_nil : ¬ r.Answered model [] records := by
  rintro ⟨before, _, _, _, later, h, -⟩
  cases before <;> cases h

/-- No get has succeeded since a reset that has just been done. -/
theorem not_answered_reset : ¬ r.Answered model (uses ++ [.reset]) records := by
  rintro ⟨before, store, parent, t, later, h, unreset, -⟩
  rcases concat_eq_iff.1 h with ⟨-, -, same⟩ | ⟨rest, rfl, -⟩
  · cases same
  · exact unreset (List.mem_append_right _ (List.mem_singleton_self _))

/-- If a get has succeeded since the last reset, it is the last use or one before it. -/
theorem answered_get {store : Store (StateM τ) ℓ} {parent : ColumnValues} {t : τ} :
    r.Answered model (uses ++ [.get store parent t]) records ↔
      r.Answered model uses records ∨
        (r.after model uses).answer model store parent t = .ok records := by
  constructor
  · rintro ⟨before, store', parent', t', later, h, unreset, answers⟩
    rcases concat_eq_iff.1 h with ⟨rfl, rfl, same⟩ | ⟨rest, rfl, rfl⟩
    · cases same
      exact .inr answers
    · exact .inl ⟨before, store', parent', t', rest, rfl,
        fun h => unreset (List.mem_append_left _ h), answers⟩
  · rintro (⟨before, store', parent', t', later, rfl, unreset, answers⟩ | answers)
    · refine ⟨before, store', parent', t', later ++ [.get store parent t], by simp, ?_, answers⟩
      simp [unreset]
    · exact ⟨uses, store, parent, t, [], rfl, List.not_mem_nil, answers⟩

/-- The relation after one more use. -/
theorem after_concat (u : Use τ ℓ) :
    r.after model (uses ++ [u]) = (r.after model uses).use model u := by
  rw [after, List.foldl_append]
  rfl

variable (model) in
/-- Any number of uses leave a new relation with the records of the last get that has succeeded
since the last reset, and as it was if there was none. -/
theorem after_of_isNew (new : r.IsNew) (uses : List (Use τ ℓ)) :
    (∀ records, r.Answered model uses records →
      r.taken records = records ∧ r.after model uses = r.holding records) ∧
    ((∀ records, ¬ r.Answered model uses records) → r.after model uses = r) := by
  induction uses using List.reverseRecOn with
  | nil => exact ⟨fun records answered => absurd answered not_answered_nil, fun _ => rfl⟩
  | append_singleton uses u ih =>
    obtain ⟨held, fresh⟩ := ih
    rw [after_concat]
    cases u with
    | reset =>
      refine ⟨fun records answered => absurd answered not_answered_reset, fun _ => ?_⟩
      show (r.after model uses).reset = r
      by_cases answered : ∃ records, r.Answered model uses records
      · obtain ⟨records, answered⟩ := answered
        rw [(held records answered).2, new.reset_holding]
      · rw [fresh fun records h => answered ⟨records, h⟩, new.reset]
    | get store parent t =>
      simp only [answered_get]
      by_cases answered : ∃ records, r.Answered model uses records
      · obtain ⟨records, answered⟩ := answered
        obtain ⟨all, kept⟩ := held records answered
        rw [kept, use_get_holding, answer_holding all]
        refine ⟨?_, fun h => absurd (.inl answered) (h records)⟩
        rintro records' (answered' | same)
        · exact ⟨(held records' answered').1, kept ▸ (held records' answered').2⟩
        · cases same
          exact ⟨all, rfl⟩
      · have none records : ¬ r.Answered model uses records := fun h => answered ⟨records, h⟩
        rw [fresh none, use_get_of_unloaded new.isLoaded]
        refine ⟨?_, fun h => ?_⟩
        · rintro records (answered | answers)
          · exact absurd answered (none records)
          · exact ⟨taken_of_answer new.isLoaded answers, by rw [answers, settled]⟩
        · cases answers : r.answer model store parent t with
          | ok records => exact absurd (.inr answers) (h records)
          | error fault => rfl

end Uses

/-! ## Loading -/

section Loading

variable {σ ℓ α : Type} (store : Store (StateM σ) ℓ)
  (model : Model (StateM (List (Deed (Listener ℓ)) × σ)) ℓ α) (named : List BuiltIn)
  (r : Related α)

/-- The select of the rows that are related by a key: the condition for the key comes first, then
what the enhancers of the model add. -/
def statement (value : Value) : Statement :=
  store.dialect.choosing model.schema.table
    (⟨.and, .compare r.keys.localKey .eq value⟩ :: BuiltIn.restrictions model.schema named) r.limit

/-- How a relation that was not loaded loads: what comes of it, the deeds in their order, and the
state after them. -/
inductive Loads (parent : ColumnValues) (s : σ) :
    Except MappingFault (List (Record α)) → List (Deed (Listener ℓ)) → σ → Prop
  /-- The parent has no such attribute. -/
  | missing (absent : parent.get? r.keys.parentKey = none) :
    Loads parent s (.error (.missingColumn r.keys.parentKey)) [] s
  /-- The attribute is null, and no row is related to the parent. -/
  | unrelated {value : Value} (present : parent.get? r.keys.parentKey = some value)
    (null : value.isNull = true) : Loads parent s (.ok []) [] s
  /-- The related rows are selected. That may fail, and so may making records of them. -/
  | selected {value : Value} {told : Except MappingFault (Job.Told .select)}
    {deeds : List (Deed (Listener ℓ))} {s' : σ}
    (present : parent.get? r.keys.parentKey = some value) (related : value.isNull = false)
    (delivery : Job.Delivery store.executor .select (r.statement store model named value) s told
      deeds s') :
    Loads parent s
      ((Record.ofTold model told).map fun records => r.taken records) deeds s'

variable {store model named r} {parent : ColumnValues} {s s' : σ}
  {result : Except MappingFault (List (Record α))} {deeds : List (Deed (Listener ℓ))}

variable (store model named r) in
/-- A relation that was not loaded loads in one of these ways. -/
theorem exists_loads (parent : ColumnValues) (s : σ) :
    ∃ result deeds s', r.Loads store model named parent s result deeds s' := by
  cases present : parent.get? r.keys.parentKey with
  | none => exact ⟨_, _, _, .missing present⟩
  | some value =>
    cases related : value.isNull with
    | true => exact ⟨_, _, _, .unrelated present related⟩
    | false =>
      obtain ⟨told, deeds, s', delivery⟩ := Job.exists_delivery store.executor .select
        (r.statement store model named value) s
      exact ⟨_, _, _, .selected present related delivery⟩

/-- A connection is asked for just if the parent has a key that is not null. -/
theorem Loads.asked_mem_iff (h : r.Loads store model named parent s result deeds s') :
    .asked ∈ deeds ↔
      ∃ value, parent.get? r.keys.parentKey = some value ∧ value.isNull = false := by
  cases h with
  | missing absent => simp [absent]
  | unrelated present null => simp [present, null]
  | selected present related delivery =>
    refine ⟨fun _ => ⟨_, present, related⟩, fun _ => ?_⟩
    cases delivery <;> exact List.mem_cons_self

/-- If anything is done, it is to ask for one connection and to send one select. -/
theorem Loads.deeds_eq (h : r.Loads store model named parent s result deeds s') :
    (deeds = [] ∧ s' = s) ∨ ∃ value, parent.get? r.keys.parentKey = some value ∧
      (deeds = [.asked] ∨ deeds = [.asked, .sent (r.statement store model named value)]) := by
  cases h with
  | missing => exact .inl ⟨rfl, rfl⟩
  | unrelated => exact .inl ⟨rfl, rfl⟩
  | selected present _ delivery =>
    refine .inr ⟨_, present, ?_⟩
    cases delivery with
    | unconnected => exact .inl rfl
    | failed => exact .inr rfl
    | told => exact .inr rfl

/-- Loading goes the way it is described. -/
theorem Loads.yields (h : r.Loads store model named parent s result deeds s')
    (hmodel : model.IsBuiltOf store.watched.now named) (htable : model.schema.table ≠ "") :
    Yields Prod.mk (r.load model store.watched parent).run s result deeds s' := by
  cases h with
  | missing absent =>
    rw [load_of_missing model store.watched parent absent]
    exact Yields.pure _ _
  | unrelated present null =>
    rw [load_of_null model store.watched parent present null]
    exact Yields.pure _ _
  | @selected value told _ _ present related delivery =>
    cases r with
    | one relation =>
      have sent := Selection.yields_first hmodel htable related delivery
      rw [load, RelationKeys.load_of_related (by exact present) related]
      cases made : Record.ofTold model told with
      | error fault =>
        rw [made] at sent
        exact sent.bindError
      | ok records =>
        rw [made] at sent
        exact (sent.bindOk (Yields.pure (Except.ok records.head?.toList) s')).of_append_nil
    | many relation =>
      have sent := Selection.yields_get hmodel htable rfl
        (Selection.heard_whereEq model relation.keys.localKey value)
        (Selection.query_whereEq model relation.keys.localKey related) delivery
      rw [load, RelationKeys.load_of_related (by exact present) related]
      -- all records are taken
      rw [show (fun records => (many relation).taken records) = id from rfl, Except.map_id]
      exact sent

/-- **A relation loads once, and keeps what it loaded until it is reset.** After any gets and resets
of a new relation, let it be asked for the related records of a parent. If a get has succeeded since
the last reset, its result is given again and nothing is done. Else the relation is as it was when
it was created and loads: it keeps what was loaded, and stays as it is if that failed. -/
theorem loads_once (hmodel : model.IsBuiltOf store.watched.now named)
    (htable : model.schema.table ≠ "") (new : r.IsNew)
    (uses : List (Use (List (Deed (Listener ℓ)) × σ) ℓ)) (parent : ColumnValues) (s : σ) :
    ∃ result next deeds s',
      ((r.after model uses).get model store.watched parent).run ([], s) =
        ((result, next), (deeds, s')) ∧
      -- whether a connection is asked for, and what it is used for
      (.asked ∈ deeds ↔ (∀ records, ¬ r.Answered model uses records) ∧
        ∃ value, parent.get? r.keys.parentKey = some value ∧ value.isNull = false) ∧
      ((deeds = [] ∧ s' = s) ∨ ∃ value, parent.get? r.keys.parentKey = some value ∧
        (deeds = [.asked] ∨ deeds = [.asked, .sent (r.statement store model named value)])) ∧
      -- a get has succeeded since the last reset
      (∀ records, r.Answered model uses records →
        (r.after model uses).isLoaded = true ∧ (r.after model uses).kept = records ∧
          result = .ok records ∧ next = r.after model uses ∧ deeds = [] ∧ s' = s) ∧
      -- no get has succeeded since then
      ((∀ records, ¬ r.Answered model uses records) →
        r.after model uses = r ∧ r.Loads store model named parent s result deeds s' ∧
          (∀ records, result = .ok records → next.isLoaded = true ∧ next.kept = records) ∧
          ∀ fault, result = .error fault →
            next = r ∧ next.isLoaded = false ∧ next.kept = []) := by
  obtain ⟨held, fresh⟩ := after_of_isNew model new uses
  by_cases answered : ∃ records, r.Answered model uses records
  · obtain ⟨records, answered⟩ := answered
    obtain ⟨all, after⟩ := held records answered
    have loaded : (r.after model uses).isLoaded = true := by rw [after, isLoaded_holding]
    have kept : (r.after model uses).kept = records := by rw [after, kept_holding, all]
    refine ⟨_, _, _, _, run_get_of_loaded model store.watched parent loaded, ?_, .inl ⟨rfl, rfl⟩,
      fun records' answered' => ?_, fun none => absurd answered (none records)⟩
    · exact iff_of_false List.not_mem_nil fun h => h.1 records answered
    · have same : (r.after model uses).kept = records' := by
        rw [(held records' answered').2, kept_holding, (held records' answered').1]
      exact ⟨loaded, same, by rw [same], rfl, rfl, rfl⟩
  · have none records : ¬ r.Answered model uses records := fun h => answered ⟨records, h⟩
    obtain ⟨result, deeds, s', loads⟩ := exists_loads store model named r parent s
    have run := run_get_of_unloaded model store.watched parent new.isLoaded
      (loads.yields hmodel htable [])
    rw [List.nil_append] at run
    refine ⟨result, r.settled result, deeds, s', by rw [fresh none, run], ?_, loads.deeds_eq,
      fun records h => absurd h (none records), fun _ => ⟨fresh none, loads, ?_, ?_⟩⟩
    · rw [loads.asked_mem_iff, and_iff_right none]
    · rintro records rfl
      refine ⟨isLoaded_holding, ?_⟩
      have answers : r.answer model store.watched parent ([], s) = .ok records := by
        rw [answer, run]
      rw [settled, kept_holding, taken_of_answer new.isLoaded answers]
    · rintro fault rfl
      exact ⟨rfl, new.isLoaded, new.kept⟩

end Loading

end Related

/-- A store that can be reached or cannot, and shows one row to who reaches it. -/
def Store.flaky : Store (StateM Bool) Empty where
  dialect := .mysql
  source := {
    acquire := fun reachable =>
      (if reachable then .ok () else .error .noConnection, reachable)
    fetch := fun _ => pure (.ok [[("id", .int 1)]])
    execute := fun _ => pure (.error .failedStatement) }
  now := pure default
  hear := fun listener _ => nomatch listener
  notice := fun _ => pure ()

/-- Comments that are marked in place of being deleted, of one tenant. -/
def comments : Model (StateM (List (Deed (Listener Empty)) × Bool)) Empty FieldValues :=
  FieldModel.model
    { table := "comments", columns := [{ name := "id", primaryKey := true }],
      softDelete := some "deleted_at" }
    [{ name := "id", type := { base := .int64 }, start := .int 0 }]
    [ownedScope.builtIn.enhancer Store.flaky.watched.now]

namespace Related

/-- The comments on a post. -/
def onPost : Related FieldValues :=
  .many { keys := ⟨"id", "post_id"⟩ }

/-- Comments are asked for when the store cannot be reached, and again when it can. -/
def retried : List (Use (List (Deed (Listener Empty)) × Bool) Empty) :=
  [false, true].map fun reachable =>
    .get Store.flaky.watched ⟨[("id", .int 5)]⟩ ([], reachable)

/-- The comments on a post that were loaded with the second get are those of every other one. -/
theorem loads_once_comments :
    onPost.statement Store.flaky comments [ownedScope.builtIn] (.int 5) = {
      kind := some .select
      sql := "SELECT * FROM `comments` WHERE `post_id` = ? AND `tenant_id` = ? " ++
        "AND `deleted_at` IS NULL"
      bindings := [.int 5, .int 7] } ∧
    comments.IsBuiltOf Store.flaky.watched.now [ownedScope.builtIn] ∧
    comments.schema.table ≠ "" ∧ onPost.IsNew ∧
    ∃ records, onPost.Answered comments retried records ∧
      ((onPost.after comments retried).get comments Store.flaky.watched
        ⟨[("id", .int 6)]⟩).run ([], true) =
          ((.ok records, onPost.after comments retried), ([], true)) := by
  have hmodel : comments.IsBuiltOf Store.flaky.watched.now [ownedScope.builtIn] := rfl
  have htable : comments.schema.table ≠ "" := by decide
  have new : onPost.IsNew := .many _
  have answered : ∃ records, onPost.Answered comments retried records :=
    ⟨_, [.get Store.flaky.watched ⟨[("id", .int 5)]⟩ ([], false)], Store.flaky.watched,
      ⟨[("id", .int 5)]⟩, ([], true), [], rfl, List.not_mem_nil, rfl⟩
  refine ⟨rfl, hmodel, htable, new, ?_⟩
  obtain ⟨records, answered⟩ := answered
  obtain ⟨result, next, deeds, s', run, -, -, held, -⟩ :=
    loads_once hmodel htable new retried ⟨[("id", .int 6)]⟩ true
  obtain ⟨-, -, rfl, rfl, rfl, rfl⟩ := held records answered
  exact ⟨records, answered, run⟩

end Related

end SqlMapper
