import SqlMapper.Entity.Selection
import SqlMapper.Proofs.Enhancing.Dispatch

/-!
# The enhancers of the library

A model may name scopes, and its schema may ask for times to be kept and for rows to be marked in
place of being deleted. These enhancers are data here (`BuiltIn`), and what they do to an operation
is computed from the data: they register listeners (`BuiltIn.listeners`) and leave the query alone
(`Selection.heard_toOperation`, `Selection.query_toOperation`).
-/

namespace SqlMapper

/-- The enhancers of the library. -/
inductive BuiltIn where
  /-- Restricts an entity to the rows where a column has a value. -/
  | scope (name column : String) (value : Value)
  /-- Keeps the columns for the times of creation and change. -/
  | timestamps
  /-- Marks rows in place of deleting them, and hides those that are marked. -/
  | softDeletes
deriving DecidableEq, Inhabited

namespace BuiltIn

variable {m : Type → Type} [Monad m] {ℓ α : Type}

/-- The enhancer, given a clock. -/
def enhancer (now : m Instant) : BuiltIn → Enhancer m ℓ
  | .scope name column value => .columnScope name column value
  | .timestamps => .timestamps now
  | .softDeletes => .softDeletes

/-- The name it is skipped by. -/
def name : BuiltIn → String
  | .scope name _ _ => name
  | .timestamps => Enhancer.timestampsName
  | .softDeletes => Enhancer.softDeletesName

@[simp] theorem name_enhancer (now : m Instant) (b : BuiltIn) :
    (b.enhancer now : Enhancer m ℓ).name = b.name := by
  cases b <;> rfl

/-- The listeners that an enhancer registers for a moment. -/
def listeners (schema : Schema) (kind : EventKind) : BuiltIn → List (Listener ℓ)
  | .scope _ column value =>
    match kind with
    | .preSelect | .preUpdate | .preDelete => [.restrict column value]
    | _ => []
  | .timestamps => []
  | .softDeletes =>
    match schema.softDelete, kind with
    | some column, .preSelect => [.restrictToNull column]
    | some column, .preDelete =>
      [.markDeleted column (schema.timestamps.map (fun columns => columns.updated))]
    | _, _ => []

/-- The enhancers of a model that names some: those, then the ones that the schema asks for. -/
def all (schema : Schema) (named : List BuiltIn) : List BuiltIn :=
  named ++ (if schema.timestamps.isSome then [.timestamps] else []) ++
    (if schema.softDelete.isSome then [.softDeletes] else [])

/-- An enhancer registers its listeners after those that are there, and leaves the query alone. -/
theorem heard_enhance (now : m Instant) (schema : Schema) (kind : EventKind) (b : BuiltIn)
    (op : Operation (Listener ℓ)) :
    ((b.enhancer now : Enhancer m ℓ).enhance schema op).heard kind =
        op.heard kind ++ b.listeners schema kind ∧
      ((b.enhancer now : Enhancer m ℓ).enhance schema op).query = op.query := by
  cases b with
  | scope name column value =>
    constructor
    · cases kind <;> simp [enhancer, Enhancer.columnScope, Operation.heard, Operation.listen,
        EventBus.registeredFor_register, listeners]
    · rfl
  | timestamps => exact ⟨(List.append_nil _).symm, rfl⟩
  | softDeletes =>
    cases hs : schema.softDelete with
    | none => simp [enhancer, Enhancer.softDeletes, hs, listeners]
    | some column =>
      constructor
      · cases kind <;> simp [enhancer, Enhancer.softDeletes, hs, Operation.heard, Operation.listen,
          EventBus.registeredFor_register, listeners]
      · simp [enhancer, Enhancer.softDeletes, hs, Operation.listen]

/-- Enhancers act one after another. -/
theorem heard_foldl_enhance (now : m Instant) (schema : Schema) (kind : EventKind)
    (bs : List BuiltIn) (op : Operation (Listener ℓ)) :
    ((bs.map (fun b => (b.enhancer now : Enhancer m ℓ))).foldl
        (fun op e => e.enhance schema op) op).heard kind =
      op.heard kind ++ bs.flatMap (fun b => b.listeners schema kind) ∧
    ((bs.map (fun b => (b.enhancer now : Enhancer m ℓ))).foldl
        (fun op e => e.enhance schema op) op).query = op.query := by
  induction bs generalizing op with
  | nil => simp
  | cons b rest ih =>
    obtain ⟨hheard, hquery⟩ := heard_enhance now schema kind b op
    obtain ⟨ihheard, ihquery⟩ := ih ((b.enhancer now : Enhancer m ℓ).enhance schema op)
    rw [List.map_cons, List.foldl_cons, ihheard, ihquery, hheard, hquery, List.flatMap_cons,
      List.append_assoc]
    exact ⟨rfl, rfl⟩

/-- The listeners restrict rows, unless rows are marked in place of being deleted and this is the
moment before a delete. -/
theorem restricts_of_mem_listeners (schema : Schema) {kind : EventKind} {bs : List BuiltIn}
    (h : kind = .preDelete → .softDeletes ∉ bs) :
    ∀ l ∈ bs.flatMap (fun b => (b.listeners schema kind : List (Listener ℓ))), l.restricts := by
  intro l hl
  obtain ⟨b, hb, hl⟩ := List.mem_flatMap.1 hl
  cases b with
  | scope name column value =>
    cases kind <;> simp_all [listeners, Listener.restricts]
  | timestamps => simp [listeners] at hl
  | softDeletes =>
    have hkind : kind ≠ .preDelete := fun hkind => h hkind hb
    cases hs : schema.softDelete <;> cases kind <;> simp_all [listeners, Listener.restricts]

/-- Nothing is registered for the moment before an insert and for those after a statement. -/
theorem listeners_eq_nil (schema : Schema) {kind : EventKind}
    (h : kind ∈ [EventKind.preCreate, .postCreate, .postUpdate, .postDelete, .postSelect])
    (bs : List BuiltIn) :
    bs.flatMap (fun b => (b.listeners schema kind : List (Listener ℓ))) = [] := by
  rw [List.flatMap_eq_nil_iff]
  intro b _
  simp only [List.mem_cons, List.not_mem_nil, or_false] at h
  rcases h with rfl | rfl | rfl | rfl | rfl <;> cases b <;> cases hs : schema.softDelete <;>
    simp [listeners, hs]

/-- No listener that is registered is a caller's. -/
theorem own_of_mem_listeners (schema : Schema) (kind : EventKind) (bs : List BuiltIn) :
    ∀ l ∈ bs.flatMap (fun b => (b.listeners schema kind : List (Listener ℓ))), l.isOwn := by
  intro l hl
  obtain ⟨b, _, hl⟩ := List.mem_flatMap.1 hl
  cases b with
  | scope name column value => cases kind <;> simp_all [listeners, Listener.isOwn]
  | timestamps => simp [listeners] at hl
  | softDeletes =>
    cases hs : schema.softDelete <;> cases kind <;> simp_all [listeners, Listener.isOwn]

/-- A scope adds its condition, whatever enhancers follow it. Before a delete this needs that no
enhancer in front of it marks rows, since the listeners after such a one are not called. -/
theorem scope_mem_conditions (schema : Schema) {kind : EventKind}
    (hkind : kind ∈ [EventKind.preSelect, .preUpdate, .preDelete]) {bs : List BuiltIn}
    (hbs : .softDeletes ∉ bs) {name column : String} {value : Value}
    (h : .scope name column value ∈ bs) (tail : List (Listener ℓ)) :
    .comparison column .eq value ∈
      Listener.conditions (bs.flatMap (fun b => b.listeners schema kind) ++ tail) := by
  induction bs with
  | nil => cases h
  | cons b rest ih =>
    have later : .scope name column value ∈ rest → .comparison column .eq value ∈
        Listener.conditions (rest.flatMap (fun b => b.listeners schema kind) ++ tail) :=
      ih fun hrest => hbs (List.mem_cons_of_mem b hrest)
    rw [List.flatMap_cons, List.append_assoc]
    cases b with
    | scope otherName other otherValue =>
      have first : ((BuiltIn.scope otherName other otherValue).listeners schema kind :
          List (Listener ℓ)) = [.restrict other otherValue] := by
        simp only [List.mem_cons, List.not_mem_nil, or_false] at hkind
        rcases hkind with rfl | rfl | rfl <;> rfl
      rw [first, List.singleton_append, Listener.conditions]
      rcases List.mem_cons.1 h with hfirst | hrest
      · cases hfirst
        exact List.mem_cons_self
      · exact List.mem_cons_of_mem _ (later hrest)
    | timestamps =>
      rcases List.mem_cons.1 h with hfirst | hrest
      · cases hfirst
      · exact later hrest
    | softDeletes => exact absurd List.mem_cons_self hbs

/-- Where rows are marked in place of being deleted, a select and a delete have the condition that a
row is not marked. -/
theorem softDeletes_mem_conditions {schema : Schema} {column : String}
    (hschema : schema.softDelete = some column) {kind : EventKind}
    (hkind : kind ∈ [EventKind.preSelect, .preDelete]) {bs : List BuiltIn} (h : .softDeletes ∈ bs) :
    .nullCheck column false ∈
      Listener.conditions
        (bs.flatMap (fun b => (b.listeners schema kind : List (Listener ℓ)))) := by
  induction bs with
  | nil => cases h
  | cons b rest ih =>
    simp only [List.mem_cons, List.not_mem_nil, or_false] at hkind
    rw [List.flatMap_cons]
    cases b with
    | scope name other value =>
      have later := ih ((List.mem_cons.1 h).resolve_left nofun)
      rcases hkind with rfl | rfl <;> exact List.mem_cons_of_mem _ later
    | timestamps => exact ih ((List.mem_cons.1 h).resolve_left nofun)
    | softDeletes =>
      rcases hkind with rfl | rfl <;> simp [listeners, hschema, Listener.conditions]

end BuiltIn

/-- The executor of a store calls the listeners of the mapping with the clock of the store. -/
theorem Store.hear_executor {m : Type → Type} [Monad m] {ℓ : Type} (store : Store m ℓ) :
    store.executor.hear = Listener.hear store.now store.hear := rfl

/-- A model whose enhancers are those of the library. -/
def Model.IsBuiltOf {m : Type → Type} [Monad m] {ℓ α : Type} (model : Model m ℓ α) (now : m Instant)
    (named : List BuiltIn) : Prop :=
  model.enhancers = named.map (fun b => b.enhancer now)

section Selecting

variable {m : Type → Type} [Monad m] {ℓ α : Type} {model : Model m ℓ α} {now : m Instant}
  {named : List BuiltIn}

/-- All enhancers of such a model are of the library. -/
theorem Model.IsBuiltOf.allEnhancers (h : model.IsBuiltOf now named) :
    model.allEnhancers now = (BuiltIn.all model.schema named).map (fun b => b.enhancer now) := by
  rw [Model.allEnhancers, h, BuiltIn.all]
  cases model.schema.timestamps <;> cases model.schema.softDelete <;> simp [BuiltIn.enhancer]

namespace Selection

/-- The enhancers of the library that will act on a selection. -/
def builtIns (schema : Schema) (named : List BuiltIn) (s : Selection ℓ) : List BuiltIn :=
  (BuiltIn.all schema named).filter (fun b => !s.skipped.contains b.name)

/-- The listeners that enhancers of the library register for a moment on a selection. -/
def listeners (schema : Schema) (named : List BuiltIn) (s : Selection ℓ) (kind : EventKind) :
    List (Listener ℓ) :=
  (s.builtIns schema named).flatMap (fun b => b.listeners schema kind)

/-- The enhancers that act are those of the library that were not left out. -/
theorem enhancers_eq {store : Store m ℓ} (h : model.IsBuiltOf store.now named) (s : Selection ℓ) :
    s.enhancers model store =
      (s.builtIns model.schema named).map (fun b => b.enhancer store.now) := by
  rw [enhancers, h.allEnhancers, List.filter_map, builtIns]
  congr 2
  funext b
  simp

/-- Preparing an operation leaves its query alone. -/
theorem query_toOperation {store : Store m ℓ} (h : model.IsBuiltOf store.now named)
    (s : Selection ℓ) : (s.toOperation model store).query = s.operation.query := by
  rw [toOperation, enhancers_eq h]
  exact (BuiltIn.heard_foldl_enhance store.now model.schema .preSelect _ _).2

/-- Preparing an operation registers the listeners of its enhancers. -/
theorem heard_toOperation {store : Store m ℓ} (h : model.IsBuiltOf store.now named)
    (s : Selection ℓ) (kind : EventKind) :
    (s.toOperation model store).heard kind =
      s.operation.heard kind ++ s.listeners model.schema named kind := by
  rw [toOperation, enhancers_eq h]
  exact (BuiltIn.heard_foldl_enhance store.now model.schema kind _ _).1

/-- No listener is called at a moment for which the enhancers register none. -/
theorem heard_eq_nil {store : Store m ℓ} (h : model.IsBuiltOf store.now named) {s : Selection ℓ}
    {kind : EventKind} (hs : s.operation.heard kind = [])
    (hkind : kind ∈ [EventKind.preCreate, .postCreate, .postUpdate, .postDelete, .postSelect]) :
    (s.toOperation model store).heard kind = [] := by
  rw [heard_toOperation h, hs, listeners, BuiltIn.listeners_eq_nil _ hkind, List.nil_append]

/-- All listeners restrict rows, unless rows are marked in place of being deleted and this is the
moment before a delete. -/
theorem restricts_of_heard {store : Store m ℓ} (h : model.IsBuiltOf store.now named)
    {s : Selection ℓ} {kind : EventKind} (hs : s.operation.heard kind = [])
    (hkind : kind = .preDelete → .softDeletes ∉ s.builtIns model.schema named) :
    ∀ l ∈ (s.toOperation model store).heard kind, l.restricts := by
  rw [heard_toOperation h, hs, List.nil_append]
  exact BuiltIn.restricts_of_mem_listeners model.schema hkind

/-- Where the marked rows are included, rows are not marked in place of being deleted. -/
theorem softDeletes_notMem_withTrashed (schema : Schema) (named : List BuiltIn) (s : Selection ℓ) :
    .softDeletes ∉ s.withTrashed.builtIns schema named := by
  intro hmem
  have kept := (List.mem_filter.1 hmem).2
  have skipped : Enhancer.softDeletesName ∈ s.withTrashed.skipped :=
    List.mem_append_right _ (List.mem_singleton_self _)
  simp [BuiltIn.name, skipped] at kept

end Selection

end Selecting

end SqlMapper
