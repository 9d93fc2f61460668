import SqlMapper.Entity.Model

/-!
# What the listeners of the mapping do

The two listeners that restrict rows add one condition each, and the one that marks rows calls a
delete off. So a dispatch to such listeners is known in advance: it adds `Listener.conditions`, the
conditions up to the first listener that marks rows, and that listener asks for one update in the
stead of the delete. An operation whose listeners are of this kind runs like one without listeners
whose query has the conditions already (`Executor.runRead_of_restricts`,
`Executor.runWrite_of_restricts`, `Executor.insertRows_of_silent`, `Executor.runDelete_of_marks`).
-/

namespace SqlMapper

/-- A query with further conditions on rows, all of which have to hold. -/
def Query.restrict (q : Query) (conditions : List (Predicate Query)) : Query :=
  conditions.foldl (fun q p => q.addWhere .and p) q

/-- Restricting adds clauses at the end, and each of them has to hold. -/
theorem Query.wheres_restrict (q : Query) (conditions : List (Predicate Query)) :
    (q.restrict conditions).wheres = q.wheres ++ conditions.map (fun p => ⟨.and, p.normalize⟩) := by
  induction conditions generalizing q with
  | nil => simp [restrict]
  | cons p rest ih =>
    have step : q.restrict (p :: rest) = (q.addWhere .and p).restrict rest := rfl
    rw [step, ih, addWhere, List.map_cons, List.append_assoc, List.singleton_append]

/-- Restricting leaves what is written as it was. -/
theorem Query.written_restrict (q : Query) (conditions : List (Predicate Query)) :
    (q.restrict conditions).assignments = q.assignments ∧
      (q.restrict conditions).insertColumns = q.insertColumns ∧
      (q.restrict conditions).insertRows = q.insertRows ∧
      (q.restrict conditions).bindings.inserts = q.bindings.inserts ∧
      (q.restrict conditions).bindings.updates = q.bindings.updates := by
  induction conditions generalizing q with
  | nil => exact ⟨rfl, rfl, rfl, rfl, rfl⟩
  | cons p rest ih => exact ih (q.addWhere .and p)

/-- The listeners of an operation for a moment, in the order in which they are called. -/
def Operation.heard {ℓ : Type} (op : Operation ℓ) (kind : EventKind) : List ℓ :=
  (op.events.registeredFor kind).map (fun r => r.listener)

namespace Listener

variable {ℓ : Type}

/-- Whether a listener restricts rows and does nothing else. -/
def restricts : Listener ℓ → Bool
  | .restrict _ _ => true
  | .restrictToNull _ => true
  | _ => false

/-- Whether a listener is of the mapping and not of the caller. -/
def isOwn : Listener ℓ → Bool
  | .custom _ => false
  | _ => true

/-- Listeners of the mapping restrict rows up to the first one that marks them, if there is one. -/
theorem restricts_or_marks {ls : List (Listener ℓ)} (h : ∀ l ∈ ls, l.isOwn) :
    (∀ l ∈ ls, l.restricts) ∨ ∃ before column updated after,
      ls = before ++ .markDeleted column updated :: after ∧ ∀ l ∈ before, l.restricts := by
  induction ls with
  | nil => exact .inl (by simp)
  | cons l rest ih =>
    have first : l.isOwn = true := h l List.mem_cons_self
    have others := ih fun other hother => h other (List.mem_cons_of_mem l hother)
    have restricting : l.restricts = true → (∀ other ∈ l :: rest, other.restricts = true) ∨
        ∃ before column updated after, l :: rest = before ++ .markDeleted column updated :: after ∧
          ∀ other ∈ before, other.restricts = true := by
      intro hl
      rcases others with hrest | ⟨before, column, updated, after, rfl, hbefore⟩
      · exact .inl (List.forall_mem_cons.2 ⟨hl, hrest⟩)
      · exact .inr ⟨l :: before, column, updated, after, rfl, List.forall_mem_cons.2 ⟨hl, hbefore⟩⟩
    cases l with
    | restrict column value => exact restricting rfl
    | restrictToNull column => exact restricting rfl
    | markDeleted column updated => exact .inr ⟨[], column, updated, rest, rfl, by simp⟩
    | custom listener => cases first

/-- The conditions that listeners of the mapping add, up to the first one that marks rows. -/
def conditions : List (Listener ℓ) → List (Predicate Query)
  | [] => []
  | .restrict column value :: rest => .comparison column .eq value :: conditions rest
  | .restrictToNull column :: rest => .nullCheck column false :: conditions rest
  | .markDeleted column _ :: _ => [.nullCheck column false]
  | .custom _ :: rest => conditions rest

/-- The conditions need no normalizing. -/
theorem normalize_conditions (ls : List (Listener ℓ)) :
    ∀ p ∈ conditions ls, p.normalize = p := by
  induction ls with
  | nil => simp [conditions]
  | cons l rest ih =>
    cases l with
    | restrict column value =>
      rw [conditions, List.forall_mem_cons]
      exact ⟨Predicate.normalize_comparison column .eq value, ih⟩
    | restrictToNull column =>
      rw [conditions, List.forall_mem_cons]
      exact ⟨rfl, ih⟩
    | markDeleted column updated =>
      rw [conditions, List.forall_mem_singleton]
      rfl
    | custom listener => exact ih

/-- The conditions of listeners that restrict rows, and of one after them that marks rows. -/
theorem conditions_append_marks {before : List (Listener ℓ)} (h : ∀ l ∈ before, l.restricts)
    (column : String) (updated : Option String) (after : List (Listener ℓ)) :
    conditions (before ++ .markDeleted column updated :: after) =
      conditions before ++ [.nullCheck column false] := by
  induction before with
  | nil => rfl
  | cons l rest ih =>
    have inner := ih fun other hother => h other (List.mem_cons_of_mem l hother)
    have outer : l.restricts = true := h l List.mem_cons_self
    cases l with
    | restrict column value =>
      rw [List.cons_append, conditions, inner, conditions, List.cons_append]
    | restrictToNull column =>
      rw [List.cons_append, conditions, inner, conditions, List.cons_append]
    | markDeleted column updated => cases outer
    | custom listener => cases outer

end Listener

variable {m : Type → Type} [Monad m] [LawfulMonad m] {ℓ : Type} (now : m Instant)
  (custom : ℓ → LifecycleEvent (Listener ℓ) → m (Response (Listener ℓ)))

/-- Listeners that restrict rows are called one after another, each adds its condition, and those
after them are called. -/
theorem dispatchTo_of_restricts (kind : EventKind) (policy : ErrorPolicy)
    {before : List (Registration (Listener ℓ))} (h : ∀ r ∈ before, r.listener.restricts)
    (after : List (Registration (Listener ℓ))) (op : Operation (Listener ℓ))
    (queued : List (Substitute (Listener ℓ))) (failures : List HookFailure) :
    dispatchTo (Listener.hear now custom) kind policy (before ++ after) op queued failures =
      dispatchTo (Listener.hear now custom) kind policy after
        (op.mapQuery (fun q => q.restrict (Listener.conditions (before.map (fun r => r.listener)))))
        queued failures := by
  induction before generalizing op with
  | nil => rfl
  | cons r rest ih =>
    have inner := ih fun other hother => h other (List.mem_cons_of_mem r hother)
    have outer : r.listener.restricts = true := h r List.mem_cons_self
    rw [List.cons_append, dispatchTo, List.map_cons]
    cases hr : r.listener with
    | restrict column value =>
      simp only [Listener.hear, pure_bind, List.map_nil, List.append_nil, inner]
      rfl
    | restrictToNull column =>
      simp only [Listener.hear, pure_bind, List.map_nil, List.append_nil, inner]
      rfl
    | markDeleted column updated => rw [hr] at outer; cases outer
    | custom listener => rw [hr] at outer; cases outer

/-- Dispatching a moment to listeners that restrict rows adds their conditions. -/
theorem dispatch_of_restricts {kind : EventKind} {op : Operation (Listener ℓ)}
    (h : ∀ l ∈ op.heard kind, l.restricts) :
    dispatch (Listener.hear now custom) kind op =
      pure (.ok {}, op.mapQuery (fun q => q.restrict (Listener.conditions (op.heard kind)))) := by
  have hr : ∀ r ∈ op.events.registeredFor kind, r.listener.restricts := fun r hr =>
    h _ (List.mem_map_of_mem hr)
  have all := dispatchTo_of_restricts now custom kind op.events.policy hr [] op [] []
  rw [List.append_nil] at all
  rw [dispatch, all, dispatchTo]
  rfl

/-- Dispatching the moment before a delete to listeners that restrict rows and one that marks rows:
the delete is called off, and the marking update of the rows that are left is asked for. -/
theorem dispatch_of_marks {op : Operation (Listener ℓ)} {before after : List (Listener ℓ)}
    {column : String} {updated : Option String}
    (hheard : op.heard .preDelete = before ++ .markDeleted column updated :: after)
    (h : ∀ l ∈ before, l.restricts) :
    dispatch (Listener.hear now custom) .preDelete op = (do
      let time ← now
      let rest := op.mapQuery (fun q => q.restrict (Listener.conditions before))
      pure (.ok {
        canceled := true
        substitutes := [.of .update (Listener.marking column updated time rest)] }, rest)) := by
  obtain ⟨first, others, hregistered, rfl, hothers⟩ := List.map_eq_append_iff.1 hheard
  obtain ⟨r, last, rfl, hr, rfl⟩ := List.map_eq_cons_iff.1 hothers
  have hfirst : ∀ r ∈ first, r.listener.restricts := fun r hr => h _ (List.mem_map_of_mem hr)
  rw [dispatch, hregistered, dispatchTo_of_restricts now custom .preDelete _ hfirst, dispatchTo, hr]
  simp only [Listener.hear, bind_assoc, pure_bind]
  rfl

namespace Executor

variable {now custom} {x : Executor m (Listener ℓ)}

/-- A moment at which listeners that restrict rows are called. -/
theorem dispatch_of_restricts (hx : x.hear = Listener.hear now custom) {kind : EventKind}
    {op : Operation (Listener ℓ)} (h : ∀ l ∈ op.heard kind, l.restricts) :
    x.dispatch kind op =
      pure ({}, op.mapQuery (fun q => q.restrict (Listener.conditions (op.heard kind)))) := by
  rw [Executor.dispatch, hx, SqlMapper.dispatch_of_restricts now custom h, ExceptT.lift_pure,
    pure_bind]

/-- A moment at which no listener is called. -/
theorem dispatch_of_silent (hx : x.hear = Listener.hear now custom) {kind : EventKind}
    (op : Operation (Listener ℓ)) (h : op.heard kind = []) :
    x.dispatch kind op = pure ({}, op) := by
  have none_heard : ∀ l ∈ op.heard kind, l.restricts := by simp [h]
  have all := dispatch_of_restricts hx none_heard
  rw [h] at all
  exact all

omit [LawfulMonad m] in
/-- An operation that compiles is prepared. -/
theorem prepare_of_ok {kind : StatementKind} {op : Operation (Listener ℓ)} {statement : Statement}
    (h : x.dialect.prepare kind op.query = .ok statement) : x.prepare kind op = pure statement := by
  rw [prepare, h]

/-- Listeners that restrict rows restrict a statement that reads. -/
theorem runRead_of_restricts (hx : x.hear = Listener.hear now custom) {kind : StatementKind}
    (op : Operation (Listener ℓ)) (h : ∀ l ∈ op.heard .preSelect, l.restricts)
    (hpost : op.heard .postSelect = []) :
    x.runRead kind op = (do
      let statement ← x.prepare kind
        (op.mapQuery (fun q => q.restrict (Listener.conditions (op.heard .preSelect))))
      x.fetch statement) := by
  rw [runRead, dispatch_of_restricts hx h, pure_bind]
  refine bind_congr fun statement => ?_
  simp only [dispatch_of_silent hx (op.mapQuery _) hpost, pure_bind, bind_pure]

/-- Listeners that restrict rows restrict a statement that writes. -/
theorem runWrite_of_restricts (hx : x.hear = Listener.hear now custom) {before after : EventKind}
    {kind : StatementKind} (op : Operation (Listener ℓ)) (h : ∀ l ∈ op.heard before, l.restricts)
    (hpost : op.heard after = []) :
    x.runWrite before after kind op = (do
      let statement ← x.prepare kind
        (op.mapQuery (fun q => q.restrict (Listener.conditions (op.heard before))))
      let completion ← x.execute statement
      pure completion.affected) := by
  rw [runWrite, dispatch_of_restricts hx h, pure_bind]
  simp only [Bool.false_eq_true, if_false, pure_bind,
    dispatch_of_silent hx (op.mapQuery _) hpost]

/-- Where no listener is called, an insert stages its rows, is compiled and sent. -/
theorem insertRows_of_silent (hx : x.hear = Listener.hear now custom) (kind : StatementKind)
    (op : Operation (Listener ℓ)) (hpre : op.heard .preCreate = [])
    (hpost : op.heard .postCreate = []) (rows : List ColumnValues) (returnKeys : Bool) :
    x.insertRows kind op rows returnKeys =
      (match op.query.stageInsert rows with
      | .error fault => throw (.query fault)
      | .ok query => do
        let statement ← x.prepare kind { op with query }
        let completion ← x.execute statement
        orDie (InsertResult.ofCompletion? returnKeys completion)) := by
  unfold insertRows
  cases op.query.stageInsert rows with
  | error fault => rfl
  | ok query =>
    simp only [dispatch_of_silent hx { op with query } hpre,
      dispatch_of_silent hx { op with query } hpost, pure_bind, bind_pure, Bool.false_eq_true,
      if_false]

/-- A listener that marks rows turns a delete into an update of the rows that those before it
leave. -/
theorem runDelete_of_marks (hx : x.hear = Listener.hear now custom) (op : Operation (Listener ℓ))
    {before after : List (Listener ℓ)} {column : String} {updated : Option String}
    (hheard : op.heard .preDelete = before ++ .markDeleted column updated :: after)
    (h : ∀ l ∈ before, l.restricts) (hpost : op.heard .postDelete = []) :
    x.runDelete op = (do
      let time ← ExceptT.lift now
      let statement ← x.prepare .update (Listener.marking column updated time
        (op.mapQuery (fun q => q.restrict (Listener.conditions before))))
      let completion ← x.execute statement
      pure completion.affected) := by
  rw [runDelete, runWrite, Executor.dispatch, hx, dispatch_of_marks now custom hheard h]
  simp only [bind_assoc, pure_bind, ExceptT.lift_bind, ExceptT.lift_pure, if_true, runSubstitutes,
    Substitute.of, dispatch_of_silent hx (op.mapQuery _) hpost, UInt64.zero_add]
  rfl

end Executor

end SqlMapper
