import SqlMapper.Proofs.Run.Calling
import SqlMapper.Proofs.Run.Replay

/-!
# What listeners can have sent

A listener may call a statement off and ask for others in its stead, of any kinds. So a write sends
statements of its own kind or of the kinds that its listeners ask for (`sends_runWrite`), and an
insert that no listener calls off sends one statement, the insert (`ensures_insertRows_once`). What
the listeners do besides that is arbitrary, and so is what enhancers do when they adjust values:
they act beside the journal (`Model.recorded`).
-/

namespace SqlMapper

/-! ## Listeners -/

section Asking

variable {σ κ : Type} {hear : Hearing (StateM σ) κ} {kind : EventKind}

/-- A listener that asks for statements of some kinds only, when it is called at a moment. -/
def AsksOnly (p : StatementKind → Prop) (hear : Hearing (StateM σ) κ) (kind : EventKind) (l : κ) :
    Prop :=
  ∀ event, event.kind = kind → Ensures (fun _ => True) (hear l event) fun response _ =>
    ∀ request ∈ response.requests, p request.1

/-- A listener that does not call the statement off, when it is called at a moment. -/
def LetsPass (hear : Hearing (StateM σ) κ) (kind : EventKind) (l : κ) : Prop :=
  ∀ event, event.kind = kind → Ensures (fun _ => True) (hear l event) fun response _ =>
    response.verdict ≠ .cancel

/-- A property of the substitutes that are asked for, kept by every listener, is one of those that
run if the statement is called off; and then one of the listeners did that. -/
theorem ensures_dispatchTo {I : List (Substitute κ) → Prop} {c : Prop}
    {rs : List (Registration κ)}
    (h : ∀ r ∈ rs, ∀ event, event.kind = kind → I event.substitutes →
      Ensures (fun _ => True) (hear r.listener event) fun response _ =>
        I (event.substitutes ++ response.requests.map fun request => .of request.1 request.2) ∧
          (response.verdict = .cancel → c))
    (policy : ErrorPolicy) (op : Operation κ) (queued : List (Substitute κ)) (hqueued : I queued)
    (failures : List HookFailure) :
    Ensures (fun _ => True) (dispatchTo hear kind policy rs op queued failures) fun outcome _ =>
      ∀ report, outcome.1 = .ok report → report.canceled = true → I report.substitutes ∧ c := by
  have goes_on {report : Report κ} (on : report.canceled = false) (left : Operation κ) :
      Ensures (fun _ => True)
        (pure (.ok report, left) : StateM σ (Except QueryFault (Report κ) × Operation κ))
        fun outcome _ => ∀ report, outcome.1 = .ok report → report.canceled = true →
          I report.substitutes ∧ c := by
    refine Ensures.pure fun _ _ other hother off => ?_
    obtain rfl := Except.ok.inj hother
    rw [on] at off
    cases off
  induction rs generalizing op queued failures with
  | nil => exact goes_on rfl op
  | cons r rest ih =>
    have later := ih fun r' hr' => h r' (List.mem_cons_of_mem r hr')
    rw [dispatchTo]
    refine ((h r List.mem_cons_self { kind, operation := op, substitutes := queued } rfl
      hqueued).mono fun _ _ kept => ⟨kept, trivial⟩).bind fun response =>
        Ensures.of_and fun kept => ?_
    obtain ⟨asked, cancels⟩ := kept
    cases hv : response.verdict with
    | proceed => exact later _ _ asked _
    | fail error =>
      cases policy with
      | isolate => exact later _ _ asked _
      | shortCircuit => exact goes_on rfl _
    | cancel =>
      dsimp only
      cases kind.isCancelable with
      | true =>
        rw [if_pos rfl]
        refine Ensures.pure fun _ _ report hreport _ => ?_
        obtain rfl := Except.ok.inj hreport
        exact ⟨asked, cancels hv⟩
      | false => exact Ensures.pure fun _ _ report failed => by cases failed

/-- What runs in the stead of a statement is of the kinds that its listeners ask for. -/
theorem ensures_dispatch_asked {p : StatementKind → Prop} {op : Operation κ}
    (h : ∀ l ∈ op.heard kind, AsksOnly p hear kind l) :
    Ensures (fun _ => True) (dispatch hear kind op) fun outcome _ =>
      ∀ report, outcome.1 = .ok report → report.canceled = true →
        ∀ s ∈ report.substitutes, p s.kind := by
  refine (ensures_dispatchTo (I := fun queued => ∀ s ∈ queued, p s.kind) (c := True)
    (fun r hr event hkind hqueued => ?_) op.events.policy op [] nofun []).mono
      fun _ _ kept report hreport off => (kept report hreport off).1
  refine (h _ (List.mem_map_of_mem hr) event hkind).mono fun response _ asked =>
    ⟨?_, fun _ => trivial⟩
  refine List.forall_mem_append.2 ⟨hqueued, fun s hs => ?_⟩
  obtain ⟨request, hrequest, rfl⟩ := List.mem_map.1 hs
  exact asked request hrequest

/-- A statement that all listeners let pass is not called off. -/
theorem ensures_dispatch_passed {op : Operation κ} (h : ∀ l ∈ op.heard kind, LetsPass hear kind l) :
    Ensures (fun _ => True) (dispatch hear kind op) fun outcome _ =>
      ∀ report, outcome.1 = .ok report → report.canceled = false := by
  refine (ensures_dispatchTo (I := fun _ => True) (c := False) (fun r hr event hkind _ => ?_)
    op.events.policy op [] trivial []).mono fun _ _ kept report hreport =>
      Bool.eq_false_iff.2 fun off => (kept report hreport off).2
  exact (h _ (List.mem_map_of_mem hr) event hkind).mono fun _ _ passes =>
    ⟨trivial, fun cancels => passes cancels⟩

end Asking

/-- A listener that restricts rows asks for nothing. -/
theorem Listener.asksOnly_of_restricts {σ ℓ : Type} {now : StateM σ Instant}
    {custom : ℓ → LifecycleEvent (Listener ℓ) → StateM σ (Response (Listener ℓ))}
    {l : Listener ℓ} (h : l.restricts = true) (p : StatementKind → Prop) (kind : EventKind) :
    AsksOnly p (Listener.hear now custom) kind l := by
  intro event _
  cases l with
  | restrict column value => exact Ensures.pure fun _ _ => nofun
  | restrictToNull column => exact Ensures.pure fun _ _ => nofun
  | markDeleted column updated => cases h
  | custom listener => cases h

/-! ## Statements -/

/-- A statement that was compiled as one of some kinds. -/
def Statement.IsOf (p : StatementKind → Prop) (s : Statement) : Prop :=
  ∃ kind, s.kind = some kind ∧ p kind

section Sending

variable {σ ℓ : Type} (store : Store (StateM σ) ℓ) {p : StatementKind → Prop}

/-- What is known of a dispatch is known of the one of a watched store, which leaves no trace on the
journal. -/
theorem ensures_dispatch_report {J : List Sent → Prop} {Q : Report (Listener ℓ) → Prop}
    {kind : EventKind} {op : Operation (Listener ℓ)}
    (h : Ensures (fun _ => True) (dispatch (Listener.hear store.now store.hear) kind op)
      fun outcome _ => ∀ report, outcome.1 = .ok report → Q report) :
    Ensures (fun t => J t.1) (store.recorded.executor.dispatch kind op).run
      (either (fun result t => Q result.1 ∧ J t.1) fun _ t => J t.1) := by
  have called : Ensures (fun t => J t.1)
      (dispatch (Listener.hear store.recorded.now store.recorded.hear) kind op)
      (fun outcome t => (∀ report, outcome.1 = .ok report → Q report) ∧ J t.1) := by
    rw [store.dispatch_recorded]
    exact fun t ht => ⟨h t.2 trivial, ht⟩
  refine called.bindLift fun outcome => Ensures.of_and fun hreport => ?_
  obtain ⟨result, left⟩ := outcome
  cases result with
  | ok report => exact Ensures.pure fun _ ht => ⟨hreport report rfl, ht⟩
  | error fault => exact Ensures.pure fun _ ht => ht

/-- What is compiled as one of some kinds and sent is of these kinds. -/
theorem sends_prepared {β : Type} {kind : StatementKind} (hkind : p kind)
    (op : Operation (Listener ℓ)) {f : Completion → ExceptT MappingFault (Journaled σ) β}
    (hf : ∀ completion, Sends (Statement.IsOf p) (f completion).run) :
    Sends (Statement.IsOf p) (do
      let statement ← store.recorded.executor.prepare kind op
      let completion ← store.recorded.executor.execute statement
      f completion).run :=
  Sends.prepare store fun _ compiled =>
    Sends.bind (Sends.execute store ⟨kind, (Dialect.prepare_eq_ok compiled).1, hkind⟩) hf

/-- Substitutes are sent as what they are compiled as. -/
theorem sends_runSubstitutes {subs : List (Substitute (Listener ℓ))} (h : ∀ s ∈ subs, p s.kind)
    (affected : UInt64) :
    Sends (Statement.IsOf p) (store.recorded.executor.runSubstitutes subs affected).run := by
  induction subs generalizing affected with
  | nil => exact Sends.pure _
  | cons s rest ih =>
    rw [List.forall_mem_cons] at h
    exact sends_prepared store h.1 s.operation fun _ => ih h.2 _

/-- A write sends statements of its own kind or of the kinds that its listeners ask for. -/
theorem sends_runWrite {before after : EventKind} {kind : StatementKind} (hkind : p kind)
    {op : Operation (Listener ℓ)}
    (h : ∀ l ∈ op.heard before, AsksOnly p (Listener.hear store.now store.hear) before l) :
    Sends (Statement.IsOf p)
      (store.recorded.executor.runWrite before after kind op).run := by
  have quietly (left : Operation (Listener ℓ)) : Sends (Statement.IsOf p)
      (store.recorded.executor.dispatch after left).run :=
    ensures_dispatch (J := fun journal => ∀ sent ∈ journal, sent.statement.IsOf p) store after left
  rw [Executor.runWrite]
  have dispatched := ensures_dispatch_report (J := fun journal => ∀ sent ∈ journal,
    sent.statement.IsOf p) store (ensures_dispatch_asked h)
  refine dispatched.bindExcept fun result => Ensures.of_and fun asked => ?_
  obtain ⟨report, left⟩ := result
  dsimp only at asked ⊢
  split
  · next off =>
    exact Sends.bind (sends_runSubstitutes store (asked off) 0) fun _ =>
      Sends.bind (quietly left) fun _ => Sends.pure _
  · simp only [pure_bind]
    exact sends_prepared store hkind left fun _ => Sends.bind (quietly left) fun _ => Sends.pure _

/-- An update sends updates, or statements of the kinds that its listeners ask for. -/
theorem sends_runUpdate_asked (hupdate : p .update) {op : Operation (Listener ℓ)}
    (h : ∀ l ∈ op.heard .preUpdate,
      AsksOnly p (Listener.hear store.now store.hear) .preUpdate l) (values : ColumnValues) :
    Sends (Statement.IsOf p) (store.recorded.executor.runUpdate op values).run := by
  rw [Executor.runUpdate]
  split
  · exact Sends.pure _
  · exact sends_runWrite store hupdate h

/-- An insert that all listeners let pass is the one statement that is sent, or there is a fault and
nothing is sent. -/
theorem ensures_insertRows_once (kind : StatementKind) {op : Operation (Listener ℓ)}
    (h : ∀ l ∈ op.heard .preCreate, LetsPass (Listener.hear store.now store.hear) .preCreate l)
    (rows : List ColumnValues) (returnKeys : Bool) :
    Ensures (fun t => t.1 = []) (store.recorded.executor.insertRows kind op rows returnKeys).run
      fun result t => (t.1 = [] ∧ ∃ fault, result = .error fault) ∨
        ∃ sent, t.1 = [sent] ∧ sent.statement.kind = some kind := by
  have told (left : Operation (Listener ℓ)) (answer : Option InsertResult) :
      Ensures (fun t => ∃ sent, t.1 = [sent] ∧ sent.statement.kind = some kind)
        (do
          let result ← Executor.orDie answer
          let _ ← store.recorded.executor.dispatch .postCreate left
          return result : ExceptT MappingFault (Journaled σ) InsertResult).run
        fun result t => (t.1 = [] ∧ ∃ fault, result = .error fault) ∨
          ∃ sent, t.1 = [sent] ∧ sent.statement.kind = some kind := by
    have quietly := ensures_dispatch (J := fun journal => ∃ sent, journal = [sent] ∧
      sent.statement.kind = some kind) store .postCreate left
    cases answer with
    | none => exact Ensures.pure fun _ sent => .inr sent
    | some result =>
      rw [Executor.orDie, pure_bind]
      refine Ensures.bindExcept (M := fun _ t => ∃ sent, t.1 = [sent] ∧
        sent.statement.kind = some kind) (quietly.mono fun result _ sent => ?_) fun _ =>
          Ensures.pure fun _ sent => .inr sent
      cases result with
      | ok _ => exact sent
      | error fault => exact .inr sent
  rw [Executor.insertRows]
  cases op.query.stageInsert rows with
  | error fault => exact Ensures.pure fun _ quiet => .inl ⟨quiet, _, rfl⟩
  | ok query =>
    have passed : ∀ l ∈ ({ op with query } : Operation (Listener ℓ)).heard .preCreate,
        LetsPass (Listener.hear store.now store.hear) .preCreate l := h
    refine Ensures.bindExcept (M := fun result t => result.1.canceled = false ∧ t.1 = [])
      ((ensures_dispatch_report (J := fun journal => journal = []) store
        (ensures_dispatch_passed passed)).mono fun result t outcome => ?_)
      fun result => Ensures.of_and fun on => ?_
    · cases result with
      | ok _ => exact outcome
      | error fault => exact .inl ⟨outcome, fault, rfl⟩
    obtain ⟨report, left⟩ := result
    dsimp only at on ⊢
    rw [on, if_neg Bool.false_ne_true]
    refine ensures_prepare store (fun statement compiled => ?_) fun fault _ quiet =>
      .inl ⟨quiet, fault, rfl⟩
    refine Ensures.bindExcept (M := fun _ t => ∃ sent, t.1 = [sent] ∧
      sent.statement.kind = some kind) ((ensures_execute_once store statement).mono
        fun result t outcome => ?_) fun completion => told left _
    have compiled_as := (Dialect.prepare_eq_ok compiled).1
    cases result with
    | ok completion =>
      rcases outcome with ⟨_, sent, -⟩ | ⟨-, -, _, failed⟩
      · exact ⟨_, sent, compiled_as⟩
      · cases failed
    | error fault =>
      rcases outcome with ⟨_, sent, -⟩ | ⟨quiet, -, -⟩
      · exact .inr ⟨_, sent, compiled_as⟩
      · exact .inl ⟨quiet, fault, rfl⟩

end Sending

/-! ## Enhancers -/

section Adjusting

variable {σ ℓ α : Type}

/-- An enhancer that acts beside the journal. -/
def Enhancer.recorded (e : Enhancer (StateM σ) ℓ) : Enhancer (Journaled σ) ℓ where
  name := e.name
  enhance := e.enhance
  onInsert schema values := aside (e.onInsert schema values)
  onUpdate schema values := aside (e.onUpdate schema values)

/-- A model whose enhancers act beside the journal. -/
def Model.recorded (model : Model (StateM σ) ℓ α) : Model (Journaled σ) ℓ α where
  schema := model.schema
  attributes := model.attributes
  fromRow := model.fromRow
  setAttribute := model.setAttribute
  enhancers := model.enhancers.map Enhancer.recorded

variable (model : Model (StateM σ) ℓ α) (store : Store (StateM σ) ℓ)

/-- All enhancers act beside the journal, also those that the schema asks for. -/
theorem Model.allEnhancers_recorded :
    model.recorded.allEnhancers store.recorded.now =
      (model.allEnhancers store.now).map Enhancer.recorded := by
  have timestamps : (Enhancer.timestamps store.recorded.now : Enhancer (Journaled σ) ℓ) =
      (Enhancer.timestamps store.now).recorded := by
    rw [Enhancer.timestamps, Enhancer.timestamps, Enhancer.recorded]
    congr 1
    · funext schema values
      dsimp only
      cases schema.timestamps <;> rfl
    · funext schema values
      dsimp only
      cases schema.timestamps with
      | none => rfl
      | some columns =>
        dsimp only
        cases values.contains columns.updated <;> rfl
  have softDeletes : (Enhancer.softDeletes : Enhancer (Journaled σ) ℓ) =
      (Enhancer.softDeletes : Enhancer (StateM σ) ℓ).recorded := rfl
  rw [allEnhancers, allEnhancers, List.map_append, List.map_append, recorded, timestamps,
    softDeletes]
  cases model.schema.timestamps <;> cases model.schema.softDelete <;> rfl

/-- The row of an insert is adjusted beside the journal. -/
theorem adjustInsert_recorded (schema : Schema) (es : List (Enhancer (StateM σ) ℓ))
    (values : ColumnValues) :
    adjustInsert schema (es.map Enhancer.recorded) values =
      aside (adjustInsert schema es values) := by
  induction es generalizing values with
  | nil => rfl
  | cons e rest ih =>
    rw [List.map_cons, adjustInsert, adjustInsert, aside_bind]
    exact bind_congr fun next => ih next

/-- The assignments of an update are adjusted beside the journal. -/
theorem adjustUpdate_recorded (schema : Schema) (es : List (Enhancer (StateM σ) ℓ))
    (values : ColumnValues) :
    adjustUpdate schema (es.map Enhancer.recorded) values =
      aside (adjustUpdate schema es values) := by
  induction es generalizing values with
  | nil => rfl
  | cons e rest ih =>
    rw [List.map_cons, adjustUpdate, adjustUpdate, aside_bind]
    exact bind_congr fun next => ih next

/-- Watching a store does not change the operations that are run on it. -/
theorem Selection.toOperation_recorded (s : Selection ℓ) :
    s.toOperation model.recorded store.recorded = s.toOperation model store := by
  have kept : s.enhancers model.recorded store.recorded =
      (s.enhancers model store).map Enhancer.recorded := by
    rw [enhancers, enhancers, model.allEnhancers_recorded, List.filter_map]
    rfl
  rw [toOperation, toOperation, kept, List.foldl_map]
  rfl

end Adjusting

end SqlMapper
