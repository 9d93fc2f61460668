import SqlMapper.Proofs.Run.Journal

/-!
# Listeners beside the journal

Listeners act on the state of a store and send nothing by themselves. So a dispatch of a watched
store is a dispatch of the store beside the journal (`Store.dispatch_recorded`), whatever the
listeners do. A statement that is sent while connections are to be had ends up on the journal
(`ensures_execute_of_available`).
-/

namespace SqlMapper

section Aside

variable {σ α β : Type}

/-- The second of two computations goes on with the result and the state of the first one. -/
theorem run_bind_eq (x : StateM σ α) (f : α → StateM σ β) (w : σ) :
    (x >>= f).run w = (f (x.run w).1).run (x.run w).2 := rfl

/-- One computation after another beside the journal. -/
theorem aside_bind (x : StateM σ α) (f : α → StateM σ β) :
    aside (x >>= f) = aside x >>= fun a => aside (f a) := rfl

end Aside

section Calling

variable {σ ℓ : Type} (store : Store (StateM σ) ℓ)

/-- A watched store calls a listener beside the journal. -/
theorem Store.hear_recorded (l : Listener ℓ) (event : LifecycleEvent (Listener ℓ)) :
    Listener.hear store.recorded.now store.recorded.hear l event =
      aside (Listener.hear store.now store.hear l event) := by
  cases l <;> rfl

/-- A watched store calls listeners one after another beside the journal. -/
theorem Store.dispatchTo_recorded (kind : EventKind) (policy : ErrorPolicy)
    (rs : List (Registration (Listener ℓ))) (op : Operation (Listener ℓ))
    (queued : List (Substitute (Listener ℓ))) (failures : List HookFailure) :
    dispatchTo (Listener.hear store.recorded.now store.recorded.hear) kind policy rs op queued
        failures =
      aside (dispatchTo (Listener.hear store.now store.hear) kind policy rs op queued
        failures) := by
  induction rs generalizing op queued failures with
  | nil => rfl
  | cons r rest ih =>
    rw [dispatchTo, dispatchTo, store.hear_recorded, aside_bind]
    refine bind_congr fun response => ?_
    cases response.verdict with
    | proceed => exact ih _ _ _
    | cancel => cases kind.isCancelable <;> rfl
    | fail error =>
      cases policy with
      | isolate => exact ih _ _ _
      | shortCircuit => rfl

/-- A watched store dispatches a moment beside the journal. -/
theorem Store.dispatch_recorded (kind : EventKind) (op : Operation (Listener ℓ)) :
    dispatch (Listener.hear store.recorded.now store.recorded.hear) kind op =
      aside (dispatch (Listener.hear store.now store.hear) kind op) :=
  store.dispatchTo_recorded kind op.events.policy (op.events.registeredFor kind) op [] []

/-- No listener leaves a trace on the journal, whether or not there is a fault. -/
theorem ensures_dispatch {J : List Sent → Prop} (kind : EventKind)
    (op : Operation (Listener ℓ)) :
    Ensures (fun t => J t.1) (store.recorded.executor.dispatch kind op).run (fun _ t => J t.1) := by
  have called : Ensures (fun t => J t.1)
      (dispatch (Listener.hear store.recorded.now store.recorded.hear) kind op)
      (fun _ t => J t.1) := by
    rw [store.dispatch_recorded]
    exact ensures_aside _
  refine called.bindLift fun outcome => ?_
  obtain ⟨result, left⟩ := outcome
  cases result with
  | ok report => exact Ensures.pure fun _ h => h
  | error fault => exact Ensures.pure fun _ h => h

/-- Connections are to be had in every state. -/
def Store.IsAvailable (store : Store (StateM σ) ℓ) : Prop :=
  ∀ w, (store.source.acquire.run w).1 = .ok ()

/-- Where connections are to be had, a statement that writes ends up on the journal, whatever the
database tells of it. -/
theorem ensures_execute_of_available (available : store.IsAvailable) (statement : Statement)
    (journal : List Sent) :
    Ensures (fun t => t.1 = journal) (store.recorded.executor.execute statement).run
      (fun _ t => ∃ told, t.1 = journal ++ [{ statement, completion := told }]) := by
  have acquired : Ensures (fun t => t.1 = journal) store.recorded.source.acquire
      (fun got t => got = .ok () ∧ t.1 = journal) := fun t ht => ⟨available t.2, ht⟩
  have connected : Ensures (fun t => t.1 = journal)
      (store.recorded.executor.connect statement).run
      (either (fun _ t => t.1 = journal) fun _ _ => False) := by
    refine (ensures_aside (J := fun j => j = journal) (store.notice statement)).bindLift fun _ => ?_
    refine acquired.bindLift fun got => Ensures.of_and fun hgot => ?_
    subst hgot
    exact Ensures.pure fun _ h => h
  refine Ensures.bindExcept (M := fun _ t => t.1 = journal)
    (connected.mono fun result t h => ?_) fun _ => ?_
  · cases result with
    | ok _ => exact h
    | error fault => cases h
  · have sent : Ensures (fun t => t.1 = journal) (store.recorded.source.execute statement)
        (fun outcome t => t.1 = journal ++ [{ statement, completion := outcome.toOption }]) := by
      have told := ensures_aside (J := fun j => j = journal) (store.source.execute statement)
      exact told.bind fun outcome t ht => congrArg (· ++ _) ht
    refine sent.bindLift fun outcome => ?_
    cases outcome with
    | ok completion => exact Ensures.pure fun _ h => ⟨_, h⟩
    | error fault => exact Ensures.pure fun _ h => ⟨_, h⟩

/-- A statement that writes ends up on the journal, with what the database told if it took effect,
unless connections are not always to be had. Then there is a fault and nothing is sent. -/
theorem ensures_execute_once (statement : Statement) :
    Ensures (fun t => t.1 = []) (store.recorded.executor.execute statement).run
      (fun result t => (∃ told, t.1 = [{ statement, completion := told }] ∧
          ∀ completion, result = .ok completion → told = some completion) ∨
        (t.1 = [] ∧ ¬ store.IsAvailable ∧ ∃ fault, result = .error fault)) := by
  have once : Ensures (fun t => t.1 = []) (store.recorded.executor.execute statement).run
      (fun result t => (∃ told, t.1 = [{ statement, completion := told }] ∧
          ∀ completion, result = .ok completion → told = some completion) ∨
        (t.1 = [] ∧ ∃ fault, result = .error fault)) := by
    refine ensures_execute (J := fun journal => journal = [])
      (R := fun result journal => (∃ told, journal = [{ statement, completion := told }] ∧
          ∀ completion, result = .ok completion → told = some completion) ∨
        (journal = [] ∧ ∃ fault, result = .error fault))
      store statement (C := fun _ => True) (fun _ _ _ => trivial) ?_ ?_ ?_
    · rintro _ completion - rfl
      exact .inl ⟨_, rfl, fun _ told => congrArg some (Except.ok.inj told)⟩
    · rintro _ fault rfl
      exact .inl ⟨_, rfl, nofun⟩
    · rintro _ fault rfl
      exact .inr ⟨rfl, fault, rfl⟩
  by_cases available : store.IsAvailable
  · refine (once.and (ensures_execute_of_available store available statement [])).mono ?_
    rintro result t ⟨sent | ⟨quiet, -⟩, told, htold⟩
    · exact .inl sent
    · cases quiet.symm.trans htold
  · refine once.mono fun result t outcome => ?_
    exact outcome.imp_right fun ⟨quiet, failed⟩ => ⟨quiet, available, failed⟩

/-- A statement that is sent to write, and something that is made of what the database tells, if it
can be made. -/
theorem ensures_send_answered {β : Type} (statement : Statement) (g : Completion → Option β) :
    Ensures (fun t => t.1 = [])
      (do
        let completion ← store.recorded.executor.execute statement
        Executor.orDie (g completion) : ExceptT MappingFault (Journaled σ) β).run
      (fun result t => (∃ told, t.1 = [{ statement, completion := told }] ∧
          ∀ b, result = .ok b → ∃ completion, told = some completion ∧ g completion = some b) ∨
        (t.1 = [] ∧ ¬ store.IsAvailable ∧ ∃ fault, result = .error fault)) := by
  refine Ensures.bindExcept
    (M := fun completion (t : List Sent × σ) =>
      t.1 = [{ statement, completion := some completion }])
    ((ensures_execute_once store statement).mono fun result t outcome => ?_) fun completion => ?_
  · cases result with
    | ok completion =>
      rcases outcome with ⟨told, sent, htold⟩ | ⟨-, -, fault, failed⟩
      · obtain rfl := htold completion rfl
        exact sent
      · cases failed
    | error fault =>
      rcases outcome with ⟨told, sent, -⟩ | ⟨quiet, unavailable, -⟩
      · exact .inl ⟨told, sent, nofun⟩
      · exact .inr ⟨quiet, unavailable, fault, rfl⟩
  · cases answered : g completion with
    | none => exact Ensures.pure fun _ sent => .inl ⟨some completion, sent, nofun⟩
    | some b =>
      exact Ensures.pure fun _ sent => .inl ⟨some completion, sent, fun _ made =>
        ⟨completion, rfl, Except.ok.inj made ▸ answered⟩⟩

/-- A statement that is sent to write, and something that is made of what the database tells. -/
theorem ensures_send_once {β : Type} (statement : Statement) (g : Completion → β) :
    Ensures (fun t => t.1 = [])
      (do
        let completion ← store.recorded.executor.execute statement
        pure (g completion) : ExceptT MappingFault (Journaled σ) β).run
      (fun result t => (∃ told, t.1 = [{ statement, completion := told }] ∧
          ∀ b, result = .ok b → ∃ completion, told = some completion ∧ b = g completion) ∨
        (t.1 = [] ∧ ¬ store.IsAvailable ∧ ∃ fault, result = .error fault)) := by
  refine (ensures_send_answered store statement fun completion => some (g completion)).mono
    fun _ _ outcome => outcome.imp_left ?_
  rintro ⟨told, sent, made⟩
  refine ⟨told, sent, fun b hb => ?_⟩
  obtain ⟨completion, htold, answered⟩ := made b hb
  exact ⟨completion, htold, (Option.some.inj answered).symm⟩

/-- What compiles is sent, and what leaves no trace on the journal may come after it. -/
theorem ensures_sent (available : store.IsAvailable) {kind : StatementKind}
    {op : Operation (Listener ℓ)} {statement : Statement}
    (compiles : store.dialect.prepare kind op.query = .ok statement)
    {f : Completion → ExceptT MappingFault (Journaled σ) UInt64}
    (quiet : ∀ completion journal, Ensures (fun t => t.1 = journal) (f completion).run
      (fun _ t => t.1 = journal)) :
    Ensures (fun t => t.1 = []) (do
        let statement ← store.recorded.executor.prepare kind op
        let completion ← store.recorded.executor.execute statement
        f completion).run
      (fun _ t => ∃ told, t.1 = [{ statement, completion := told }]) := by
  have compiled : store.recorded.executor.prepare kind op = pure statement :=
    Executor.prepare_of_ok compiles
  rw [compiled, pure_bind]
  refine Ensures.bindExcept
    (M := fun _ (t : List Sent × σ) => ∃ told, t.1 = [{ statement, completion := told }])
    ((ensures_execute_of_available store available statement []).mono fun result t h => ?_)
    fun completion t h => ?_
  · cases result <;> exact h
  · obtain ⟨told, htold⟩ := h
    exact ⟨told, quiet completion _ t htold⟩

/-- What a dispatch before a write leads to: the statement itself, or the one substitute of a
statement that was called off, is compiled. -/
def Leaves (d : Dialect) (kind : StatementKind) (report : Report (Listener ℓ))
    (left : Operation (Listener ℓ)) (statement : Statement) : Prop :=
  if report.canceled then
    ∃ substitute, report.substitutes = [substitute] ∧
      d.prepare substitute.kind substitute.operation.query = .ok statement
  else d.prepare kind left.query = .ok statement

/-- A write sends one statement: the one that its listeners leave. The listeners of the moment after
it send nothing. -/
theorem ensures_runWrite (available : store.IsAvailable) {before after : EventKind}
    {kind : StatementKind} {op left : Operation (Listener ℓ)} {report : Report (Listener ℓ)}
    {w w' : σ} (called : (dispatch (Listener.hear store.now store.hear) before op).run w =
      ((.ok report, left), w')) {statement : Statement}
    (leaves : Leaves store.dialect kind report left statement) :
    Ensures (fun t => t = ([], w)) (store.recorded.executor.runWrite before after kind op).run
      (fun _ t => ∃ told, t.1 = [{ statement, completion := told }]) := by
  have outcome : Ensures (fun t => t = ([], w))
      (dispatch (Listener.hear store.recorded.now store.recorded.hear) before op)
      (fun result t => result = (.ok report, left) ∧ t.1 = []) := by
    rintro _ rfl
    rw [store.dispatch_recorded]
    exact ⟨congrArg Prod.fst called, rfl⟩
  have dispatched : Ensures (fun t => t = ([], w)) (store.recorded.executor.dispatch before op).run
      (either (fun result t => result = (report, left) ∧ t.1 = []) fun _ _ => False) := by
    refine outcome.bindLift fun result => Ensures.of_and fun hresult => ?_
    subst hresult
    exact Ensures.pure fun _ h => ⟨rfl, h⟩
  -- the moment after the statement leaves the journal as it is
  have quiet (affected : UInt64) (journal : List Sent) : Ensures (fun t => t.1 = journal)
      (do
        let _ ← store.recorded.executor.dispatch after left
        return affected : ExceptT MappingFault (Journaled σ) UInt64).run
      (fun _ t => t.1 = journal) := by
    refine Ensures.bindExcept (M := fun _ t => t.1 = journal) ?_ fun _ =>
      Ensures.pure fun _ h => h
    refine (ensures_dispatch (J := fun j => j = journal) store after left).mono fun result _ h => ?_
    cases result <;> exact h
  rw [Executor.runWrite]
  refine Ensures.bindExcept (M := fun result t => result = (report, left) ∧ t.1 = [])
    (dispatched.mono fun result t h => ?_) fun result => Ensures.of_and fun hresult => ?_
  · cases result with
    | ok _ => exact h
    | error fault => cases h
  · subst hresult
    dsimp only
    rw [Leaves] at leaves
    cases hcanceled : report.canceled with
    | true =>
      rw [hcanceled, if_pos rfl] at leaves
      obtain ⟨substitute, hsubstitutes, compiles⟩ := leaves
      simp only [if_true, hsubstitutes, Executor.runSubstitutes, bind_assoc, pure_bind]
      exact ensures_sent store available compiles fun completion => quiet _
    | false =>
      rw [hcanceled, if_neg Bool.false_ne_true] at leaves
      simp only [Bool.false_eq_true, if_false, pure_bind]
      exact ensures_sent store available leaves fun completion => quiet _

end Calling

end SqlMapper
