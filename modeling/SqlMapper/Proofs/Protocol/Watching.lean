import SqlMapper.Execution.Executor
import SqlMapper.Proofs.Run.Ensures

/-!
# Watched executors

What an executor does to the world around it is a deed: it calls a listener, asks for a connection,
or sends a statement. A watched executor keeps a log of its deeds beside the state on which
listeners and database act. To show that watching changes nothing, what is said of a computation is
said of every executor that does the same as a given one, whatever of its deeds its state lets see
(`Executor.Shows`): the watched executor is one of them, and the given one is another.

The listeners of a moment are called by one recursion. That it does nothing but call listeners, and
what its fault is if it has one, is `Executor.exists_dispatch` and `Executor.Dispatched.fault_eq`.
-/

namespace SqlMapper

/-- Something that an executor does to the world around it. -/
inductive Deed (ℓ : Type) where
  /-- A listener is called and shown something. -/
  | heard (listener : ℓ) (event : LifecycleEvent ℓ)
  /-- A connection is asked for. -/
  | asked
  /-- A statement is sent over the connection. -/
  | sent (statement : Statement)

/-- Whether a deed reaches for the database. -/
def Deed.touches {ℓ : Type} : Deed ℓ → Bool
  | .heard _ _ => false
  | .asked => true
  | .sent _ => true

/-- The deeds of calling listeners, given each with what it is shown. -/
def heard {ℓ : Type} (calls : List (ℓ × LifecycleEvent ℓ)) : List (Deed ℓ) :=
  calls.map (fun call => .heard call.1 call.2)

/-- Listeners do not reach for the database of an executor. -/
theorem touches_of_mem_heard {ℓ : Type} {calls : List (ℓ × LifecycleEvent ℓ)} {deed : Deed ℓ}
    (h : deed ∈ heard calls) : deed.touches = false := by
  obtain ⟨call, _, rfl⟩ := List.mem_map.1 h
  rfl

/-- A computation with deeds that are put on the log before it acts. -/
def logging {ℓ σ α : Type} (deeds : List (Deed ℓ)) (act : StateM σ α) :
    StateM (List (Deed ℓ) × σ) α :=
  modifyGet fun t => ((act.run t.2).1, (t.1 ++ deeds, (act.run t.2).2))

/-- An executor with a log of its deeds. -/
def Executor.watched {σ ℓ : Type} (x : Executor (StateM σ) ℓ) :
    Executor (StateM (List (Deed ℓ) × σ)) ℓ where
  dialect := x.dialect
  source := {
    acquire := logging [.asked] x.source.acquire
    fetch := fun statement => logging [.sent statement] (x.source.fetch statement)
    execute := fun statement => logging [.sent statement] (x.source.execute statement) }
  hear := fun listener event => logging [.heard listener event] (x.hear listener event)
  notice := fun statement => logging [] (x.notice statement)

/-- From a state, a computation gives a result, does deeds and leaves a state, seen through what a
view lets see of deeds and state. -/
def Yields {ℓ σ τ α : Type} (view : List (Deed ℓ) → σ → τ) (act : StateM τ α) (s : σ) (a : α)
    (deeds : List (Deed ℓ)) (s' : σ) : Prop :=
  ∀ seen, act.run (view seen s) = (a, view (seen ++ deeds) s')

namespace Yields

variable {ℓ σ τ α β ε : Type} {view : List (Deed ℓ) → σ → τ} {s s₁ s' : σ}
  {deeds deeds' : List (Deed ℓ)}

/-- A result that is given at once. -/
theorem pure (a : α) (s : σ) : Yields view (pure a) s a [] s := by
  intro seen
  rw [List.append_nil]
  rfl

/-- No deeds at the end. -/
theorem of_append_nil {x : StateM τ α} {a : α} (h : Yields view x s a (deeds ++ []) s') :
    Yields view x s a deeds s' := by
  rw [List.append_nil] at h
  exact h

/-- One computation after another. -/
theorem bind {x : StateM τ α} {f : α → StateM τ β} {a : α} {b : β}
    (hx : Yields view x s a deeds s₁) (hf : Yields view (f a) s₁ b deeds' s') :
    Yields view (x >>= f) s b (deeds ++ deeds') s' := by
  intro seen
  rw [StateT.run_bind, hx seen, ← List.append_assoc]
  exact hf (seen ++ deeds)

/-- One computation after another that cannot fail. -/
theorem bindLift {x : StateM τ α} {f : α → ExceptT ε (StateM τ) β} {a : α} {result : Except ε β}
    (hx : Yields view x s a deeds s₁) (hf : Yields view (f a).run s₁ result deeds' s') :
    Yields view (ExceptT.lift x >>= f).run s result (deeds ++ deeds') s' :=
  hx.bind hf

/-- One computation after another that did not fail. -/
theorem bindOk {x : ExceptT ε (StateM τ) α} {f : α → ExceptT ε (StateM τ) β} {a : α}
    {result : Except ε β} (hx : Yields view x.run s (.ok a) deeds s₁)
    (hf : Yields view (f a).run s₁ result deeds' s') :
    Yields view (x >>= f).run s result (deeds ++ deeds') s' := by
  rw [ExceptT.run_bind]
  exact hx.bind hf

/-- Nothing is done after a computation that failed. -/
theorem bindError {x : ExceptT ε (StateM τ) α} {f : α → ExceptT ε (StateM τ) β} {fault : ε}
    (hx : Yields view x.run s (.error fault) deeds s') :
    Yields view (x >>= f).run s (.error fault) deeds s' := by
  rw [ExceptT.run_bind]
  apply of_append_nil
  exact hx.bind (pure _ s')

end Yields

/-- A computation does the same as a given one, and the deeds besides. -/
def Does {ℓ σ τ α : Type} (view : List (Deed ℓ) → σ → τ) (act : StateM τ α)
    (deeds : List (Deed ℓ)) (given : StateM σ α) : Prop :=
  ∀ s, Yields view act s (given.run s).1 deeds (given.run s).2

/-- An executor does the same as a given one, and its state lets see of the deeds what the view
lets see. -/
structure Executor.Shows {σ τ ℓ : Type} (x : Executor (StateM σ) ℓ) (y : Executor (StateM τ) ℓ)
    (view : List (Deed ℓ) → σ → τ) : Prop where
  /-- It compiles to the same dialect. -/
  dialect : y.dialect = x.dialect
  /-- It calls the same listeners. -/
  hear : ∀ listener event, Does view (y.hear listener event) [.heard listener event]
    (x.hear listener event)
  /-- It asks for the same connections. -/
  acquire : Does view y.source.acquire [.asked] x.source.acquire
  /-- It sends the same statements that read. -/
  fetch : ∀ statement, Does view (y.source.fetch statement) [.sent statement]
    (x.source.fetch statement)
  /-- It sends the same statements that write. -/
  execute : ∀ statement, Does view (y.source.execute statement) [.sent statement]
    (x.source.execute statement)
  /-- It tells of the same statements. -/
  notice : ∀ statement, Does view (y.notice statement) [] (x.notice statement)

section Watching

variable {σ ℓ : Type} (x : Executor (StateM σ) ℓ)

/-- The state of a watched executor lets see all deeds. -/
theorem Executor.shows_watched : x.Shows x.watched Prod.mk where
  dialect := rfl
  hear _ _ _ _ := rfl
  acquire _ _ := rfl
  fetch _ _ _ := rfl
  execute _ _ _ := rfl
  notice _ _ _ := rfl

/-- The state of an executor that is not watched lets see none. -/
theorem Executor.shows_self : x.Shows x (fun _ s => s) where
  dialect := rfl
  hear _ _ _ _ := rfl
  acquire _ _ := rfl
  fetch _ _ _ := rfl
  execute _ _ _ := rfl
  notice _ _ _ := rfl

variable {x} in
/-- A listener is called before others. -/
theorem Executor.Shows.call {τ α : Type} {y : Executor (StateM τ) ℓ}
    {view : List (Deed ℓ) → σ → τ} (shows : x.Shows y view) {listener : ℓ}
    {event : LifecycleEvent ℓ} {response : Response ℓ} {s s₁ s' : σ}
    (responds : (x.hear listener event).run s = (response, s₁)) {goesOn : Response ℓ → StateM τ α}
    {result : α} {calls : List (ℓ × LifecycleEvent ℓ)}
    (others : Yields view (goesOn response) s₁ result (heard calls) s') :
    Yields view (y.hear listener event >>= goesOn) s result (heard ((listener, event) :: calls))
      s' := by
  have first := shows.hear listener event s
  rw [responds] at first
  exact first.bind others

/-- Calling listeners one after another does nothing else. The induction is on the listeners left to
call; what the first of them responds decides whether the others are called. -/
theorem Executor.exists_dispatchTo (kind : EventKind) (policy : ErrorPolicy)
    (registrations : List (Registration ℓ)) (op : Operation ℓ) (queued : List (Substitute ℓ))
    (failures : List HookFailure) (s : σ) :
    ∃ result calls s', ∀ (τ : Type) (y : Executor (StateM τ) ℓ) (view : List (Deed ℓ) → σ → τ),
      x.Shows y view →
        Yields view (dispatchTo y.hear kind policy registrations op queued failures) s result
          (heard calls) s' := by
  induction registrations generalizing op queued failures s with
  | nil => exact ⟨_, [], s, fun _ _ _ _ => Yields.pure _ s⟩
  | cons r rest ih =>
    let event : LifecycleEvent ℓ := { kind, operation := op, substitutes := queued }
    obtain ⟨⟨⟨left, requests, verdict⟩, s₁⟩, responds⟩ :
        ∃ response, (x.hear r.listener event).run s = response := ⟨_, rfl⟩
    let asked := queued ++ requests.map (fun request => .of request.1 request.2)
    cases verdict with
    | proceed =>
      obtain ⟨result, calls, s', others⟩ := ih left asked failures s₁
      exact ⟨result, (r.listener, event) :: calls, s',
        fun τ y view shows => shows.call responds (others τ y view shows)⟩
    | cancel =>
      by_cases hkind : kind.isCancelable = true
      · refine ⟨(.ok { canceled := true, substitutes := asked, failures }, left), [_], s₁,
          fun τ y view shows => shows.call responds ?_⟩
        simp only [hkind, if_true]
        exact Yields.pure _ s₁
      · refine ⟨(.error (.notCancelable kind), left), [_], s₁,
          fun τ y view shows => shows.call responds ?_⟩
        simp only [hkind]
        exact Yields.pure _ s₁
    | fail error =>
      cases policy with
      | isolate =>
        obtain ⟨result, calls, s', others⟩ :=
          ih left asked (failures ++ [{ listener := r.id, error }]) s₁
        exact ⟨result, (r.listener, event) :: calls, s',
          fun τ y view shows => shows.call responds (others τ y view shows)⟩
      | shortCircuit =>
        exact ⟨(.ok { failures := failures ++ [{ listener := r.id, error }] }, left), [_], s₁,
          fun τ y view shows => shows.call responds (Yields.pure _ s₁)⟩

/-- Dispatching a moment calls listeners and does nothing else. -/
theorem Executor.exists_dispatch (kind : EventKind) (op : Operation ℓ) (s : σ) :
    ∃ outcome left calls s', ∀ (τ : Type) (y : Executor (StateM τ) ℓ)
      (view : List (Deed ℓ) → σ → τ), x.Shows y view →
        Yields view (SqlMapper.dispatch y.hear kind op) s (outcome, left) (heard calls) s' := by
  obtain ⟨⟨outcome, left⟩, calls, s', shown⟩ :=
    x.exists_dispatchTo kind op.events.policy (op.events.registeredFor kind) op [] [] s
  exact ⟨outcome, left, calls, s', shown⟩

/-- The listeners of a moment are called from a state with an outcome, and leave an operation and a
state behind. -/
def Executor.Dispatched (kind : EventKind) (op : Operation ℓ) (s : σ)
    (outcome : Except QueryFault (Report ℓ)) (left : Operation ℓ)
    (calls : List (ℓ × LifecycleEvent ℓ)) (s' : σ) : Prop :=
  (SqlMapper.dispatch x.watched.hear kind op).run ([], s) = ((outcome, left), (heard calls, s'))

variable {x} {kind : EventKind} {op left : Operation ℓ} {s s' : σ}
  {outcome : Except QueryFault (Report ℓ)} {calls : List (ℓ × LifecycleEvent ℓ)}

/-- A moment has an outcome. -/
theorem Executor.exists_dispatched (x : Executor (StateM σ) ℓ) (kind : EventKind)
    (op : Operation ℓ) (s : σ) :
    ∃ outcome left calls s', x.Dispatched kind op s outcome left calls s' := by
  obtain ⟨outcome, left, calls, s', shown⟩ := x.exists_dispatch kind op s
  exact ⟨outcome, left, calls, s', shown _ _ _ x.shows_watched []⟩

/-- An executor that does the same calls the same listeners, with the same outcome. -/
theorem Executor.Dispatched.yields (h : x.Dispatched kind op s outcome left calls s') {τ : Type}
    {y : Executor (StateM τ) ℓ} {view : List (Deed ℓ) → σ → τ} (shows : x.Shows y view) :
    Yields view (SqlMapper.dispatch y.hear kind op) s (outcome, left) (heard calls) s' := by
  obtain ⟨outcome', left', calls', s₁, shown⟩ := x.exists_dispatch kind op s
  have same := (shown _ _ _ x.shows_watched []).symm.trans h
  rw [Prod.mk.injEq, Prod.mk.injEq, Prod.mk.injEq] at same
  obtain ⟨⟨rfl, rfl⟩, hcalls, rfl⟩ := same
  rw [← hcalls]
  exact shown τ y view shows

end Watching

/-- If a dispatch has a fault, a listener called off what cannot be called off at its moment. -/
theorem ensures_dispatchTo_fault {σ ℓ : Type} (hear : Hearing (StateM σ) ℓ) (kind : EventKind)
    (policy : ErrorPolicy) (registrations : List (Registration ℓ)) (op : Operation ℓ)
    (queued : List (Substitute ℓ)) (failures : List HookFailure) :
    Ensures (fun _ => True) (dispatchTo hear kind policy registrations op queued failures)
      (fun result _ => ∀ fault, result.1 = .error fault → fault = .notCancelable kind) := by
  induction registrations generalizing op queued failures with
  | nil => exact Ensures.pure fun _ _ fault h => nomatch h
  | cons r rest ih =>
    refine (Ensures.trivial _).bind fun response => ?_
    dsimp only
    cases response.verdict with
    | proceed => exact ih _ _ _
    | cancel =>
      dsimp only
      split
      · exact Ensures.pure fun _ _ fault h => nomatch h
      · exact Ensures.pure fun _ _ fault h => (Except.error.inj h).symm
    | fail error =>
      cases policy with
      | isolate => exact ih _ _ _
      | shortCircuit => exact Ensures.pure fun _ _ fault h => nomatch h

/-- If a moment has a fault, a listener called off what cannot be called off. -/
theorem Executor.Dispatched.fault_eq {σ ℓ : Type} {x : Executor (StateM σ) ℓ} {kind : EventKind}
    {op left : Operation ℓ} {s s' : σ} {fault : QueryFault} {calls : List (ℓ × LifecycleEvent ℓ)}
    (h : x.Dispatched kind op s (.error fault) left calls s') : fault = .notCancelable kind := by
  have ensured := ensures_dispatchTo_fault x.watched.hear kind op.events.policy
    (op.events.registeredFor kind) op [] [] ([], s) trivial
  refine ensured fault ?_
  show ((SqlMapper.dispatch x.watched.hear kind op).run ([], s)).1.1 = _
  rw [h]

end SqlMapper
