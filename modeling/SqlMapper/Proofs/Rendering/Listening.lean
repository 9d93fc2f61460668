import SqlMapper.Entity.Listener
import SqlMapper.Proofs.Rendering.Statement
import SqlMapper.Proofs.Run.Ensures

/-!
# Queries that listeners leave

A listener changes the operation that it is shown, and it may ask for others to run in its stead. If
it does both by steps of building (`Listener.BuildsWith`), then a dispatch of any number of
listeners does, so what is compiled at last is a query that steps of building lead to
(`reached_dispatch`). The listeners of the mapping are of this kind if the caller's are
(`Listener.buildsWith_hear`).
-/

namespace SqlMapper

namespace Query

/-- A query that steps of building make of another one. The sub-selects they bring in are built. -/
def LeadsTo (q next : Query) : Prop :=
  ∃ steps : List Refinement, next = q.refineEach steps ∧
    ∀ step ∈ steps, ∀ child, Refinement.child? step = some child → Built child

/-- No step is needed to stay. -/
theorem LeadsTo.refl (q : Query) : q.LeadsTo q := ⟨[], rfl, by simp⟩

/-- Steps after steps. -/
theorem LeadsTo.trans {q next last : Query} (h : q.LeadsTo next) (h' : next.LeadsTo last) :
    q.LeadsTo last := by
  obtain ⟨steps, rfl, children⟩ := h
  obtain ⟨further, rfl, others⟩ := h'
  refine ⟨steps ++ further, ?_, ?_⟩
  · rw [refineEach, refineEach, refineEach, List.foldl_append]
  · intro step hstep
    rcases List.mem_append.1 hstep with hstep | hstep
    · exact children step hstep
    · exact others step hstep

/-- What steps make of a query that was reached is reached. -/
theorem LeadsTo.reached {q next : Query} {steps : List Refinement} (h : q.LeadsTo next)
    (hq : q.Reached steps) : ∃ further, next.Reached (steps ++ further) := by
  obtain ⟨further, rfl, children⟩ := h
  exact ⟨further, hq.refineEach further children⟩

/-- A condition without a sub-select is one step. -/
theorem leadsTo_addWhere (q : Query) (connector : Connector) {p : Predicate Query}
    (h : p.child? = none) : q.LeadsTo (q.addWhere connector p) := by
  refine ⟨[.where_ connector p], rfl, ?_⟩
  intro step hstep child hchild
  rw [List.mem_singleton.1 hstep, Refinement.child?_where, h] at hchild
  cases hchild

/-- Staging assignments is one step. -/
theorem leadsTo_stageUpdate (q : Query) (values : ColumnValues) :
    q.LeadsTo (q.stageUpdate values) := by
  refine ⟨[.stageUpdate values], rfl, ?_⟩
  intro step hstep child hchild
  rw [List.mem_singleton.1 hstep] at hchild
  cases hchild

end Query

/-- Listeners that change what they are shown, and make what they ask for, by steps of building. -/
def Listener.BuildsWith {σ κ ℓ : Type} (hear : κ → LifecycleEvent ℓ → StateM σ (Response ℓ)) :
    Prop :=
  ∀ listener event, Ensures (fun _ => True) (hear listener event) (fun response _ =>
    event.operation.query.LeadsTo response.operation.query ∧
      ∀ request ∈ response.requests, event.operation.query.LeadsTo request.2.query)

/-- The listeners of the mapping take steps of building if those of the caller do. -/
theorem Listener.buildsWith_hear {σ ℓ : Type} (now : StateM σ Instant)
    {custom : ℓ → LifecycleEvent (Listener ℓ) → StateM σ (Response (Listener ℓ))}
    (h : BuildsWith custom) : BuildsWith (Listener.hear now custom) := by
  intro listener event
  cases listener with
  | restrict column value =>
    refine Ensures.pure fun _ _ => ⟨event.operation.query.leadsTo_addWhere .and ?_, nofun⟩
    exact Predicate.child?_comparison column .eq value
  | restrictToNull column =>
    exact Ensures.pure fun _ _ => ⟨event.operation.query.leadsTo_addWhere .and rfl, nofun⟩
  | markDeleted column updated =>
    refine (Ensures.trivial now).bind fun time => Ensures.pure fun _ _ => ⟨.refl _, ?_⟩
    intro request hrequest
    rw [List.mem_singleton.1 hrequest]
    have unmarked := event.operation.query.leadsTo_addWhere (p := .nullCheck column false) .and rfl
    exact unmarked.trans (Query.leadsTo_stageUpdate _ (marks column updated time))
  | custom listener => exact h listener event

section Dispatching

variable {σ ℓ : Type} {hear : Hearing (StateM σ) ℓ}

/-- Calling listeners one after another takes steps of building, and so does what they ask for. The
induction is on the listeners that are still to be called. -/
theorem leadsTo_dispatchTo (h : Listener.BuildsWith hear) (kind : EventKind) (policy : ErrorPolicy)
    (rs : List (Registration ℓ)) {q : Query} {op : Operation ℓ} (hop : q.LeadsTo op.query)
    {queued : List (Substitute ℓ)} (hqueued : ∀ sub ∈ queued, q.LeadsTo sub.operation.query)
    (failures : List HookFailure) :
    Ensures (fun _ => True) (dispatchTo hear kind policy rs op queued failures) (fun result _ =>
      q.LeadsTo result.2.query ∧ ∀ report, result.1 = .ok report →
        ∀ sub ∈ report.substitutes, q.LeadsTo sub.operation.query) := by
  induction rs generalizing op queued failures with
  | nil => exact Ensures.pure fun _ _ => ⟨hop, by rintro report ⟨⟩; exact nofun⟩
  | cons r rest ih =>
    refine (h r.listener _).bind fun response s hresponse => ?_
    obtain ⟨changed, asked⟩ := hresponse
    have left : q.LeadsTo response.operation.query := hop.trans changed
    have more : ∀ sub ∈ queued ++ response.requests.map (fun request => .of request.1 request.2),
        q.LeadsTo sub.operation.query := by
      intro sub hsub
      rcases List.mem_append.1 hsub with hsub | hsub
      · exact hqueued sub hsub
      · obtain ⟨request, hrequest, rfl⟩ := List.mem_map.1 hsub
        exact hop.trans (asked request hrequest)
    dsimp only
    cases response.verdict with
    | proceed => exact ih left more failures s trivial
    | cancel =>
      dsimp only
      split
      · exact ⟨left, by rintro report ⟨⟩; exact more⟩
      · exact ⟨left, nofun⟩
    | fail error =>
      cases policy with
      | isolate => exact ih left more _ s trivial
      | shortCircuit => exact ⟨left, by rintro report ⟨⟩; exact nofun⟩

/-- **What listeners leave is reached.** If listeners take steps of building, then the query of the
operation that a dispatch leaves, and those of the substitutes that it asks for, are reached by
further steps. -/
theorem reached_dispatch (h : Listener.BuildsWith hear) (kind : EventKind) {op : Operation ℓ}
    {steps : List Refinement} (hop : op.query.Reached steps) :
    Ensures (fun _ => True) (dispatch hear kind op) (fun result _ =>
      (∃ further, result.2.query.Reached (steps ++ further)) ∧ ∀ report, result.1 = .ok report →
        ∀ sub ∈ report.substitutes, ∃ further, sub.operation.query.Reached (steps ++ further)) := by
  have none_queued : ∀ sub ∈ ([] : List (Substitute ℓ)), op.query.LeadsTo sub.operation.query :=
    nofun
  have all := leadsTo_dispatchTo h kind op.events.policy (op.events.registeredFor kind)
    (.refl op.query) none_queued []
  refine Ensures.mono all fun result _ hresult => ?_
  obtain ⟨left, asked⟩ := hresult
  refine ⟨left.reached hop, fun report hreport sub hsub => ?_⟩
  exact (asked report hreport sub hsub).reached hop

end Dispatching

end SqlMapper
