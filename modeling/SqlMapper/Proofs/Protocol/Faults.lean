import SqlMapper.Proofs.Protocol.Course

/-!
# Faults of queries and the database

A job whose query is refused has not reached for the database, since staging, the moment before and
compiling come before the first connection is asked for. There are two exceptions. The moment after
comes when everything was sent, and a listener that calls off what cannot be called off does it too
late. And of several substitutes each is compiled only when those before it were sent, so one that
is refused comes too late if it is not the first (`Job.RefusedBehind`); to compile them all first
would do away with this exception.
-/

namespace SqlMapper

/-- The deeds of sending statements one by one, each over a connection of its own. -/
def sending {ℓ : Type} (statements : List Statement) : List (Deed ℓ) :=
  statements.flatMap fun statement => [.asked, .sent statement]

namespace Job

variable {σ ℓ : Type} {x : Executor (StateM σ) ℓ} {job : Job} {op : Operation ℓ} {s s' : σ}
  {fault : QueryFault} {deeds : List (Deed ℓ)} {plan : List (Except QueryFault Statement)}

/-- A run in which a substitute is refused behind others: the job was called off, and the
substitutes in front of the refused one, of which there are some, were compiled and sent. Nothing
else was done after the moment before. -/
inductive RefusedBehind (x : Executor (StateM σ) ℓ) (job : Job) (op : Operation ℓ) (s : σ)
    (fault : QueryFault) : List (Deed ℓ) → Prop
  | intro {query : Query} {report : Report ℓ} {left : Operation ℓ}
    {calls : List (ℓ × LifecycleEvent ℓ)} {s₁ : σ} {front behind : List (Substitute ℓ)}
    {refused : Substitute ℓ} {statements : List Statement}
    (staged : job.stage op.query = .ok query)
    (before : x.Dispatched job.before { op with query } s (.ok report) left calls s₁)
    (canceled : report.canceled = true)
    (queued : report.substitutes = front ++ refused :: behind)
    (nonempty : front ≠ [])
    (compiled : front.map (fun substitute =>
      x.dialect.prepare substitute.kind substitute.operation.query) = statements.map .ok)
    (refusal : x.dialect.prepare refused.kind refused.operation.query = .error fault) :
    RefusedBehind x job op s fault (heard calls ++ sending statements)

/-- If sending planned statements succeeds, all of them were compiled and sent. -/
theorem Deliveries.of_ok {result : Except MappingFault (List job.Told)}
    (h : Deliveries x job plan s result deeds s') {told : List job.Told}
    (hresult : result = .ok told) :
    ∃ statements : List Statement, plan = statements.map .ok ∧ deeds = sending statements := by
  induction h generalizing told with
  | done => exact ⟨[], rfl, rfl⟩
  | uncompiled => cases hresult
  | failed => cases hresult
  | @next statement _ _ _ _ _ result _ _ first _ ih =>
    cases result with
    | error fault => cases hresult
    | ok others =>
      obtain ⟨statements, rfl, rfl⟩ := ih rfl
      cases first
      exact ⟨statement :: statements, rfl, rfl⟩

/-- If sending planned statements ends with the fault of a query, a planned statement was not
compiled, and just those planned before it were sent. -/
theorem Deliveries.of_query_fault {result : Except MappingFault (List job.Told)}
    (h : Deliveries x job plan s result deeds s') (hresult : result = .error (.query fault)) :
    ∃ (statements : List Statement) (rest : _),
      plan = statements.map .ok ++ .error fault :: rest ∧ deeds = sending statements := by
  induction h with
  | done => cases hresult
  | @uncompiled _ rest _ =>
    cases hresult
    exact ⟨[], rest, rfl, rfl⟩
  | failed first =>
    -- sending one statement has no fault of a query
    cases hresult
    cases first
  | @next statement _ _ _ _ _ result _ _ first _ ih =>
    cases result with
    | ok told => cases hresult
    | error fault' =>
      cases hresult
      obtain ⟨statements, rest, rfl, rfl⟩ := ih rfl
      cases first
      exact ⟨statement :: statements, rest, rfl, rfl⟩

/-- Where a refused statement is planned behind others, it is a substitute behind others. -/
theorem refusedBehind_of_plan {query : Query} {report : Report ℓ} {left : Operation ℓ}
    {calls : List (ℓ × LifecycleEvent ℓ)} {s₁ : σ} {statements : List Statement}
    {rest : List (Except QueryFault Statement)} (staged : job.stage op.query = .ok query)
    (before : x.Dispatched job.before { op with query } s (.ok report) left calls s₁)
    (planned : x.dialect.plan job.kind report left = statements.map .ok ++ .error fault :: rest)
    (nonempty : statements ≠ []) :
    RefusedBehind x job op s fault (heard calls ++ sending statements) := by
  unfold Dialect.plan at planned
  split at planned
  · next canceled =>
    obtain ⟨front, others, queued, compiled, hothers⟩ := List.map_eq_append_iff.1 planned
    obtain ⟨refused, behind, rfl, refusal, -⟩ := List.map_eq_cons_iff.1 hothers
    refine .intro staged before canceled queued ?_ compiled refusal
    rintro rfl
    exact nonempty (List.map_eq_nil_iff.1 compiled.symm)
  · -- a job that goes on has one planned statement
    obtain ⟨first, others, rfl⟩ := List.exists_cons_of_ne_nil nonempty
    have lengths := congrArg List.length planned
    simp at lengths

/-- **If the query of a job is refused, the job has not reached for the database**, unless the
fault is that of the moment after and a statement was sent before, or the job was called off and a
substitute was refused behind others that were compiled and sent. -/
theorem untouched_of_query_fault
    (h : ((job.perform x op).run.run s).1 = .error (.query fault)) :
    let deeds := ((job.perform x.watched op).run.run ([], s)).2.1
    (∀ deed ∈ deeds, deed.touches = false) ∨
      (fault = .notCancelable job.after ∧ ∃ statement, .sent statement ∈ deeds) ∨
      RefusedBehind x job op s fault deeds := by
  obtain ⟨result, deeds, s', course⟩ := exists_course x job op s
  rw [run_perform, (course_iff x job op s result deeds s').1 course] at h
  rw [(course_iff x job op s result deeds s').1 course]
  dsimp only at h ⊢
  subst h
  cases course with
  | unstaged refused => exact .inl (by simp)
  | forbidden staged before => exact .inl fun deed => touches_of_mem_heard
  | broken staged before sent =>
    obtain ⟨statements, rest, planned, rfl⟩ := sent.of_query_fault rfl
    by_cases nothing : statements = []
    · rw [nothing, sending, List.flatMap_nil, List.append_nil]
      exact .inl fun deed => touches_of_mem_heard
    · exact .inr (.inr (refusedBehind_of_plan staged before planned nothing))
  | overruled staged before sent answered after =>
    obtain ⟨statements, -, rfl⟩ := sent.of_ok rfl
    cases statements with
    | nil =>
      refine .inl fun deed hdeed => ?_
      rcases List.mem_append.1 hdeed with hbefore | hafter
      · exact touches_of_mem_heard hbefore
      · exact touches_of_mem_heard hafter
    | cons first others => exact .inr (.inl ⟨after.fault_eq, first, by simp [sending]⟩)

end Job

/-- An executor whose listeners call everything off and ask for the rows of some tables to be
deleted instead, and whose database takes every statement and has no rows to show. -/
def Executor.vetoed : Executor (StateM Unit) (List String) where
  dialect := .mysql
  source := {
    acquire := pure (.ok ())
    fetch := fun _ => pure (.ok [])
    execute := fun _ => pure (.ok { affected := 1, lastRowId := 5 }) }
  hear := fun tables event => pure {
    operation := event.operation
    requests := tables.map (fun table => (.delete, .ofTable table))
    verdict := .cancel }
  notice := fun _ => pure ()

/-- An operation on the users, with a listener that asks for the rows of some tables to be deleted
instead. -/
def Operation.vetoedAt (kind : EventKind) (tables : List String) : Operation (List String) :=
  (Operation.ofTable "users").listen kind tables

namespace Job

/-- The fault of the moment before a select comes before the database. -/
theorem untouched_vetoed_select :
    ((select.perform Executor.vetoed (.vetoedAt .preSelect [])).run.run ()).1 =
      .error (.query (.notCancelable .preSelect)) ∧
    ∀ deed ∈ ((select.perform Executor.vetoed.watched (.vetoedAt .preSelect [])).run.run
      ([], ())).2.1, deed.touches = false := by
  refine ⟨rfl, ?_⟩
  have untouched := @untouched_of_query_fault Unit (List String) Executor.vetoed select
    (.vetoedAt .preSelect []) () (.notCancelable .preSelect) rfl
  dsimp only at untouched
  generalize ((select.perform Executor.vetoed.watched (.vetoedAt .preSelect [])).run.run
    ([], ())).2.1 = deeds at untouched ⊢
  rcases untouched with untouched | ⟨after, -⟩ | ⟨staged, before, -⟩
  · exact untouched
  · cases after
  · cases staged
    cases congrArg (fun dispatched => dispatched.1.1) before

/-- A fault of the moment after a select comes when the select was sent, and one of the second
substitute of a delete comes when the first was sent. -/
theorem touched_before_query_fault :
    (select.perform Executor.vetoed.watched (.vetoedAt .postSelect [])).run.run ([], ()) =
      (.error (.query (.notCancelable .postSelect)),
        ([.asked, .sent { kind := some .select, sql := "SELECT * FROM `users`", bindings := [] },
          .heard [] ⟨.postSelect, .vetoedAt .postSelect [], []⟩], ())) ∧
    (delete.perform Executor.vetoed.watched (.vetoedAt .preDelete ["notes", ""])).run.run ([], ()) =
      (.error (.query .missingTable),
        ([.heard ["notes", ""] ⟨.preDelete, .vetoedAt .preDelete ["notes", ""], []⟩, .asked,
          .sent { kind := some .delete, sql := "DELETE FROM `notes`", bindings := [] }], ())) :=
  ⟨rfl, rfl⟩

end Job

end SqlMapper
