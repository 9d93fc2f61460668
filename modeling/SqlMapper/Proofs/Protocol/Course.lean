import SqlMapper.Proofs.Protocol.Job
import SqlMapper.Proofs.Protocol.Watching

/-!
# The course of a job

The course of a job says which listeners are called, which connections are asked for and which
statements are sent, in which order, and what the caller is answered (`Job.Course`). A job takes
exactly one course, and an executor follows it, watched or not (`Job.follows_course`).
-/

namespace SqlMapper

namespace Job

variable {σ ℓ : Type}

/-- Sending one statement of a job. It is told of first; then one connection is asked for, and the
statement is sent only if there is one. -/
inductive Delivery (x : Executor (StateM σ) ℓ) (job : Job) (statement : Statement) (s : σ) :
    Except MappingFault job.Told → List (Deed ℓ) → σ → Prop
  /-- There is no connection, and the statement is not sent. -/
  | unconnected {fault : DatabaseFault} {s' : σ}
    (refused : x.source.acquire.run ((x.notice statement).run s).2 = (.error fault, s')) :
    Delivery x job statement s (.error (.database fault)) [.asked] s'
  /-- The statement is sent and fails. -/
  | failed {s₁ : σ} {fault : DatabaseFault} {s' : σ}
    (connected : x.source.acquire.run ((x.notice statement).run s).2 = (.ok (), s₁))
    (failed : (job.send x.source statement).run s₁ = (.error fault, s')) :
    Delivery x job statement s (.error (.database fault)) [.asked, .sent statement] s'
  /-- The statement is sent, and the database tells something of it. -/
  | told {s₁ : σ} {told : job.Told} {s' : σ}
    (connected : x.source.acquire.run ((x.notice statement).run s).2 = (.ok (), s₁))
    (succeeded : (job.send x.source statement).run s₁ = (.ok told, s')) :
    Delivery x job statement s (.ok told) [.asked, .sent statement] s'

/-- Sending planned statements one by one, in their order. The first that was not compiled or fails
is the last: nothing is done for those after it. -/
inductive Deliveries (x : Executor (StateM σ) ℓ) (job : Job) :
    List (Except QueryFault Statement) → σ → Except MappingFault (List job.Told) →
      List (Deed ℓ) → σ → Prop
  /-- All statements were sent. -/
  | done {s : σ} : Deliveries x job [] s (.ok []) [] s
  /-- A statement was not compiled; no connection is asked for. -/
  | uncompiled {fault : QueryFault} {rest : List (Except QueryFault Statement)} {s : σ} :
    Deliveries x job (.error fault :: rest) s (.error (.query fault)) [] s
  /-- A statement fails. -/
  | failed {statement : Statement} {rest : List (Except QueryFault Statement)} {s : σ}
    {fault : MappingFault} {deeds : List (Deed ℓ)} {s' : σ}
    (first : Delivery x job statement s (.error fault) deeds s') :
    Deliveries x job (.ok statement :: rest) s (.error fault) deeds s'
  /-- A statement succeeds, and the others follow. -/
  | next {statement : Statement} {rest : List (Except QueryFault Statement)} {s : σ}
    {told : job.Told} {deeds : List (Deed ℓ)} {s₁ : σ}
    {result : Except MappingFault (List job.Told)} {deeds' : List (Deed ℓ)} {s' : σ}
    (first : Delivery x job statement s (.ok told) deeds s₁)
    (others : Deliveries x job rest s₁ result deeds' s') :
    Deliveries x job (.ok statement :: rest) s (result.map (told :: ·)) (deeds ++ deeds') s'

/-- What a job does from a state: the answer, the deeds in their order, and the state after it. -/
inductive Course (x : Executor (StateM σ) ℓ) (job : Job) (op : Operation ℓ) (s : σ) :
    Except MappingFault job.Answer → List (Deed ℓ) → σ → Prop
  /-- What is to be written is refused. No listener is called, and no connection is asked for. -/
  | unstaged {fault : QueryFault} (refused : job.stage op.query = .error fault) :
    Course x job op s (.error (.query fault)) [] s
  /-- The moment before, which comes once, has a fault. Nothing is sent. -/
  | forbidden {query : Query} {fault : QueryFault} {left : Operation ℓ}
    {calls : List (ℓ × LifecycleEvent ℓ)} {s' : σ}
    (staged : job.stage op.query = .ok query)
    (before : x.Dispatched job.before { op with query } s (.error fault) left calls s') :
    Course x job op s (.error (.query fault)) (heard calls) s'
  /-- Planned are the substitutes, in the order in which they were asked for, if the job was called
  off, and otherwise nothing but its own statement, compiled from the operation as the listeners
  left it. A planned statement was not compiled or fails. -/
  | broken {query : Query} {report : Report ℓ} {left : Operation ℓ}
    {calls : List (ℓ × LifecycleEvent ℓ)} {s₁ : σ} {fault : MappingFault} {deeds : List (Deed ℓ)}
    {s' : σ} (staged : job.stage op.query = .ok query)
    (before : x.Dispatched job.before { op with query } s (.ok report) left calls s₁)
    (sent : Deliveries x job (x.dialect.plan job.kind report left) s₁ (.error fault) deeds s') :
    Course x job op s (.error fault) (heard calls ++ deeds) s'
  /-- All planned statements were sent, but what the database told of them gives no answer. No
  listener of the moment after is called. -/
  | died {query : Query} {report : Report ℓ} {left : Operation ℓ}
    {calls : List (ℓ × LifecycleEvent ℓ)} {s₁ : σ} {told : List job.Told} {deeds : List (Deed ℓ)}
    {s' : σ} (staged : job.stage op.query = .ok query)
    (before : x.Dispatched job.before { op with query } s (.ok report) left calls s₁)
    (sent : Deliveries x job (x.dialect.plan job.kind report left) s₁ (.ok told) deeds s')
    (unanswered : job.answer report.canceled told = none) :
    Course x job op s (.error .lostTask) (heard calls ++ deeds) s'
  /-- All planned statements were sent, and what the database told of them gives an answer. The
  moment after them, which comes once, has a fault. -/
  | overruled {query : Query} {report : Report ℓ} {left : Operation ℓ}
    {calls : List (ℓ × LifecycleEvent ℓ)} {s₁ : σ} {told : List job.Told} {deeds : List (Deed ℓ)}
    {s₂ : σ} {answer : job.Answer} {fault : QueryFault} {left' : Operation ℓ}
    {calls' : List (ℓ × LifecycleEvent ℓ)} {s' : σ} (staged : job.stage op.query = .ok query)
    (before : x.Dispatched job.before { op with query } s (.ok report) left calls s₁)
    (sent : Deliveries x job (x.dialect.plan job.kind report left) s₁ (.ok told) deeds s₂)
    (answered : job.answer report.canceled told = some answer)
    (after : x.Dispatched job.after left s₂ (.error fault) left' calls' s') :
    Course x job op s (.error (.query fault)) (heard calls ++ (deeds ++ heard calls')) s'
  /-- All planned statements were sent, and the moment after them has no fault. The answer is the
  one that what the database told of each statement gives. -/
  | finished {query : Query} {report : Report ℓ} {left : Operation ℓ}
    {calls : List (ℓ × LifecycleEvent ℓ)} {s₁ : σ} {told : List job.Told} {deeds : List (Deed ℓ)}
    {s₂ : σ} {answer : job.Answer} {report' : Report ℓ} {left' : Operation ℓ}
    {calls' : List (ℓ × LifecycleEvent ℓ)} {s' : σ} (staged : job.stage op.query = .ok query)
    (before : x.Dispatched job.before { op with query } s (.ok report) left calls s₁)
    (sent : Deliveries x job (x.dialect.plan job.kind report left) s₁ (.ok told) deeds s₂)
    (answered : job.answer report.canceled told = some answer)
    (after : x.Dispatched job.after left s₂ (.ok report') left' calls' s') :
    Course x job op s (.ok answer) (heard calls ++ (deeds ++ heard calls')) s'

section Existence

variable (x : Executor (StateM σ) ℓ) (job : Job)

/-- Sending a statement comes to an end. -/
theorem exists_delivery (statement : Statement) (s : σ) :
    ∃ result deeds s', Delivery x job statement s result deeds s' := by
  obtain ⟨⟨connection, s₁⟩, hconnection⟩ :
      ∃ asked, x.source.acquire.run ((x.notice statement).run s).2 = asked := ⟨_, rfl⟩
  cases connection with
  | error fault => exact ⟨_, _, _, .unconnected hconnection⟩
  | ok _ =>
    obtain ⟨⟨outcome, s'⟩, houtcome⟩ :
        ∃ sent, (job.send x.source statement).run s₁ = sent := ⟨_, rfl⟩
    cases outcome with
    | error fault => exact ⟨_, _, _, .failed hconnection houtcome⟩
    | ok told => exact ⟨_, _, _, .told hconnection houtcome⟩

/-- Sending planned statements comes to an end. -/
theorem exists_deliveries (plan : List (Except QueryFault Statement)) (s : σ) :
    ∃ result deeds s', Deliveries x job plan s result deeds s' := by
  induction plan generalizing s with
  | nil => exact ⟨_, _, _, .done⟩
  | cons planned rest ih =>
    cases planned with
    | error fault => exact ⟨_, _, _, .uncompiled⟩
    | ok statement =>
      obtain ⟨result, deeds, s₁, first⟩ := exists_delivery x job statement s
      cases result with
      | error fault => exact ⟨_, _, _, .failed first⟩
      | ok told =>
        obtain ⟨_, _, _, others⟩ := ih s₁
        exact ⟨_, _, _, .next first others⟩

/-- Every job takes a course. -/
theorem exists_course (op : Operation ℓ) (s : σ) :
    ∃ result deeds s', Course x job op s result deeds s' := by
  cases staged : job.stage op.query with
  | error fault => exact ⟨_, _, _, .unstaged staged⟩
  | ok query =>
    obtain ⟨outcome, left, calls, s₁, before⟩ :=
      x.exists_dispatched job.before { op with query } s
    cases outcome with
    | error fault => exact ⟨_, _, _, .forbidden staged before⟩
    | ok report =>
      obtain ⟨sending, deeds, s₂, sent⟩ :=
        exists_deliveries x job (x.dialect.plan job.kind report left) s₁
      cases sending with
      | error fault => exact ⟨_, _, _, .broken staged before sent⟩
      | ok told =>
        cases answered : job.answer report.canceled told with
        | none => exact ⟨_, _, _, .died staged before sent answered⟩
        | some answer =>
          obtain ⟨ending, left', calls', s', after⟩ := x.exists_dispatched job.after left s₂
          cases ending with
          | error fault => exact ⟨_, _, _, .overruled staged before sent answered after⟩
          | ok report' => exact ⟨_, _, _, .finished staged before sent answered after⟩

end Existence

section Following

variable {τ : Type} {x : Executor (StateM σ) ℓ} {y : Executor (StateM τ) ℓ}
  {view : List (Deed ℓ) → σ → τ} {job : Job} {op : Operation ℓ} {s s' : σ} {deeds : List (Deed ℓ)}
  (shows : x.Shows y view)
include shows

/-- Sending a statement of a job is one deed. -/
theorem yields_send {statement : Statement} {outcome : Except DatabaseFault job.Told}
    (h : (job.send x.source statement).run s = (outcome, s')) :
    Yields view (job.send y.source statement) s outcome [.sent statement] s' := by
  have same : Does view (job.send y.source statement) [.sent statement]
      (job.send x.source statement) := by
    cases job with
    | select => exact shows.fetch statement
    | existence => exact shows.fetch statement
    | update values => exact shows.execute statement
    | delete => exact shows.execute statement
    | insert row returnKey => exact shows.execute statement
    | insertMany rows returnKeys => exact shows.execute statement
  have sent := same s
  rw [h] at sent
  exact sent

/-- Telling of a statement is followed by asking for a connection. -/
theorem yields_connect {statement : Statement} {outcome : Except DatabaseFault Unit}
    (h : x.source.acquire.run ((x.notice statement).run s).2 = (outcome, s')) :
    Yields view (y.connect statement).run s (outcome.mapError .database) [.asked] s' := by
  have acquired := shows.acquire ((x.notice statement).run s).2
  rw [h] at acquired
  refine (shows.notice statement s).bindLift (acquired.bindLift ?_)
  cases outcome with
  | ok _ => exact Yields.pure _ s'
  | error fault => exact Yields.pure _ s'

/-- A statement is sent the way it is described. -/
theorem Delivery.yields {statement : Statement} {result : Except MappingFault job.Told}
    (h : Delivery x job statement s result deeds s') :
    Yields view (y.sendOne (job.send y.source) statement).run s result deeds s' := by
  cases h with
  | unconnected refused => exact (yields_connect shows refused).bindError
  | failed connected failed =>
    exact (yields_connect shows connected).bindOk
      ((yields_send shows failed).bindLift (Yields.pure _ s'))
  | told connected succeeded =>
    exact (yields_connect shows connected).bindOk
      ((yields_send shows succeeded).bindLift (Yields.pure _ s'))

/-- Planned statements are sent the way it is described. -/
theorem Deliveries.yields {plan : List (Except QueryFault Statement)}
    {result : Except MappingFault (List job.Told)} (h : Deliveries x job plan s result deeds s') :
    Yields view (y.sendAll (job.send y.source) plan).run s result deeds s' := by
  induction h with
  | done => exact Yields.pure _ _
  | uncompiled => exact Yields.pure _ _
  | failed first => exact (first.yields shows).bindError
  | @next _ _ _ _ _ _ result _ s' first others ih =>
    refine (first.yields shows).bindOk ?_
    cases result with
    | error fault => exact ih.bindError
    | ok told => exact (ih.bindOk (Yields.pure _ s')).of_append_nil

/-- Both executors plan the same statements, so what is planned is sent the way it is described. -/
theorem yields_plan {kind : StatementKind} {report : Report ℓ} {left : Operation ℓ}
    {result : Except MappingFault (List job.Told)}
    (h : Deliveries x job (x.dialect.plan kind report left) s result deeds s') :
    Yields view (y.sendAll (job.send y.source) (y.dialect.plan kind report left)).run s result
      deeds s' := by
  rw [shows.dialect]
  exact h.yields shows

/-- The listeners of a moment are called the way it is described. -/
theorem yields_dispatch {kind : EventKind} {outcome : Except QueryFault (Report ℓ)}
    {left : Operation ℓ} {calls : List (ℓ × LifecycleEvent ℓ)}
    (h : x.Dispatched kind op s outcome left calls s') :
    Yields view (y.dispatch kind op).run s
      ((outcome.map (·, left)).mapError .query) (heard calls) s' := by
  have called := h.yields shows
  cases outcome with
  | ok report => exact (called.bindLift (Yields.pure _ s')).of_append_nil
  | error fault => exact (called.bindLift (Yields.pure _ s')).of_append_nil

/-- An executor that does the same as a given one does a job the way it is described. -/
theorem Course.yields {result : Except MappingFault job.Answer}
    (h : Course x job op s result deeds s') :
    Yields view (job.perform y op).run s result deeds s' := by
  rw [perform_eq_conduct, Executor.conduct]
  cases h with
  | unstaged refused => rw [refused]; exact Yields.pure _ s
  | forbidden staged before => rw [staged]; exact (yields_dispatch shows before).bindError
  | broken staged before sent =>
    rw [staged]
    exact (yields_dispatch shows before).bindOk (yields_plan shows sent).bindError
  | died staged before sent unanswered =>
    rw [staged]
    refine (yields_dispatch shows before).bindOk ((yields_plan shows sent).bindOk ?_).of_append_nil
    rw [unanswered]
    exact (Yields.pure _ s').bindError
  | overruled staged before sent answered after =>
    rw [staged]
    refine (yields_dispatch shows before).bindOk ((yields_plan shows sent).bindOk ?_)
    rw [answered]
    exact (Yields.pure _ _).bindOk (yields_dispatch shows after).bindError
  | finished staged before sent answered after =>
    rw [staged]
    refine (yields_dispatch shows before).bindOk ((yields_plan shows sent).bindOk ?_)
    rw [answered]
    exact (Yields.pure _ _).bindOk
      ((yields_dispatch shows after).bindOk (Yields.pure _ s')).of_append_nil

end Following

/-- A watched executor takes a course exactly if that course is described. -/
theorem course_iff (x : Executor (StateM σ) ℓ) (job : Job) (op : Operation ℓ) (s : σ)
    (result : Except MappingFault job.Answer) (deeds : List (Deed ℓ)) (s' : σ) :
    Course x job op s result deeds s' ↔
      (job.perform x.watched op).run.run ([], s) = (result, (deeds, s')) := by
  constructor
  · intro course
    exact course.yields x.shows_watched []
  · intro ran
    obtain ⟨result', deeds', s₁, course⟩ := exists_course x job op s
    have same := (course.yields x.shows_watched []).symm.trans ran
    rw [Prod.mk.injEq, Prod.mk.injEq] at same
    obtain ⟨rfl, hdeeds, rfl⟩ := same
    rw [← hdeeds]
    exact course

/-- Watching an executor does not change what it answers, nor what listeners and database do. -/
theorem run_perform (x : Executor (StateM σ) ℓ) (job : Job) (op : Operation ℓ) (s : σ) :
    (job.perform x op).run.run s =
      (((job.perform x.watched op).run.run ([], s)).1,
        ((job.perform x.watched op).run.run ([], s)).2.2) := by
  obtain ⟨result, deeds, s', course⟩ := exists_course x job op s
  rw [course.yields x.shows_self [], course.yields x.shows_watched []]

/-- **A job takes exactly one course.** Whatever the listeners make of the operation and whenever
the database fails, the answer, the listeners called, the connections asked for and the statements
sent are those of the course, in this order, and of no other; and an executor that is not watched
gives the same answer and leaves the same state. -/
theorem follows_course (x : Executor (StateM σ) ℓ) (job : Job) (op : Operation ℓ) (s : σ) :
    (∀ result deeds s', Course x job op s result deeds s' ↔
      (job.perform x.watched op).run.run ([], s) = (result, (deeds, s'))) ∧
    (job.perform x op).run.run s =
      (((job.perform x.watched op).run.run ([], s)).1,
        ((job.perform x.watched op).run.run ([], s)).2.2) :=
  ⟨course_iff x job op s, run_perform x job op s⟩

end Job

end SqlMapper
