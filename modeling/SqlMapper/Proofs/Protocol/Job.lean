import SqlMapper.Execution.Executor

/-!
# Jobs of an executor

What a caller asks an executor to do with an operation is a job, one of six. The jobs share one
procedure: stage what is to be written, call the listeners of the moment before, send what is
planned, make the answer, call the listeners of the moment after. A job is known by what it
contributes to these stations, and every function of the executor is the procedure
(`Executor.conduct`) with the contributions of its job (`Job.perform_eq_conduct`). What is planned
is the statement of the job alone, or the substitutes if the job was called off, so both are sent by
one recursion.
-/

namespace SqlMapper

/-- What a caller asks an executor to do. -/
inductive Job where
  /-- Give the rows of a query. -/
  | select
  /-- Tell whether a query has rows. -/
  | existence
  /-- Assign values in the rows of a query. -/
  | update (values : ColumnValues)
  /-- Delete the rows of a query. -/
  | delete
  /-- Insert one row. -/
  | insert (row : ColumnValues) (returnKey : Bool)
  /-- Insert rows. -/
  | insertMany (rows : List ColumnValues) (returnKeys : Bool)

/-- Rows written by statements, one after another. -/
def rowsWritten (told : List Completion) : UInt64 :=
  told.foldl (fun affected completion => affected + completion.affected) 0

namespace Job

/-- The moment before the statement of a job. -/
def before : Job → EventKind
  | .select | .existence => .preSelect
  | .update _ => .preUpdate
  | .delete => .preDelete
  | .insert _ _ | .insertMany _ _ => .preCreate

/-- The moment after the statement of a job. -/
def after : Job → EventKind
  | .select | .existence => .postSelect
  | .update _ => .postUpdate
  | .delete => .postDelete
  | .insert _ _ | .insertMany _ _ => .postCreate

/-- What the operation of a job is compiled as. -/
def kind : Job → StatementKind
  | .select => .select
  | .existence => .existence
  | .update _ => .update
  | .delete => .delete
  | .insert _ _ => .insert
  | .insertMany _ _ => .insertMany

/-- The query with what a job writes. An update has to assign something, and the rows of an insert
have to fit together. -/
def stage : Job → Query → Except QueryFault Query
  | .update values, q =>
    if (q.stageUpdate values).assignments.isEmpty then .error .emptyAssignment
    else .ok (q.stageUpdate values)
  | .insert row _, q => q.stageInsert [row]
  | .insertMany rows _, q => q.stageInsert rows
  | _, q => .ok q

/-- What a database tells of one statement of a job: the columns of each row, or what was
written. -/
def Told : Job → Type
  | .select | .existence => List (List (String × Value))
  | _ => Completion

/-- What a caller is answered. -/
def Answer : Job → Type
  | .select => List Row
  | .existence => Bool
  | .update _ | .delete => UInt64
  | .insert _ _ | .insertMany _ _ => InsertResult

/-- The answer of an insert. Keys are found for the statement that inserts, and only if they were
asked for. There is no answer if their arithmetic leaves the integers. -/
def inserted (returnKeys canceled : Bool) (told : List Completion) : Option InsertResult := do
  let keys ←
    if returnKeys && !canceled then
      told.mapM (fun completion => generatedKeys completion.lastRowId completion.affected)
    else some []
  return { affected := rowsWritten told, generated := keys.flatten }

/-- The answer of a job, given whether it was called off and what the database told of each
statement. Only an insert may have none. -/
def answer (canceled : Bool) : (job : Job) → List job.Told → Option job.Answer
  | .select, told => some (told.flatten.map Row.ofResult)
  | .existence, told =>
    some (((told.flatten.map Row.ofResult).head?.bind
      (fun row => row.first?.bind FromValue.readBool)).getD false)
  | .update _, told => some (rowsWritten told)
  | .delete, told => some (rowsWritten told)
  | .insert _ returnKey, told => inserted returnKey canceled told
  | .insertMany _ returnKeys, told => inserted returnKeys canceled told

/-- An insert that was called off gives no keys. -/
theorem inserted_of_canceled (returnKeys : Bool) (told : List Completion) :
    inserted returnKeys true told = some { affected := rowsWritten told, generated := [] } := by
  rw [inserted, Bool.not_true, Bool.and_false, if_neg Bool.false_ne_true]
  rfl

/-- The answer of an insert that was not called off is made of what the database told of its one
statement. -/
theorem inserted_singleton (returnKeys : Bool) (completion : Completion) :
    inserted returnKeys false [completion] =
      InsertResult.ofCompletion? returnKeys completion := by
  have affected : rowsWritten [completion] = completion.affected := UInt64.zero_add _
  rw [inserted, InsertResult.ofCompletion?, affected, Bool.not_false, Bool.and_true]
  cases returnKeys with
  | false => rfl
  | true =>
    rw [if_pos rfl, if_pos rfl, List.mapM_cons, List.mapM_nil]
    cases generatedKeys completion.lastRowId completion.affected with
    | none => rfl
    | some keys =>
      show some (InsertResult.mk _ [keys].flatten) = some ⟨_, keys⟩
      rw [List.flatten_singleton]

/-- How a statement of a job is sent over a connection. -/
def send {m : Type → Type} (source : ConnectionSource m) :
    (job : Job) → Statement → m (Except DatabaseFault job.Told)
  | .select => source.fetch
  | .existence => source.fetch
  | .update _ => source.execute
  | .delete => source.execute
  | .insert _ _ => source.execute
  | .insertMany _ _ => source.execute

/-- The function of an executor that does a job. -/
def perform {m : Type → Type} [Monad m] {ℓ : Type} (x : Executor m ℓ) (op : Operation ℓ) :
    (job : Job) → ExceptT MappingFault m job.Answer
  | .select => x.runSelect op
  | .existence => x.runExists op
  | .update values => x.runUpdate op values
  | .delete => x.runDelete op
  | .insert row returnKey => x.runInsert op row returnKey
  | .insertMany rows returnKeys => x.runInsertMany op rows returnKeys

end Job

/-- The statements planned for a job once the listeners before it were called, each compiled from
its operation, or the fault of compiling it: the statement of the job, or the substitutes in the
order in which they were asked for. -/
def Dialect.plan {ℓ : Type} (d : Dialect) (kind : StatementKind) (report : Report ℓ)
    (left : Operation ℓ) : List (Except QueryFault Statement) :=
  if report.canceled then
    report.substitutes.map (fun substitute => d.prepare substitute.kind substitute.operation.query)
  else [d.prepare kind left.query]

namespace Executor

variable {m : Type → Type} [Monad m] {ℓ τ : Type}

/-- Sends a statement over a connection of its own. -/
def sendOne (x : Executor m ℓ) (send : Statement → m (Except DatabaseFault τ))
    (statement : Statement) : ExceptT MappingFault m τ := do
  x.connect statement
  match ← send statement with
  | .ok told => return told
  | .error fault => throw (.database fault)

/-- Sends planned statements one by one, until one was not compiled or fails, and collects what the
database tells. -/
def sendAll (x : Executor m ℓ) (send : Statement → m (Except DatabaseFault τ)) :
    List (Except QueryFault Statement) → ExceptT MappingFault m (List τ)
  | [] => pure []
  | .error fault :: _ => throw (.query fault)
  | .ok statement :: rest => do
    let told ← x.sendOne send statement
    let others ← x.sendAll send rest
    return told :: others

/-- The procedure that all jobs share. -/
def conduct (x : Executor m ℓ) (op : Operation ℓ) (job : Job) :
    ExceptT MappingFault m job.Answer :=
  match job.stage op.query with
  | .error fault => throw (.query fault)
  | .ok query => do
    let (report, left) ← x.dispatch job.before { op with query }
    let told ← x.sendAll (job.send x.source) (x.dialect.plan job.kind report left)
    let answer ← orDie (job.answer report.canceled told)
    let _ ← x.dispatch job.after left
    return answer

end Executor

section Conducting

variable {m : Type → Type} [Monad m] [LawfulMonad m] {ℓ : Type}

/-- At a moment when a statement cannot be called off, no dispatch ends with it called off. -/
theorem dispatchTo_of_not_isCancelable (hear : Hearing m ℓ) {kind : EventKind}
    (hkind : kind.isCancelable = false) (policy : ErrorPolicy)
    (registrations : List (Registration ℓ)) (op : Operation ℓ) (queued : List (Substitute ℓ))
    (failures : List HookFailure) :
    dispatchTo hear kind policy registrations op queued failures = (do
      let (outcome, left) ← dispatchTo hear kind policy registrations op queued failures
      pure (outcome.map (fun report => { report with canceled := false }), left)) := by
  induction registrations generalizing op queued failures with
  | nil =>
    rw [dispatchTo, pure_bind]
    rfl
  | cons r rest ih =>
    rw [dispatchTo, bind_assoc]
    refine bind_congr fun response => ?_
    dsimp only
    cases response.verdict with
    | proceed => exact ih _ _ _
    | cancel => simp only [hkind, Bool.false_eq_true, if_false, pure_bind]; rfl
    | fail error =>
      cases policy with
      | isolate => exact ih _ _ _
      | shortCircuit =>
        dsimp only
        rw [pure_bind]
        rfl

/-- Nothing comes after a fault. -/
theorem throw_bind {ε α β : Type} (fault : ε) (f : α → ExceptT ε m β) :
    (throw fault : ExceptT ε m α) >>= f = throw fault := by
  apply ExceptT.ext
  rw [ExceptT.run_bind, ExceptT.run_throw, pure_bind]
  rfl

namespace Executor

variable (x : Executor m ℓ)

/-- A moment at which a statement cannot be called off does not call it off. -/
theorem dispatch_of_not_isCancelable {kind : EventKind} (hkind : kind.isCancelable = false)
    (op : Operation ℓ) :
    x.dispatch kind op = (do
      let (report, left) ← x.dispatch kind op
      pure ({ report with canceled := false }, left)) := by
  have uncanceled := dispatchTo_of_not_isCancelable x.hear hkind op.events.policy
    (op.events.registeredFor kind) op [] []
  rw [← SqlMapper.dispatch] at uncanceled
  conv => lhs; rw [Executor.dispatch, uncanceled]
  rw [Executor.dispatch, ExceptT.lift_bind]
  simp only [bind_assoc]
  refine bind_congr fun ⟨outcome, left⟩ => ?_
  cases outcome with
  | ok report => simp only [ExceptT.lift_pure, pure_bind, Except.map]
  | error fault => simp only [ExceptT.lift_pure, pure_bind, Except.map, throw_bind]

omit [LawfulMonad m] in
/-- A statement that writes is sent like any other. -/
theorem execute_eq (statement : Statement) :
    x.execute statement = x.sendOne x.source.execute statement := by
  unfold execute sendOne
  refine bind_congr fun _ => bind_congr fun outcome => ?_
  cases outcome <;> rfl

/-- A statement that reads is sent like any other, and the answer is made into rows. -/
theorem fetch_eq (statement : Statement) :
    x.fetch statement = (do
      let told ← x.sendOne x.source.fetch statement
      pure (told.map Row.ofResult)) := by
  unfold fetch sendOne
  simp only [bind_assoc]
  refine bind_congr fun _ => bind_congr fun outcome => ?_
  cases outcome with
  | ok told => simp only [pure_bind]
  | error fault => simp only [throw_bind]

/-- What is planned for a job that goes on is its own statement. -/
theorem sendAll_statement {τ : Type} (send : Statement → m (Except DatabaseFault τ))
    (kind : StatementKind) (op : Operation ℓ) :
    x.sendAll send [x.dialect.prepare kind op.query] = (do
      let statement ← x.prepare kind op
      let told ← x.sendOne send statement
      pure [told]) := by
  unfold prepare
  cases x.dialect.prepare kind op.query with
  | error fault => simp only [sendAll, throw_bind]
  | ok statement => simp only [sendAll, pure_bind]

/-- Running substitutes counts the rows that sending them one by one writes. -/
theorem runSubstitutes_eq (substitutes : List (Substitute ℓ)) (affected : UInt64) :
    x.runSubstitutes substitutes affected = (do
      let told ← x.sendAll x.source.execute
        (substitutes.map (fun s => x.dialect.prepare s.kind s.operation.query))
      return told.foldl (fun affected completion => affected + completion.affected) affected) := by
  induction substitutes generalizing affected with
  | nil => rw [runSubstitutes, List.map_nil, sendAll, pure_bind]; rfl
  | cons substitute rest ih =>
    rw [runSubstitutes, List.map_cons, prepare]
    cases x.dialect.prepare substitute.kind substitute.operation.query with
    | error fault => simp only [sendAll, throw_bind]
    | ok statement =>
      simp only [pure_bind, sendAll, ih, bind_assoc, List.foldl_cons, execute_eq]

/-- A writing statement with its two moments. -/
theorem runWrite_eq (before after : EventKind) (kind : StatementKind) (op : Operation ℓ) :
    x.runWrite before after kind op = (do
      let (report, left) ← x.dispatch before op
      let told ← x.sendAll x.source.execute (x.dialect.plan kind report left)
      let _ ← x.dispatch after left
      return rowsWritten told) := by
  rw [runWrite]
  refine bind_congr fun ⟨report, left⟩ => ?_
  cases hreport : report.canceled with
  | true =>
    simp only [hreport, if_true, Dialect.plan, runSubstitutes_eq, bind_assoc, pure_bind]
    rfl
  | false =>
    simp only [hreport, Bool.false_eq_true, if_false, Dialect.plan, sendAll_statement, execute_eq,
      bind_assoc, pure_bind]
    simp only [rowsWritten, List.foldl_cons, List.foldl_nil, UInt64.zero_add]

/-- An insert with its two moments. -/
theorem insertRows_eq (kind : StatementKind) (op : Operation ℓ) (rows : List ColumnValues)
    (returnKeys : Bool) :
    x.insertRows kind op rows returnKeys =
      (match op.query.stageInsert rows with
      | .error fault => throw (.query fault)
      | .ok query => do
        let (report, left) ← x.dispatch .preCreate { op with query }
        let told ← x.sendAll x.source.execute (x.dialect.plan kind report left)
        let result ← orDie (Job.inserted returnKeys report.canceled told)
        let _ ← x.dispatch .postCreate left
        return result) := by
  unfold insertRows
  cases op.query.stageInsert rows with
  | error fault => rfl
  | ok query =>
    refine bind_congr fun ⟨report, left⟩ => ?_
    cases hreport : report.canceled with
    | true =>
      simp only [hreport, if_true, Dialect.plan, runSubstitutes_eq, bind_assoc, pure_bind,
        Job.inserted_of_canceled, orDie]
      rfl
    | false =>
      simp only [hreport, Bool.false_eq_true, if_false, Dialect.plan, sendAll_statement, execute_eq,
        bind_assoc, pure_bind, Job.inserted_singleton]

/-- A reading statement with its two moments. The moment before it cannot call it off. -/
theorem runRead_eq (kind : StatementKind) (op : Operation ℓ) :
    x.runRead kind op = (do
      let (report, left) ← x.dispatch .preSelect op
      let told ← x.sendAll x.source.fetch (x.dialect.plan kind report left)
      let _ ← x.dispatch .postSelect left
      return told.flatten.map Row.ofResult) := by
  have certain : EventKind.preSelect.isCancelable = false := rfl
  rw [runRead, x.dispatch_of_not_isCancelable certain]
  simp only [bind_assoc, pure_bind]
  refine bind_congr fun ⟨report, left⟩ => ?_
  simp only [Dialect.plan, Bool.false_eq_true, if_false, sendAll_statement, fetch_eq, bind_assoc,
    pure_bind, List.flatten_cons, List.flatten_nil, List.append_nil]

/-- The procedure for a job whose answer never fails to be made. -/
theorem conduct_of_answer {op : Operation ℓ} {job : Job} {query : Query}
    {make : List job.Told → job.Answer} (staged : job.stage op.query = .ok query)
    (answered : ∀ canceled told, job.answer canceled told = some (make told)) :
    x.conduct op job = (do
      let (report, left) ← x.dispatch job.before { op with query }
      let told ← x.sendAll (job.send x.source) (x.dialect.plan job.kind report left)
      let _ ← x.dispatch job.after left
      return make told) := by
  unfold conduct
  rw [staged]
  simp only [answered, orDie, pure_bind]

end Executor

/-- Every function of an executor is the procedure with the contributions of its job. -/
theorem Job.perform_eq_conduct (x : Executor m ℓ) (op : Operation ℓ) (job : Job) :
    job.perform x op = x.conduct op job := by
  cases job with
  | select =>
    rw [x.conduct_of_answer rfl fun _ _ => rfl]
    exact x.runRead_eq .select op
  | existence =>
    rw [x.conduct_of_answer rfl fun _ _ => rfl]
    show x.runExists op = _
    rw [Executor.runExists, x.runRead_eq]
    simp only [bind_assoc, pure_bind]
    rfl
  | update values =>
    show x.runUpdate op values = _
    unfold Executor.runUpdate
    by_cases unassigned : (op.query.stageUpdate values).assignments.isEmpty = true
    · simp only [Executor.conduct, stage, Operation.mapQuery, unassigned, if_true]
      rfl
    · have staged : (update values).stage op.query = .ok (op.query.stageUpdate values) :=
        if_neg unassigned
      rw [x.conduct_of_answer staged fun _ _ => rfl]
      exact (if_neg unassigned).trans (x.runWrite_eq _ _ _ _)
  | delete =>
    rw [x.conduct_of_answer rfl fun _ _ => rfl]
    exact x.runWrite_eq .preDelete .postDelete .delete op
  | insert row returnKey => exact x.insertRows_eq .insert op [row] returnKey
  | insertMany rows returnKeys => exact x.insertRows_eq .insertMany op rows returnKeys

end Conducting

end SqlMapper
