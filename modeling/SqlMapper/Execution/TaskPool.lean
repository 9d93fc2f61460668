import SqlMapper.Execution.Executor

/-!
# Tasks

A caller that cannot wait gives its work to a pool of workers and blocks until it is done. A task
that dies is a fault of the caller's, and nothing more: the pool goes on. All workers of a pool have
the same name.
-/

namespace SqlMapper

/-- The end of a task that dies instead of giving a result. -/
structure Panic where
deriving DecidableEq, Inhabited

/-- The effects of a task: those of the monad, and dying. -/
abbrev TaskM (m : Type → Type) := ExceptT Panic m

/-- A worker of a pool. -/
structure Worker where
  /-- The name of the worker. -/
  name : String
deriving DecidableEq, Inhabited

/-- A pool of workers. -/
structure TaskPool where
  /-- The number of workers, at least one. -/
  workers : Nat
  /-- The name of the workers. -/
  threadName : String
  workers_pos : 0 < workers

namespace TaskPool

/-- A pool of so many workers; for none it has one. -/
def ofSize (workers : Nat) (threadName : String) : TaskPool where
  workers := max workers 1
  threadName := threadName
  workers_pos := by omega

variable {m : Type → Type} [Monad m] {α : Type}

/-- Gives a task to a worker and waits for its result. -/
def submit (pool : TaskPool) (task : Worker → ExceptT MappingFault (TaskM m) α) :
    ExceptT MappingFault m α :=
  ExceptT.mk do
    match ← ((task ⟨pool.threadName⟩).run).run with
    | .ok result => return result
    | .error _ => return .error .lostTask

end TaskPool

/-- An executor for callers that block: every operation is a task of a pool. -/
structure BlockingExecutor (m : Type → Type) (ℓ : Type) where
  /-- The executor that the tasks use. -/
  executor : Executor (TaskM m) ℓ
  /-- The pool. -/
  pool : TaskPool

namespace BlockingExecutor

variable {m : Type → Type} [Monad m] {ℓ : Type} {α : Type}

/-- Runs an operation of the executor as a task. -/
def run (b : BlockingExecutor m ℓ)
    (operation : Executor (TaskM m) ℓ → ExceptT MappingFault (TaskM m) α) :
    ExceptT MappingFault m α :=
  b.pool.submit (fun _ => operation b.executor)

end BlockingExecutor

end SqlMapper
