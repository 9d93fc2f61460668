import SqlMapper.Lifecycle.Operation

/-!
# Dispatch

Dispatching a moment calls the listeners that are registered for it when the dispatch begins, one
after another, each on the operation as the one before left it. What listeners do to the bus shows
only in later dispatches. The first listener that calls the statement off ends the dispatch; at a
moment when that is not allowed it is a fault. A failing listener is put on record, and under the
policy in force when the dispatch began the listeners after it are called or not. Substitutes count
only if the statement was called off.

Listeners act in a monad, so that they may read a clock or keep a log; the dispatch itself has no
effect of its own.
-/

namespace SqlMapper

/-- The failure of a listener. -/
structure HookError where
  /-- What the listener reports. -/
  message : String
deriving DecidableEq, Inhabited

/-- What a listener wants to happen next. -/
inductive Verdict where
  /-- The next listener is called. -/
  | proceed
  /-- The statement is called off. -/
  | cancel
  /-- The listener failed. -/
  | fail (error : HookError)
deriving DecidableEq, Inhabited

/-- What a listener did. -/
structure Response (ℓ : Type) where
  /-- The operation as the listener leaves it. -/
  operation : Operation ℓ
  /-- The statements it asks for if the dispatch ends with the statement called off, in order. -/
  requests : List (StatementKind × Operation ℓ) := []
  /-- What it wants to happen next. -/
  verdict : Verdict := .proceed
deriving Inhabited

/-- How listeners are called. -/
abbrev Hearing (m : Type → Type) (ℓ : Type) := ℓ → LifecycleEvent ℓ → m (Response ℓ)

/-- The failure of one of the listeners. -/
structure HookFailure where
  /-- The listener. -/
  listener : ListenerId
  /-- What it reported. -/
  error : HookError
deriving DecidableEq, Inhabited

/-- What came of a dispatch. -/
structure Report (ℓ : Type) where
  /-- Whether the statement was called off. -/
  canceled : Bool := false
  /-- The statements to run in its stead, in order. -/
  substitutes : List (Substitute ℓ) := []
  /-- The failures, in order. -/
  failures : List HookFailure := []
deriving Inhabited

variable {m : Type → Type} [Monad m] {ℓ : Type}

/-- Calls listeners one after another, given what was asked for and what failed so far. -/
def dispatchTo (hear : Hearing m ℓ) (kind : EventKind) (policy : ErrorPolicy) :
    List (Registration ℓ) → Operation ℓ → List (Substitute ℓ) → List HookFailure →
      m (Except QueryFault (Report ℓ) × Operation ℓ)
  | [], op, _, failures => pure (.ok { failures }, op)
  | r :: rest, op, queued, failures => do
    let response ← hear r.listener { kind, operation := op, substitutes := queued }
    let queued := queued ++ response.requests.map (fun request => .of request.1 request.2)
    match response.verdict with
    | .proceed => dispatchTo hear kind policy rest response.operation queued failures
    | .cancel =>
      if kind.isCancelable then
        pure (.ok { canceled := true, substitutes := queued, failures }, response.operation)
      else pure (.error (.notCancelable kind), response.operation)
    | .fail error =>
      let failures := failures ++ [{ listener := r.id, error }]
      match policy with
      | .isolate => dispatchTo hear kind policy rest response.operation queued failures
      | .shortCircuit => pure (.ok { failures }, response.operation)

/-- Dispatches a moment on an operation. The operation is given back as the listeners left it, also
after a fault. -/
def dispatch (hear : Hearing m ℓ) (kind : EventKind) (op : Operation ℓ) :
    m (Except QueryFault (Report ℓ) × Operation ℓ) :=
  dispatchTo hear kind op.events.policy (op.events.registeredFor kind) op [] []

end SqlMapper
