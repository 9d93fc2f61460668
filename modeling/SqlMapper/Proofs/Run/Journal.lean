import SqlMapper.Proofs.Enhancing.BuiltIn
import SqlMapper.Proofs.Run.Ensures

/-!
# Statements on record

To say what a program sends to a database, the database is watched: a journal beside the state lists
every statement that reached it, with what it told of those that wrote. The watched store is the
given one otherwise, so what holds of the journal for every store holds of every database, clock and
caller.
-/

namespace SqlMapper

/-- A statement that reached the database. -/
structure Sent where
  /-- The statement. -/
  statement : Statement
  /-- What the database told of it, if it wrote. -/
  completion : Option Completion := none
deriving DecidableEq, Inhabited

/-- Computations that act on a state with a journal beside it. -/
abbrev Journaled (σ : Type) := StateM (List Sent × σ)

/-- A computation that does not touch the journal. -/
def aside {σ α : Type} (x : StateM σ α) : Journaled σ α :=
  modifyGet fun t => ((x.run t.2).1, (t.1, (x.run t.2).2))

/-- Puts a statement on record. -/
def record {σ : Type} (sent : Sent) : Journaled σ Unit :=
  modify fun t => (t.1 ++ [sent], t.2)

/-- A store whose database is watched. -/
def Store.recorded {σ ℓ : Type} (store : Store (StateM σ) ℓ) : Store (Journaled σ) ℓ where
  dialect := store.dialect
  source := {
    acquire := aside store.source.acquire
    fetch := fun statement => do
      record { statement := statement }
      aside (store.source.fetch statement)
    execute := fun statement => do
      let outcome ← aside (store.source.execute statement)
      record { statement := statement, completion := outcome.toOption }
      pure outcome }
  now := aside store.now
  hear := fun listener event => aside (store.hear listener event)
  notice := fun statement => aside (store.notice statement)

/-- A store whose database takes every statement, has no rows to show and gives one key, and whose
clock has stopped. No caller listens. -/
def Store.obliging (dialect : Dialect) : Store (StateM Unit) Empty where
  dialect := dialect
  source := {
    acquire := pure (.ok ())
    fetch := fun _ => pure (.ok [])
    execute := fun _ => pure (.ok { affected := 1, lastRowId := 5 }) }
  now := pure default
  hear := fun listener _ => nomatch listener
  notice := fun _ => pure ()

section Recording

variable {σ ℓ α : Type} {J : List Sent → Prop}

/-- A computation beside the journal keeps what holds of the journal. -/
theorem ensures_aside (x : StateM σ α) :
    Ensures (fun t => J t.1) (aside x) (fun _ t => J t.1) := fun _ ht => ht

variable (store : Store (StateM σ) ℓ) (statement : Statement)

/-- Asking for a connection leaves no trace on the journal. -/
theorem ensures_connect :
    Ensures (fun t => J t.1) (store.recorded.executor.connect statement).run
      (fun _ t => J t.1) := by
  refine (ensures_aside (store.notice statement)).bindLift fun _ => ?_
  refine (ensures_aside store.source.acquire).bindLift fun got => ?_
  cases got with
  | ok _ => exact Ensures.pure fun _ ht => ht
  | error fault => exact Ensures.pure fun _ ht => ht

/-- Compiling leaves no trace on the journal, and what follows may use that the operation
compiles. -/
theorem ensures_prepare {β : Type} {P : List Sent × σ → Prop}
    {R : Except MappingFault β → List Sent × σ → Prop} {kind : StatementKind}
    {op : Operation (Listener ℓ)} {f : Statement → ExceptT MappingFault (Journaled σ) β}
    (hf : ∀ statement, store.dialect.prepare kind op.query = .ok statement →
      Ensures P (f statement).run R)
    (herror : ∀ fault t, P t → R (.error fault) t) :
    Ensures P (store.recorded.executor.prepare kind op >>= f).run R := by
  have same : store.recorded.executor.dialect = store.dialect := rfl
  rw [Executor.prepare, same]
  cases hp : store.dialect.prepare kind op.query with
  | ok statement => exact hf statement hp
  | error fault => exact Ensures.pure (herror (.query fault))

/-- A statement that reads may end up on the journal. -/
theorem ensures_fetch (h : ∀ journal, J journal → J (journal ++ [{ statement := statement }])) :
    Ensures (fun t => J t.1) (store.recorded.executor.fetch statement).run (fun _ t => J t.1) := by
  refine Ensures.bindExcept (M := fun _ t => J t.1)
    ((ensures_connect store statement).mono fun result _ ht => ?_) fun _ => ?_
  · cases result <;> exact ht
  have sent : Ensures (fun t => J t.1) (store.recorded.source.fetch statement) (fun _ t => J t.1) :=
    Ensures.bind (Q := fun _ t => J t.1) (fun t ht => h t.1 ht) fun _ => ensures_aside _
  refine sent.bindLift fun got => ?_
  cases got with
  | ok rows => exact Ensures.pure fun _ ht => ht
  | error fault => exact Ensures.pure fun _ ht => ht

/-- A statement that writes ends up on the journal with what the database tells of it, unless no
connection could be acquired. -/
theorem ensures_execute {C : Completion → Prop}
    (hC : ∀ s completion,
      ((store.source.execute statement).run s).1 = .ok completion → C completion)
    {R : Except MappingFault Completion → List Sent → Prop}
    (hok : ∀ journal completion, C completion → J journal →
      R (.ok completion) (journal ++ [{ statement := statement, completion := some completion }]))
    (herror : ∀ journal fault, J journal →
      R (.error fault) (journal ++ [{ statement := statement }]))
    (hunsent : ∀ journal fault, J journal → R (.error fault) journal) :
    Ensures (fun t => J t.1) (store.recorded.executor.execute statement).run
      (fun result t => R result t.1) := by
  refine Ensures.bindExcept (M := fun _ t => J t.1)
    ((ensures_connect store statement).mono fun result t ht => ?_) fun _ => ?_
  · cases result with
    | ok _ => exact ht
    | error fault => exact hunsent t.1 fault ht
  have told : Ensures (fun t => J t.1) (aside (store.source.execute statement))
      (fun outcome t => (∀ completion, outcome = .ok completion → C completion) ∧ J t.1) :=
    fun t ht => ⟨hC t.2, ht⟩
  have sent : Ensures (fun t => J t.1) (store.recorded.source.execute statement)
      (either (fun completion t => R (.ok completion) t.1)
        (fun fault t => R (.error (.database fault)) t.1)) := by
    refine told.bind fun outcome => ?_
    cases outcome with
    | ok completion => exact fun t ht => hok t.1 completion (ht.1 completion rfl) ht.2
    | error fault => exact fun t ht => herror t.1 (.database fault) ht.2
  refine sent.bindLift fun outcome => ?_
  cases outcome with
  | ok completion => exact Ensures.pure fun _ ht => ht
  | error fault => exact Ensures.pure fun _ ht => ht

section Adjusting

variable {V : ColumnValues → Prop}
  (hset : ∀ values column value, V values → V (values.set column value)) (now : StateM σ Instant)
  (schema : Schema)
include hset

/-- Filling a column keeps what setting columns keeps. -/
theorem fill_of_set {values : ColumnValues} (h : V values) (column : String) (value : Value) :
    V (Enhancer.fill values column value) := by
  unfold Enhancer.fill
  split
  · exact hset values column value h
  · exact h

/-- When the row of an insert is adjusted, the enhancers of the library set columns and read the
clock, and leave no trace on the journal. -/
theorem ensures_adjustInsert (bs : List BuiltIn) {values : ColumnValues} (h : V values) :
    Ensures (fun t => J t.1)
      (adjustInsert schema
        (bs.map fun b => (b.enhancer (aside now) : Enhancer (Journaled σ) ℓ)) values)
      (fun next t => V next ∧ J t.1) := by
  induction bs generalizing values with
  | nil => exact Ensures.pure fun _ ht => ⟨h, ht⟩
  | cons b rest ih =>
    refine Ensures.bind (Q := fun next t => V next ∧ J t.1) ?_ fun next =>
      Ensures.of_and fun hnext => ih hnext
    cases b with
    | scope name column value =>
      exact Ensures.pure fun _ ht => ⟨fill_of_set hset h column value, ht⟩
    | timestamps =>
      simp only [BuiltIn.enhancer, Enhancer.timestamps]
      split
      · exact Ensures.pure fun _ ht => ⟨h, ht⟩
      · refine (ensures_aside now).bind fun time => Ensures.pure fun _ ht => ⟨?_, ht⟩
        exact fill_of_set hset (fill_of_set hset h _ _) _ _
    | softDeletes => exact Ensures.pure fun _ ht => ⟨h, ht⟩

/-- The same holds when the assignments of an update are adjusted. -/
theorem ensures_adjustUpdate (bs : List BuiltIn) {values : ColumnValues} (h : V values) :
    Ensures (fun t => J t.1)
      (adjustUpdate schema
        (bs.map fun b => (b.enhancer (aside now) : Enhancer (Journaled σ) ℓ)) values)
      (fun next t => V next ∧ J t.1) := by
  induction bs generalizing values with
  | nil => exact Ensures.pure fun _ ht => ⟨h, ht⟩
  | cons b rest ih =>
    refine Ensures.bind (Q := fun next t => V next ∧ J t.1) ?_ fun next =>
      Ensures.of_and fun hnext => ih hnext
    cases b with
    | scope name column value => exact Ensures.pure fun _ ht => ⟨h, ht⟩
    | timestamps =>
      simp only [BuiltIn.enhancer, Enhancer.timestamps]
      split
      · exact Ensures.pure fun _ ht => ⟨h, ht⟩
      · split
        · exact Ensures.pure fun _ ht => ⟨h, ht⟩
        · refine (ensures_aside now).bind fun time => Ensures.pure fun _ ht => ⟨?_, ht⟩
          exact hset _ _ _ h
    | softDeletes => exact Ensures.pure fun _ ht => ⟨h, ht⟩

end Adjusting

end Recording

/-- Every statement that a computation puts on the journal has a property. -/
def Sends {σ α : Type} (P : Statement → Prop) (x : Journaled σ α) : Prop :=
  Ensures (fun t => ∀ sent ∈ t.1, P sent.statement) x (fun _ t => ∀ sent ∈ t.1, P sent.statement)

namespace Sends

variable {σ ℓ α β : Type} {P : Statement → Prop}

/-- A result that is given at once sends nothing. -/
theorem pure (a : α) : Sends P (Pure.pure a : Journaled σ α) := Ensures.pure fun _ ht => ht

/-- One computation after another that did not fail. -/
theorem bind {x : ExceptT MappingFault (Journaled σ) α}
    {f : α → ExceptT MappingFault (Journaled σ) β}
    (hx : Sends P x.run) (hf : ∀ a, Sends P (f a).run) : Sends P (x >>= f).run := by
  refine Ensures.bindExcept (M := fun _ (t : List Sent × σ) => ∀ sent ∈ t.1, P sent.statement)
    (hx.mono fun result _ ht => ?_) hf
  cases result <;> exact ht

/-- A computation that sends nothing before one that may. -/
theorem bindLift {x : Journaled σ α} {f : α → ExceptT MappingFault (Journaled σ) β}
    (hx : Sends P x) (hf : ∀ a, Sends P (f a).run) : Sends P (ExceptT.lift x >>= f).run :=
  Ensures.bindLift hx hf

/-- What a computation sends does not depend on what is made of its result. -/
theorem discard {x : Journaled σ α} (hx : Sends P x) : Sends P (Functor.discard x) := hx

/-- A computation beside the journal sends nothing. -/
theorem aside (x : StateM σ α) : Sends P (SqlMapper.aside x) := fun _ ht => ht

variable (store : Store (StateM σ) ℓ)

/-- Compiling sends nothing, and what follows may use that the operation compiles. -/
theorem prepare {kind : StatementKind} {op : Operation (Listener ℓ)}
    {f : Statement → ExceptT MappingFault (Journaled σ) β}
    (hf : ∀ statement, store.dialect.prepare kind op.query = .ok statement →
      Sends P (f statement).run) :
    Sends P (store.recorded.executor.prepare kind op >>= f).run :=
  ensures_prepare store hf fun _ _ ht => ht

/-- A statement with the property may be sent to read. -/
theorem fetch {statement : Statement} (h : P statement) :
    Sends P (store.recorded.executor.fetch statement).run :=
  ensures_fetch (J := fun journal => ∀ sent ∈ journal, P sent.statement) store statement
    fun _ hj => List.forall_mem_append.2 ⟨hj, List.forall_mem_singleton.2 h⟩

/-- A statement with the property may be sent to write. -/
theorem execute {statement : Statement} (h : P statement) :
    Sends P (store.recorded.executor.execute statement).run :=
  ensures_execute (J := fun journal => ∀ sent ∈ journal, P sent.statement)
    (R := fun _ journal => ∀ sent ∈ journal, P sent.statement) store statement
    (C := fun _ => True) (fun _ _ _ => trivial)
    (fun _ _ _ hj => List.forall_mem_append.2 ⟨hj, List.forall_mem_singleton.2 h⟩)
    (fun _ _ hj => List.forall_mem_append.2 ⟨hj, List.forall_mem_singleton.2 h⟩)
    (fun _ _ hj => hj)

end Sends

end SqlMapper
