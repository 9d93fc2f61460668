import SqlMapper.Dialect.Statement
import SqlMapper.Lifecycle.Operation
import SqlMapper.Proofs.Listeners.Registry
import SqlMapper.Proofs.Query.Staging

/-!
# The parts of an operation

Every call of building touches one part of an operation: the table, the columns, one of the clause
lists with its section of bound values, what is staged for one kind of writing, the listeners and so
on (`BuilderPart`). A call changes nothing outside its part, and what it makes of its part depends
on that part alone; whether it succeeds depends on the call alone (`BuilderCall.confined`). So the
part of a built operation is what the calls on that part make of it by themselves, whatever other
calls stand between them (`Operation.buildAll_only`), and sequences that agree part by part build
the same operation, which is then compiled and bound in the same way
(`Operation.compile_interleaved`).
-/

namespace SqlMapper

/-- The parts of an operation that calls of building touch. -/
inductive BuilderPart where
  /-- The table. -/
  | table
  /-- The selected columns. -/
  | columns
  /-- Whether equal rows are returned once. -/
  | distinct
  /-- The conditions on rows, with their values. -/
  | wheres
  /-- The joins. -/
  | joins
  /-- The columns to group by. -/
  | groups
  /-- The conditions on groups, with their values. -/
  | havings
  /-- The columns to sort by. -/
  | orders
  /-- The largest number of rows. -/
  | limit
  /-- The number of rows to skip. -/
  | offset
  /-- What is staged for an update. -/
  | updates
  /-- What is staged for an insert. -/
  | inserts
  /-- The listeners. -/
  | listeners
deriving DecidableEq, Inhabited

/-- A call of building: a step on the query, or a call on the bus of the operation. -/
inductive BuilderCall (ℓ : Type) where
  /-- A step on the query. -/
  | step (refinement : Refinement)
  /-- A call on the bus. -/
  | onBus (call : BusCall ℓ)

/-- The part that a step of building touches. -/
def Refinement.part : Refinement → BuilderPart
  | .table _ => .table
  | .select _ => .columns
  | .distinct => .distinct
  | .where_ _ _ => .wheres
  | .whereText _ _ _ _ => .wheres
  | .join _ _ _ _ _ => .joins
  | .groupBy _ => .groups
  | .having _ _ => .havings
  | .havingText _ _ _ _ => .havings
  | .orderBy _ _ => .orders
  | .orderByText _ _ => .orders
  | .limit _ => .limit
  | .offset _ => .offset
  | .stageUpdate _ => .updates
  | .stageInsert _ => .inserts

namespace BuilderPart

variable {ℓ : Type}

/-- An operation that takes one part from another operation. -/
def put (source target : Operation ℓ) : BuilderPart → Operation ℓ
  | .table => { target with query.table := source.query.table }
  | .columns => { target with query.columns := source.query.columns }
  | .distinct => { target with query.distinct := source.query.distinct }
  | .wheres => { target with
      query.wheres := source.query.wheres
      query.bindings.wheres := source.query.bindings.wheres }
  | .joins => { target with query.joins := source.query.joins }
  | .groups => { target with query.groups := source.query.groups }
  | .havings => { target with
      query.havings := source.query.havings
      query.bindings.havings := source.query.bindings.havings }
  | .orders => { target with query.orders := source.query.orders }
  | .limit => { target with query.limit := source.query.limit }
  | .offset => { target with query.offset := source.query.offset }
  | .updates => { target with
      query.assignments := source.query.assignments
      query.bindings.updates := source.query.bindings.updates }
  | .inserts => { target with
      query.insertColumns := source.query.insertColumns
      query.insertRows := source.query.insertRows
      query.bindings.inserts := source.query.bindings.inserts }
  | .listeners => { target with events := source.events }

/-- An operation with one part of another one and nothing else. -/
def only (op : Operation ℓ) (part : BuilderPart) : Operation ℓ :=
  part.put op {}

/-- Taking one part leaves the others as they were. -/
theorem only_put_of_ne {part other : BuilderPart} (h : other ≠ part) (source target : Operation ℓ) :
    other.only (part.put source target) = other.only target := by
  cases part <;> cases other <;> first | rfl | exact absurd rfl h

/-- An operation is known by its parts. -/
theorem eq_of_only {op op' : Operation ℓ} (h : ∀ part : BuilderPart, part.only op = part.only op') :
    op = op' := by
  obtain ⟨⟨table, columns, distinct, wheres, joins, groups, havings, orders, limit, offset,
    assignments, insertColumns, insertRows, ⟨inserts, updates, rows, grouped⟩⟩, events⟩ := op
  obtain ⟨⟨table', columns', distinct', wheres', joins', groups', havings', orders', limit',
    offset', assignments', insertColumns', insertRows',
    ⟨inserts', updates', rows', grouped'⟩⟩, events'⟩ := op'
  obtain rfl : table = table' := congrArg (fun op => op.query.table) (h .table)
  obtain rfl : columns = columns' := congrArg (fun op => op.query.columns) (h .columns)
  obtain rfl : distinct = distinct' := congrArg (fun op => op.query.distinct) (h .distinct)
  obtain rfl : wheres = wheres' := congrArg (fun op => op.query.wheres) (h .wheres)
  obtain rfl : rows = rows' := congrArg (fun op => op.query.bindings.wheres) (h .wheres)
  obtain rfl : joins = joins' := congrArg (fun op => op.query.joins) (h .joins)
  obtain rfl : groups = groups' := congrArg (fun op => op.query.groups) (h .groups)
  obtain rfl : havings = havings' := congrArg (fun op => op.query.havings) (h .havings)
  obtain rfl : grouped = grouped' := congrArg (fun op => op.query.bindings.havings) (h .havings)
  obtain rfl : orders = orders' := congrArg (fun op => op.query.orders) (h .orders)
  obtain rfl : limit = limit' := congrArg (fun op => op.query.limit) (h .limit)
  obtain rfl : offset = offset' := congrArg (fun op => op.query.offset) (h .offset)
  obtain rfl : assignments = assignments' := congrArg (fun op => op.query.assignments) (h .updates)
  obtain rfl : updates = updates' := congrArg (fun op => op.query.bindings.updates) (h .updates)
  obtain rfl : insertColumns = insertColumns' :=
    congrArg (fun op => op.query.insertColumns) (h .inserts)
  obtain rfl : insertRows = insertRows' := congrArg (fun op => op.query.insertRows) (h .inserts)
  obtain rfl : inserts = inserts' := congrArg (fun op => op.query.bindings.inserts) (h .inserts)
  obtain rfl : events = events' := congrArg (fun op => op.events) (h .listeners)
  rfl

/-- A change of operations that touches one part only and makes of it what it makes of it alone. -/
structure Confines (part : BuilderPart) (change : Operation ℓ → Operation ℓ) : Prop where
  frame : ∀ op, change op = part.put (change op) op
  alone : ∀ op, change (part.only op) = part.only (change op)

end BuilderPart

/-- A step that succeeds on one query succeeds on every query, and changes one part of it. -/
theorem Refinement.confined {q next : Query} {step : Refinement} (h : q.refine step = .ok next) :
    ∃ change : Query → Query, (∀ q : Query, q.refine step = .ok (change q)) ∧
      ∀ ℓ, step.part.Confines fun op : Operation ℓ => op.mapQuery change := by
  cases step with
  | whereText connector column operator value =>
    cases hop : Operator.ofText operator with
    | error fault => simp [Query.refine, hop, bind, Except.bind] at h
    | ok op =>
      refine ⟨fun q => q.addWhere connector (.comparison column op value), fun q => ?_,
        fun ℓ => ⟨fun _ => rfl, fun _ => rfl⟩⟩
      simp [Query.refine, hop]
  | havingText connector column operator value =>
    cases hop : Operator.ofText operator with
    | error fault => simp [Query.refine, hop, bind, Except.bind] at h
    | ok op =>
      refine ⟨fun q => q.addHaving connector (.comparison column op value), fun q => ?_,
        fun ℓ => ⟨fun _ => rfl, fun _ => rfl⟩⟩
      simp [Query.refine, hop]
  | join kind table left operator right =>
    cases hop : Operator.ofText operator with
    | error fault => simp [Query.refine, hop, bind, Except.bind] at h
    | ok op =>
      refine ⟨fun q => { q with joins := q.joins ++ [⟨kind, table, left, op, right⟩] }, fun q => ?_,
        fun ℓ => ⟨fun _ => rfl, fun _ => rfl⟩⟩
      simp [Query.refine, hop]
  | orderByText column direction =>
    cases hdir : Direction.ofText direction with
    | error fault => simp [Query.refine, hdir, bind, Except.bind] at h
    | ok dir =>
      refine ⟨fun q => { q with orders := q.orders ++ [⟨column, dir⟩] }, fun q => ?_,
        fun ℓ => ⟨fun _ => rfl, fun _ => rfl⟩⟩
      simp [Query.refine, hdir]
  | stageInsert rows =>
    refine ⟨fun q => { q with
        insertColumns := columnsOfFirst rows
        insertRows := rows.length
        bindings := q.bindings.append .insert (cells rows) }, fun q => ?_,
      fun ℓ => ⟨fun _ => rfl, fun _ => rfl⟩⟩
    -- whether rows can be staged depends on the rows alone
    obtain ⟨staged, hstaged⟩ := Query.exists_stageInsert h q
    obtain ⟨-, rfl⟩ := Query.stageInsert_eq_ok hstaged
    exact hstaged
  | _ =>
    -- the other steps succeed on every query
    refine ⟨_, fun _ => rfl, fun ℓ => ?_⟩
    exact ⟨fun _ => rfl, fun _ => rfl⟩

namespace BuilderCall

variable {ℓ : Type}

/-- The part that a call touches. -/
def part : BuilderCall ℓ → BuilderPart
  | .step refinement => refinement.part
  | .onBus _ => .listeners

/-- The operation after a call. -/
def apply (op : Operation ℓ) : BuilderCall ℓ → Except QueryFault (Operation ℓ)
  | .step refinement => op.refine refinement
  | .onBus call => .ok { op with events := op.events.next call }

/-- A call that succeeds on one operation succeeds on every operation, and changes one part of
it. -/
theorem confined {op next : Operation ℓ} {call : BuilderCall ℓ} (h : call.apply op = .ok next) :
    ∃ change, (∀ op, call.apply op = .ok (change op)) ∧ call.part.Confines change := by
  cases call with
  | onBus call =>
    exact ⟨_, fun _ => rfl, ⟨fun _ => rfl, fun _ => rfl⟩⟩
  | step refinement =>
    cases hq : op.query.refine refinement with
    | error fault => simp [apply, Operation.refine, hq] at h
    | ok q =>
      obtain ⟨change, all, confines⟩ := Refinement.confined hq
      refine ⟨fun op => op.mapQuery change, fun op => ?_, confines ℓ⟩
      rw [apply, Operation.refine, all]
      rfl

end BuilderCall

namespace Operation

variable {ℓ : Type}

/-- The operation after calls of building, or the first fault. -/
def buildAll (op : Operation ℓ) (calls : List (BuilderCall ℓ)) :
    Except QueryFault (Operation ℓ) :=
  calls.foldlM BuilderCall.apply op

/-- Calls that succeed one after another: the first one, and the others after it. -/
theorem buildAll_cons_eq_ok {op last : Operation ℓ} {call : BuilderCall ℓ}
    {rest : List (BuilderCall ℓ)} :
    op.buildAll (call :: rest) = .ok last ↔
      ∃ next, call.apply op = .ok next ∧ next.buildAll rest = .ok last := by
  rw [buildAll, List.foldlM_cons]
  cases call.apply op with
  | ok next => simp [buildAll, bind, Except.bind]
  | error fault => simp [bind, Except.bind]

/-- **A part of a built operation is built by the calls on that part.** -/
theorem buildAll_only (part : BuilderPart) {op last : Operation ℓ} {calls : List (BuilderCall ℓ)}
    (h : op.buildAll calls = .ok last) :
    (part.only op).buildAll (calls.filter fun call => decide (call.part = part)) =
      .ok (part.only last) := by
  induction calls generalizing op with
  | nil =>
    cases h
    rfl
  | cons call rest ih =>
    obtain ⟨next, happly, hrest⟩ := buildAll_cons_eq_ok.1 h
    obtain ⟨change, all, confines⟩ := BuilderCall.confined happly
    obtain rfl : change op = next := Except.ok.inj ((all op).symm.trans happly)
    have others := ih hrest
    by_cases hpart : call.part = part
    · subst hpart
      rw [List.filter_cons_of_pos (by simp), buildAll_cons_eq_ok]
      exact ⟨_, all _, by rw [confines.alone]; exact others⟩
    · rw [List.filter_cons_of_neg (by simpa using hpart), ← others, confines.frame op,
        BuilderPart.only_put_of_ne (Ne.symm hpart)]

/-- Calls succeed together when each of them succeeds on some operation: success depends neither on
the order of the calls nor on the operation they start from. -/
theorem exists_buildAll {op : Operation ℓ} {calls : List (BuilderCall ℓ)} :
    (∃ last, op.buildAll calls = .ok last) ↔
      ∀ call ∈ calls, ∃ start next : Operation ℓ, call.apply start = .ok next := by
  induction calls generalizing op with
  | nil => simp [buildAll, pure, Except.pure]
  | cons call rest ih =>
    rw [List.forall_mem_cons]
    constructor
    · rintro ⟨last, h⟩
      obtain ⟨next, happly, hrest⟩ := buildAll_cons_eq_ok.1 h
      exact ⟨⟨op, next, happly⟩, ih.1 ⟨last, hrest⟩⟩
    · rintro ⟨⟨start, next, happly⟩, hrest⟩
      obtain ⟨change, all, -⟩ := BuilderCall.confined happly
      obtain ⟨last, hlast⟩ : ∃ last, (change op).buildAll rest = .ok last := ih.2 hrest
      exact ⟨last, buildAll_cons_eq_ok.2 ⟨_, all op, hlast⟩⟩

/-- Calls that are the same part by part are the same calls. -/
theorem mem_of_same {calls calls' : List (BuilderCall ℓ)}
    (same : ∀ part, calls.filter (fun call => decide (call.part = part)) =
      calls'.filter fun call => decide (call.part = part))
    {call : BuilderCall ℓ} (h : call ∈ calls') : call ∈ calls := by
  have hpart : call ∈ calls'.filter fun other => decide (other.part = call.part) :=
    List.mem_filter.2 ⟨h, decide_eq_true rfl⟩
  rw [← same] at hpart
  exact (List.mem_filter.1 hpart).1

/-- Sequences of calls that are the same part by part build the same operation. -/
theorem buildAll_interleaved {op last : Operation ℓ} {calls calls' : List (BuilderCall ℓ)}
    (same : ∀ part, calls.filter (fun call => decide (call.part = part)) =
      calls'.filter fun call => decide (call.part = part))
    (built : op.buildAll calls = .ok last) : op.buildAll calls' = .ok last := by
  have each := exists_buildAll.1 ⟨last, built⟩
  obtain ⟨last', built'⟩ : ∃ last', op.buildAll calls' = .ok last' :=
    exists_buildAll.2 fun call h => each call (mem_of_same same h)
  have parts : ∀ part : BuilderPart, part.only last' = part.only last := fun part => by
    have h := buildAll_only part built
    have h' := buildAll_only part built'
    rw [← same] at h'
    exact Except.ok.inj (h'.symm.trans h)
  rw [built', BuilderPart.eq_of_only parts]

/-- **Calls on different parts commute.** Take two sequences of calls on a fresh operation that have
the same calls for every part, in the same order within each part, and interleaved in any way. If
the first sequence succeeds then the second one does, and what they build compiles to the same
statement, with the same values bound, for every kind of statement and every dialect. -/
theorem compile_interleaved {table : String} {built : Operation ℓ}
    {calls calls' : List (BuilderCall ℓ)}
    (same : ∀ part, calls.filter (fun call => decide (call.part = part)) =
      calls'.filter fun call => decide (call.part = part))
    (succeeds : (ofTable table).buildAll calls = .ok built) :
    ∃ built', (ofTable table).buildAll calls' = .ok built' ∧ ∀ (d : Dialect) (kind : StatementKind),
      d.compile kind built'.query = d.compile kind built.query ∧
        built'.query.bindingsFor kind = built.query.bindingsFor kind :=
  ⟨built, buildAll_interleaved same succeeds, fun _ _ => ⟨rfl, rfl⟩⟩

/-- Calls with a condition on groups before those on rows, and the table named late. -/
def scatteredCalls : List (BuilderCall String) :=
  [.step (.havingText .and "total" ">" (.int 3)), .step (.limit 5),
    .step (.where_ .and (.among "id" [.int 1, .int 2] false)), .onBus (.register .preSelect "a"),
    .step (.stageUpdate (.ofList [("name", .text "x")])), .step (.table "t"),
    .step (.groupBy ["kind"]), .step (.whereText .or "age" "<=" .null)]

/-- The same calls, those on the table and on rows first. -/
def gatheredCalls : List (BuilderCall String) :=
  [.step (.table "t"), .step (.where_ .and (.among "id" [.int 1, .int 2] false)),
    .step (.whereText .or "age" "<=" .null), .step (.groupBy ["kind"]),
    .step (.havingText .and "total" ">" (.int 3)), .step (.limit 5),
    .onBus (.register .preSelect "a"), .step (.stageUpdate (.ofList [("name", .text "x")]))]

/-- Both sequences build an operation that is compiled and bound in the same way, with the values of
conditions on rows bound before that of the condition on groups. -/
theorem compile_scattered_eq_gathered :
    ∃ built built' : Operation String,
      (ofTable "").buildAll scatteredCalls = .ok built ∧
      (ofTable "").buildAll gatheredCalls = .ok built' ∧
      (∀ (d : Dialect) (kind : StatementKind),
        d.compile kind built'.query = d.compile kind built.query ∧
          built'.query.bindingsFor kind = built.query.bindingsFor kind) ∧
      built.query.bindingsFor .select = [.int 1, .int 2, .int 3] := by
  have same : ∀ part, scatteredCalls.filter (fun call => decide (call.part = part)) =
      gatheredCalls.filter fun call => decide (call.part = part) := by
    intro part
    cases part <;> rfl
  obtain ⟨built', succeeds', agree⟩ := compile_interleaved same rfl
  exact ⟨_, built', rfl, succeeds', agree, rfl⟩

end Operation

end SqlMapper
