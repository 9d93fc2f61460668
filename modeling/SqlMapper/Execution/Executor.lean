import SqlMapper.Dialect.Statement
import SqlMapper.Execution.Row
import SqlMapper.Lifecycle.Dispatch

/-!
# Running operations

Every operation runs in the same order. Values to be written are staged, which can be refused. The
listeners of the moment before are called, with no connection held. If none of them called the
statement off, it is compiled from the operation as they left it, one connection is acquired, and
the statement is sent. If one did, the substitutes are compiled and sent one by one instead. At last
the listeners of the moment after are called.

The database, the listeners and the notice of each statement act in a monad that is a parameter, so
that what an executor does can be studied for all of them.
-/

namespace SqlMapper

/-- What a database tells of a statement that writes. -/
structure Completion where
  /-- The number of rows written. -/
  affected : UInt64
  /-- The identifier of the row inserted last. -/
  lastRowId : Int64
deriving DecidableEq, Inhabited

/-- A database as an executor uses it. -/
structure ConnectionSource (m : Type → Type) where
  /-- Asks for a connection. -/
  acquire : m (Except DatabaseFault Unit)
  /-- Sends a statement over the connection and gives the columns of each row of the result. -/
  fetch : Statement → m (Except DatabaseFault (List (List (String × Value))))
  /-- Sends a statement over the connection and gives what it wrote. -/
  execute : Statement → m (Except DatabaseFault Completion)

/-- Compiles operations and runs them. -/
structure Executor (m : Type → Type) (ℓ : Type) where
  /-- The dialect that statements are compiled to. -/
  dialect : Dialect
  /-- The database. -/
  source : ConnectionSource m
  /-- How listeners are called. -/
  hear : Hearing m ℓ
  /-- Told of each statement before a connection is asked for. -/
  notice : Statement → m Unit

/-- What came of an insert. -/
structure InsertResult where
  /-- The number of rows inserted. -/
  affected : UInt64
  /-- The generated keys, in the order of the rows; none unless they were asked for. -/
  generated : List Int64
deriving DecidableEq, Inhabited

/-- The first generated key. -/
def InsertResult.generatedKey? (result : InsertResult) : Option Int64 :=
  result.generated.head?

/-- The integers from one to another, both included. -/
def keyRange (first last : Int64) : List Int64 :=
  (List.range (last.toInt - first.toInt + 1).toNat).map (fun step => first + Int64.ofNat step)

/-- The signed 64-bit integer that a number is, if it is one. -/
def signed64? (n : Int) : Option Int64 :=
  if Int64.minValue.toInt ≤ n ∧ n ≤ Int64.maxValue.toInt then some (Int64.ofInt n) else none

/-- The keys of the rows of one insert, which are consecutive and end with the last one. The first
one is found in two steps, by taking the number of rows from the last key and adding one, and there
are no keys to tell of (`none`) if a step leaves the signed 64-bit integers. A number of rows that
is no such integer counts as no rows. -/
def generatedKeys (lastRowId : Int64) (rows : UInt64) : Option (List Int64) :=
  let count : Int64 := (signed64? rows.toNat).getD 0
  if count = 0 then some []
  else do
    let before ← signed64? (lastRowId.toInt - count.toInt)
    let first ← signed64? (before.toInt + 1)
    return keyRange first lastRowId

/-- What came of an insert, from what the database tells of it. The keys are found only if they are
asked for. -/
def InsertResult.ofCompletion? (returnKeys : Bool) (completion : Completion) :
    Option InsertResult := do
  let generated ←
    if returnKeys then generatedKeys completion.lastRowId completion.affected else some []
  return { affected := completion.affected, generated }

namespace Executor

variable {m : Type → Type} [Monad m] {ℓ : Type}

/-- Calls the listeners of a moment. -/
def dispatch (x : Executor m ℓ) (kind : EventKind) (op : Operation ℓ) :
    ExceptT MappingFault m (Report ℓ × Operation ℓ) := do
  let (outcome, op) ← ExceptT.lift (SqlMapper.dispatch x.hear kind op)
  match outcome with
  | .ok report => return (report, op)
  | .error fault => throw (.query fault)

/-- Compiles an operation. -/
def prepare (x : Executor m ℓ) (kind : StatementKind) (op : Operation ℓ) :
    ExceptT MappingFault m Statement :=
  match x.dialect.prepare kind op.query with
  | .ok statement => pure statement
  | .error fault => throw (.query fault)

/-- Acquires a connection for a statement. -/
def connect (x : Executor m ℓ) (statement : Statement) : ExceptT MappingFault m Unit := do
  x.notice statement
  match ← x.source.acquire with
  | .ok () => return ()
  | .error fault => throw (.database fault)

/-- Runs a statement that reads. -/
def fetch (x : Executor m ℓ) (statement : Statement) : ExceptT MappingFault m (List Row) := do
  x.connect statement
  match ← x.source.fetch statement with
  | .ok rows => return rows.map Row.ofResult
  | .error fault => throw (.database fault)

/-- Runs a statement that writes. -/
def execute (x : Executor m ℓ) (statement : Statement) : ExceptT MappingFault m Completion := do
  x.connect statement
  match ← x.source.execute statement with
  | .ok completion => return completion
  | .error fault => throw (.database fault)

/-- The value of arithmetic that stays in its integers. A run dies with arithmetic that leaves
them, and the task that ran it is lost. -/
def orDie {α : Type} : Option α → ExceptT MappingFault m α
  | some value => pure value
  | none => throw .lostTask

/-- Runs substitutes one by one, each compiled just before it is sent, and counts the rows written.
No run writes so many that the count goes around. -/
def runSubstitutes (x : Executor m ℓ) :
    List (Substitute ℓ) → UInt64 → ExceptT MappingFault m UInt64
  | [], affected => return affected
  | substitute :: rest, affected => do
    let statement ← x.prepare substitute.kind substitute.operation
    let completion ← x.execute statement
    x.runSubstitutes rest (affected + completion.affected)

/-- Runs a reading statement between its two moments. -/
def runRead (x : Executor m ℓ) (kind : StatementKind) (op : Operation ℓ) :
    ExceptT MappingFault m (List Row) := do
  let (_, op) ← x.dispatch .preSelect op
  let statement ← x.prepare kind op
  let rows ← x.fetch statement
  let _ ← x.dispatch .postSelect op
  return rows

/-- The rows of a query. -/
def runSelect (x : Executor m ℓ) (op : Operation ℓ) : ExceptT MappingFault m (List Row) :=
  x.runRead .select op

/-- Whether a query has rows: the first value of the first row, read as a truth value. -/
def runExists (x : Executor m ℓ) (op : Operation ℓ) : ExceptT MappingFault m Bool := do
  let rows ← x.runRead .existence op
  let answer := rows.head?.bind (fun row => row.first?.bind FromValue.readBool)
  return answer.getD false

/-- Runs a writing statement between its two moments, or its substitutes, and counts the rows
written. -/
def runWrite (x : Executor m ℓ) (before after : EventKind) (kind : StatementKind)
    (op : Operation ℓ) : ExceptT MappingFault m UInt64 := do
  let (report, op) ← x.dispatch before op
  let affected ←
    if report.canceled then x.runSubstitutes report.substitutes 0
    else do
      let statement ← x.prepare kind op
      let completion ← x.execute statement
      pure completion.affected
  let _ ← x.dispatch after op
  return affected

/-- Assigns values in the rows of a query, and counts the rows. An update that assigns nothing is
refused before any listener is called. -/
def runUpdate (x : Executor m ℓ) (op : Operation ℓ) (values : ColumnValues) :
    ExceptT MappingFault m UInt64 :=
  let op := op.mapQuery (fun q => q.stageUpdate values)
  if op.query.assignments.isEmpty then throw (.query .emptyAssignment)
  else x.runWrite .preUpdate .postUpdate .update op

/-- Deletes the rows of a query, and counts them. -/
def runDelete (x : Executor m ℓ) (op : Operation ℓ) : ExceptT MappingFault m UInt64 :=
  x.runWrite .preDelete .postDelete .delete op

/-- Inserts rows with one statement. Rows are staged before any listener is called, and keys
are found before the listeners of the moment after are. -/
def insertRows (x : Executor m ℓ) (kind : StatementKind) (op : Operation ℓ)
    (rows : List ColumnValues) (returnKeys : Bool) : ExceptT MappingFault m InsertResult := do
  match op.query.stageInsert rows with
  | .error fault => throw (.query fault)
  | .ok query => do
    let (report, op) ← x.dispatch .preCreate { op with query }
    let result ←
      if report.canceled then do
        let affected ← x.runSubstitutes report.substitutes 0
        pure { affected, generated := [] }
      else do
        let statement ← x.prepare kind op
        let completion ← x.execute statement
        orDie (InsertResult.ofCompletion? returnKeys completion)
    let _ ← x.dispatch .postCreate op
    return result

/-- Inserts one row. -/
def runInsert (x : Executor m ℓ) (op : Operation ℓ) (row : ColumnValues) (returnKey : Bool) :
    ExceptT MappingFault m InsertResult :=
  x.insertRows .insert op [row] returnKey

/-- Inserts rows. -/
def runInsertMany (x : Executor m ℓ) (op : Operation ℓ) (rows : List ColumnValues)
    (returnKeys : Bool) : ExceptT MappingFault m InsertResult :=
  x.insertRows .insertMany op rows returnKeys

/-- A statement whose text is the caller's. -/
def rawStatement (sql : String) (bindings : List Value) : Statement :=
  { kind := none, sql, bindings }

/-- The rows of a caller's text. No listener is called. -/
def raw (x : Executor m ℓ) (sql : String) (bindings : List Value) :
    ExceptT MappingFault m (List Row) :=
  x.fetch (rawStatement sql bindings)

/-- Runs a caller's text and counts the rows written. No listener is called. -/
def rawExecute (x : Executor m ℓ) (sql : String) (bindings : List Value) :
    ExceptT MappingFault m UInt64 := do
  let completion ← x.execute (rawStatement sql bindings)
  return completion.affected

/-- The first row of a caller's text. -/
def firstRow (x : Executor m ℓ) (sql : String) (bindings : List Value) :
    ExceptT MappingFault m (Option Row) := do
  let rows ← x.raw sql bindings
  return rows.head?

/-- The value of the first column of the first row of a caller's text. -/
def firstColumn (x : Executor m ℓ) (sql : String) (bindings : List Value) :
    ExceptT MappingFault m (Option Value) := do
  let row ← x.firstRow sql bindings
  return row.bind Row.first?

/-- The values of the first column of a caller's text, without the rows that have no column. -/
def firstColumnValues (x : Executor m ℓ) (sql : String) (bindings : List Value) :
    ExceptT MappingFault m (List Value) := do
  let rows ← x.raw sql bindings
  return rows.filterMap Row.first?

/-- A one-line description. -/
def description (x : Executor m ℓ) : String :=
  "Executor \x7b grammar: " ++ Text.quoted x.dialect.name ++ ", .. \x7d"

end Executor

end SqlMapper
