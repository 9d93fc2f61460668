import SqlMapper.Dialect.Basic
import SqlMapper.Settings.Document

/-!
# Settings

The settings of an executor name its dialect and the size and name of its pool of workers. Every
setting has a default, so a document may leave out any of them. A document is an object with the
settings by name, or a list of the first of them in order. Names that are not settings are passed
over; a setting named twice is refused.
-/

namespace SqlMapper

/-- The dialects that settings can name. -/
inductive DialectName where
  /-- The dialect of MySQL. -/
  | mysql
  /-- The dialect of SQLite. -/
  | sqlite
deriving DecidableEq, Inhabited

/-- The dialect that a name stands for. -/
def DialectName.dialect : DialectName → Dialect
  | .mysql => Dialect.mysql
  | .sqlite => Dialect.sqlite

/-- The settings of an executor and of its pool. -/
structure Settings where
  /-- The number of workers. -/
  workerThreads : Nat := 5
  /-- The name of the workers. -/
  threadName : String := "spork-query"
  /-- The dialect. -/
  dialect : DialectName := .mysql
deriving DecidableEq, Inhabited

namespace Settings

/-- A number of workers: digits only, below `2 ^ 64`. -/
def readCount : Document → Option Nat
  | .number literal =>
    if literal.all Char.isDigit then
      let count := literal.foldl (fun value digit => value * 10 + (digit.toNat - 48)) 0
      if count < Nat.pow 2 64 then some count else none
    else none
  | _ => none

/-- The name of the workers. -/
def readName : Document → Option String
  | .text s => s
  | _ => none

/-- The dialect of a name. -/
def dialectNamed (name : String) : Option DialectName :=
  if name = "mysql" then some .mysql
  else if name = "sqlite" then some .sqlite
  else none

/-- A dialect: its name, or an object with its name as the only field and null for its value. -/
def readDialect : Document → Option DialectName
  | .text s => s.bind dialectNamed
  | .object [(some name, .null)] => dialectNamed name
  | _ => none

/-- What a document has said so far. -/
structure Draft where
  /-- The number of workers. -/
  workerThreads : Option Nat := none
  /-- The name of the workers. -/
  threadName : Option String := none
  /-- The dialect. -/
  dialect : Option DialectName := none

/-- The settings of a draft, with defaults for what it leaves out. -/
def Draft.settings (d : Draft) : Settings :=
  let defaults : Settings := {}
  { workerThreads := d.workerThreads.getD defaults.workerThreads
    threadName := d.threadName.getD defaults.threadName
    dialect := d.dialect.getD defaults.dialect }

/-- Sets a setting that is not set yet. -/
def setOnce {α : Type} (present : Option α) (read : Option α) : Option (Option α) :=
  match present, read with
  | none, some a => some (some a)
  | _, _ => none

/-- Takes one field of an object. -/
def takeField (d : Draft) (field : Option String × Document) : Option Draft := do
  let name ← field.1
  if name = "worker_threads" then
    return { d with workerThreads := ← setOnce d.workerThreads (readCount field.2) }
  else if name = "thread_name" then
    return { d with threadName := ← setOnce d.threadName (readName field.2) }
  else if name = "dialect" then
    return { d with dialect := ← setOnce d.dialect (readDialect field.2) }
  else return d

/-- The settings of a list: a number of workers, a name, a dialect, or the first of these. -/
def ofList : List Document → Option Settings
  | [] => some {}
  | [count] => do
    return { workerThreads := ← readCount count }
  | [count, name] => do
    return { workerThreads := ← readCount count, threadName := ← readName name }
  | [count, name, dialect] => do
    return {
      workerThreads := ← readCount count
      threadName := ← readName name
      dialect := ← readDialect dialect }
  | _ => none

/-- The settings that a document gives. -/
def ofDocument : Document → Option Settings
  | .object fields => (fields.foldlM takeField {}).map Draft.settings
  | .list items => ofList items
  | _ => none

/-- The settings that a text gives. -/
def ofText? (s : String) : Option Settings :=
  (Document.ofText? s).bind ofDocument

end Settings

end SqlMapper
