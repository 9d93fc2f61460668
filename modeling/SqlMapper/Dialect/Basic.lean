import SqlMapper.Dialect.Identifier
import SqlMapper.Statement.Query

/-!
# Dialects

A dialect of SQL has a name, a quote character for identifiers and a text for placeholders. All
else about a statement is the same in every dialect.
-/

namespace SqlMapper

/-- A dialect of SQL. -/
structure Dialect where
  /-- The name of the dialect. -/
  name : String
  /-- The character around identifiers. -/
  quote : Char := '\x60'
  /-- The text that stands where a bound value goes. -/
  placeholder : String := "?"
deriving DecidableEq, Inhabited

namespace Dialect

/-- The dialect of MySQL, with backticks around identifiers. -/
def mysql : Dialect := { name := "MySQL" }

/-- The dialect of SQLite, with double quotes around identifiers. -/
def sqlite : Dialect := { name := "SQLite", quote := '\x22' }

/-- A text between quote characters. -/
def quoted (d : Dialect) (segment : String) : String :=
  String.ofList (Identifier.enclose d.quote segment.toList)

/-- A name as it stands in a statement. -/
def wrap (d : Dialect) (name : String) : String :=
  String.ofList (Identifier.wrap d.quote name.toList)

/-- So many placeholders, separated by commas. -/
def placeholders (d : Dialect) (count : Nat) : String :=
  ", ".intercalate (List.replicate count d.placeholder)

/-- Names as they stand in a statement, separated by commas. -/
def wrapAll (d : Dialect) (names : List String) : String :=
  ", ".intercalate (names.map d.wrap)

end Dialect

end SqlMapper
