import SqlMapper.Data.Value
import SqlMapper.Data.Instant.Storage

/-!
# Values as a database keeps them

A database that knows null, integers, floats, texts and bytes keeps a truth value as an integer, an
instant as a text and a float that is no number as null. `Value.stored` is what a bound value reads
back as.
-/

namespace SqlMapper

namespace Value

/-- The value that a bound value reads back as. -/
def stored : Value → Value
  | .bool b => .int (if b then 1 else 0)
  | .float x => if x.isNaN then .null else .float x
  | .timestamp t => .text t.storedText
  | v => v

/-- Storing what was read back changes nothing more. -/
theorem stored_stored (v : Value) : v.stored.stored = v.stored := by
  cases v with
  | float x => by_cases h : x.isNaN = true <;> simp [stored, h]
  | _ => rfl

end Value

end SqlMapper
