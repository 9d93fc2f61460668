import SqlMapper.Data.Binary64
import SqlMapper.Data.Instant

/-!
# Values bound to a statement

A value never becomes part of a statement's text; it travels beside the text and fills a
placeholder. Values have two equalities. Equality of the type is equality of representation, the
one proofs use. `Value.equals` is the comparison the library itself makes, for instance to find
out which columns of a record changed: it compares floats as numbers.
-/

namespace SqlMapper

/-- A value that can be bound to a placeholder or read from a row. -/
inductive Value where
  /-- The absent value. -/
  | null
  /-- A truth value. -/
  | bool (b : Bool)
  /-- A signed 64-bit integer. -/
  | int (n : Int64)
  /-- A floating point number. -/
  | float (x : Binary64)
  /-- A text. -/
  | text (s : String)
  /-- A string of bytes. -/
  | blob (bytes : List UInt8)
  /-- An instant in UTC. -/
  | timestamp (t : Instant)
deriving DecidableEq, Inhabited

namespace Value

/-- Holds of the absent value only. -/
def isNull : Value → Bool
  | .null => true
  | _ => false

/-- The short name of a value's type, as error messages give it. -/
def typeName : Value → String
  | .null => "null"
  | .bool _ => "bool"
  | .int _ => "int"
  | .float _ => "float"
  | .text _ => "text"
  | .blob _ => "blob"
  | .timestamp _ => "timestamp"

/-- The comparison of values: the same type and equal contents, floats compared as numbers. -/
def equals : Value → Value → Bool
  | .float x, .float y => x.equals y
  | a, b => decide (a = b)

@[simp] theorem isNull_iff {v : Value} : v.isNull = true ↔ v = .null := by
  cases v <;> simp [isNull]

/-- Equal values that are no floats are the same value. -/
theorem eq_of_equals {a b : Value} (h : a.equals b = true) (hf : ∀ x, a ≠ .float x) : a = b := by
  cases a <;> cases b <;> simp_all [equals]

/-- Comparison is symmetric. -/
theorem equals_comm (a b : Value) : a.equals b = b.equals a := by
  cases a <;> cases b <;> simp [equals, Binary64.equals, eq_comm, Bool.and_comm, BEq.comm]

end Value

end SqlMapper
