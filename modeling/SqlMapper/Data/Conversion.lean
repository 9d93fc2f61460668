import SqlMapper.Data.Value
import SqlMapper.Data.Instant.Reading

/-!
# Typed data and values

`ToValue` says which value stands for a datum of a type, `FromValue` which values can be read as
one. Reading is more generous than writing where databases lose the type: an integer can be read as
a truth value, as a float or as an instant, a truth value as an integer, a text as bytes or as an
instant. Null is read only by optional types.
-/

namespace SqlMapper

/-- Types whose data can be bound as values. -/
class ToValue (α : Type) where
  /-- The value that stands for a datum. -/
  toValue : α → Value

/-- Types whose data can be read out of values. -/
class FromValue (α : Type) where
  /-- The name of the type in error messages. -/
  typeName : String
  /-- The datum a value is read as, if its type fits. -/
  read? : Value → Option α

export ToValue (toValue)

namespace FromValue

/-- The integer a value is read as. -/
def readInt64 : Value → Option Int64
  | .int n => some n
  | .bool b => some (if b then 1 else 0)
  | _ => none

/-- The integer a value is read as, if it lies between two bounds. -/
def readBetween (low high : Int) (v : Value) : Option Int :=
  match readInt64 v with
  | some n => if low ≤ n.toInt ∧ n.toInt ≤ high then some n.toInt else none
  | none => none

/-- The float a value is read as; an integer is rounded to the nearest one. -/
def readBinary64 : Value → Option Binary64
  | .float x => some x
  | .int n => some (Binary64.ofInt64 n)
  | _ => none

/-- The truth value a value is read as; an integer is true unless it is zero. -/
def readBool : Value → Option Bool
  | .bool b => some b
  | .int n => some (n != 0)
  | _ => none

/-- The text a value is read as. -/
def readText : Value → Option String
  | .text s => some s
  | _ => none

/-- The bytes a value is read as; a text is read as its UTF-8 bytes. -/
def readBytes : Value → Option (List UInt8)
  | .blob bytes => some bytes
  | .text s => some s.toUTF8.data.toList
  | _ => none

/-- The instant a value is read as; an integer counts seconds from the epoch. -/
def readInstant : Value → Option Instant
  | .timestamp t => some t
  | .int n => Instant.ofSeconds? n.toInt
  | .text s => Instant.ofText? s
  | _ => none

end FromValue

instance : ToValue Value := ⟨id⟩
instance : ToValue Bool := ⟨.bool⟩
instance : ToValue Int64 := ⟨.int⟩
instance : ToValue Int32 := ⟨fun n => .int n.toInt64⟩
instance : ToValue Int16 := ⟨fun n => .int n.toInt64⟩
instance : ToValue Int8 := ⟨fun n => .int n.toInt64⟩
instance : ToValue UInt32 := ⟨fun n => .int (Int64.ofNat n.toNat)⟩
instance : ToValue UInt16 := ⟨fun n => .int (Int64.ofNat n.toNat)⟩
instance : ToValue UInt8 := ⟨fun n => .int (Int64.ofNat n.toNat)⟩
instance : ToValue Binary64 := ⟨.float⟩
instance : ToValue Binary32 := ⟨fun x => .float (.ofBinary32 x)⟩
instance : ToValue String := ⟨.text⟩
instance : ToValue (List UInt8) := ⟨.blob⟩
instance : ToValue Instant := ⟨.timestamp⟩

instance {α : Type} [ToValue α] : ToValue (Option α) where
  toValue
    | some a => toValue a
    | none => .null

instance : FromValue Value := ⟨"spork_core::value::SqlValue", some⟩
instance : FromValue Int64 := ⟨"i64", FromValue.readInt64⟩
instance : FromValue Int32 :=
  ⟨"i32", fun v => (FromValue.readBetween (-2147483648) 2147483647 v).map Int32.ofInt⟩
instance : FromValue UInt32 :=
  ⟨"u32", fun v => (FromValue.readBetween 0 4294967295 v).map (fun n => UInt32.ofNat n.toNat)⟩
instance : FromValue Binary64 := ⟨"f64", FromValue.readBinary64⟩
instance : FromValue Bool := ⟨"bool", FromValue.readBool⟩
instance : FromValue String := ⟨"alloc::string::String", FromValue.readText⟩
instance : FromValue (List UInt8) := ⟨"alloc::vec::Vec<u8>", FromValue.readBytes⟩
instance : FromValue Instant :=
  ⟨"chrono::datetime::DateTime<chrono::offset::utc::Utc>", FromValue.readInstant⟩

instance {α : Type} [FromValue α] : FromValue (Option α) where
  typeName := "core::option::Option<" ++ FromValue.typeName α ++ ">"
  read?
    | .null => some none
    | v => (FromValue.read? v).map some

/-- A value read as a datum of a type and written again. -/
def Value.through (α : Type) [FromValue α] [ToValue α] (v : Value) : Option Value :=
  (FromValue.read? v : Option α).map toValue

/-- A truth value is read as an integer, a text as its bytes; null is no integer. -/
example : Value.through Int64 (.bool true) = some (.int 1) ∧
    Value.through (List UInt8) (.text "hi") = some (.blob [104, 105]) ∧
    Value.through Int64 .null = none ∧ Value.through (Option Int64) .null = some .null := by decide

end SqlMapper
