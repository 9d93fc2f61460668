import SqlMapper.Data.Conversion

/-!
# Types of fields, as data

An entity whose fields are only known when the program runs names the type of each field by a
`FieldType`. Assigning to such a field reads the value as the type and writes it again, so what the
field holds is always a value that the type itself writes. A type has a short name, by which a
description of an entity refers to it; a question mark after the name says that the field may be
absent.
-/

namespace SqlMapper

/-- The types of fields that cannot be absent. -/
inductive BaseType where
  /-- Signed integers of 64 bits. -/
  | int64
  /-- Signed integers of 32 bits. -/
  | int32
  /-- Natural numbers of 32 bits. -/
  | uint32
  /-- Floating point numbers. -/
  | float
  /-- Truth values. -/
  | bool
  /-- Texts. -/
  | text
  /-- Strings of bytes. -/
  | blob
  /-- Instants. -/
  | timestamp
  /-- Any value, null among them. -/
  | any
deriving DecidableEq, Inhabited

/-- The type of a field. -/
structure FieldType where
  /-- The type of what the field holds when it holds something. -/
  base : BaseType
  /-- Whether the field may be absent. -/
  optional : Bool := false
deriving DecidableEq, Inhabited

namespace BaseType

/-- The type of data that a base type stands for. -/
def Datum : BaseType → Type
  | .int64 => Int64
  | .int32 => Int32
  | .uint32 => UInt32
  | .float => Binary64
  | .bool => Bool
  | .text => String
  | .blob => List UInt8
  | .timestamp => Instant
  | .any => Value

instance : (b : BaseType) → FromValue b.Datum
  | .int64 => inferInstanceAs (FromValue Int64)
  | .int32 => inferInstanceAs (FromValue Int32)
  | .uint32 => inferInstanceAs (FromValue UInt32)
  | .float => inferInstanceAs (FromValue Binary64)
  | .bool => inferInstanceAs (FromValue Bool)
  | .text => inferInstanceAs (FromValue String)
  | .blob => inferInstanceAs (FromValue (List UInt8))
  | .timestamp => inferInstanceAs (FromValue Instant)
  | .any => inferInstanceAs (FromValue Value)

instance : (b : BaseType) → ToValue b.Datum
  | .int64 => inferInstanceAs (ToValue Int64)
  | .int32 => inferInstanceAs (ToValue Int32)
  | .uint32 => inferInstanceAs (ToValue UInt32)
  | .float => inferInstanceAs (ToValue Binary64)
  | .bool => inferInstanceAs (ToValue Bool)
  | .text => inferInstanceAs (ToValue String)
  | .blob => inferInstanceAs (ToValue (List UInt8))
  | .timestamp => inferInstanceAs (ToValue Instant)
  | .any => inferInstanceAs (ToValue Value)

/-- All base types. -/
def all : List BaseType :=
  [.int64, .int32, .uint32, .float, .bool, .text, .blob, .timestamp, .any]

/-- The short name of a base type. -/
def name : BaseType → String
  | .int64 => "i64"
  | .int32 => "i32"
  | .uint32 => "u32"
  | .float => "f64"
  | .bool => "bool"
  | .text => "text"
  | .blob => "blob"
  | .timestamp => "ts"
  | .any => "any"

/-- The value a field of the type holds before it is assigned. -/
def start : BaseType → Value
  | .int64 | .int32 | .uint32 => .int 0
  | .float => .float .zero
  | .bool => .bool false
  | .text => .text ""
  | .blob => .blob []
  | .timestamp => .timestamp .epoch
  | .any => .null

end BaseType

namespace FieldType

/-- The type of data that a field type stands for. -/
def Datum : FieldType → Type
  | ⟨base, false⟩ => base.Datum
  | ⟨base, true⟩ => Option base.Datum

instance : (t : FieldType) → FromValue t.Datum
  | ⟨base, false⟩ => inferInstanceAs (FromValue base.Datum)
  | ⟨base, true⟩ => inferInstanceAs (FromValue (Option base.Datum))

instance : (t : FieldType) → ToValue t.Datum
  | ⟨base, false⟩ => inferInstanceAs (ToValue base.Datum)
  | ⟨base, true⟩ => inferInstanceAs (ToValue (Option base.Datum))

/-- The value a field of the type holds before it is assigned. -/
def start (t : FieldType) : Value :=
  if t.optional then .null else t.base.start

/-- The value a field of the type holds after it is assigned a value, if the value fits. -/
def convert (t : FieldType) (v : Value) : Option Value :=
  v.through t.Datum

/-- The name of the type in error messages. -/
def typeName (t : FieldType) : String :=
  FromValue.typeName t.Datum

/-- The short name of a field type. -/
def name (t : FieldType) : String :=
  if t.optional then t.base.name ++ "?" else t.base.name

/-- All field types. -/
def all : List FieldType :=
  BaseType.all.flatMap fun base => [⟨base, false⟩, ⟨base, true⟩]

/-- The field type of a short name. -/
def ofName? (name : String) : Option FieldType :=
  all.find? fun t => t.name == name

/-- A field type is found by its short name. -/
theorem ofName?_name (t : FieldType) : ofName? t.name = some t := by
  obtain ⟨base, optional⟩ := t
  cases base <;> cases optional <;> decide

end FieldType

end SqlMapper
