import SqlMapper.Data.FieldType
import SqlMapper.Entity.Model

/-!
# Models given by lists of fields

An entity whose fields are only known when the program runs is a list of fields with a value each.
Reading a row and setting an attribute convert the value to the type of the field.
-/

namespace SqlMapper

/-- A field of an entity. -/
structure Field where
  /-- The name of the field and of its column. -/
  name : String
  /-- The type of the field. -/
  type : FieldType
  /-- What the field holds at first; it need not be of the type. -/
  start : Value
deriving DecidableEq, Inhabited

/-- An entity given by its fields and what they hold, in order. -/
abbrev FieldValues := List (Field × Value)

namespace FieldModel

/-- The entity whose fields hold what they hold at first. -/
def fresh (fields : List Field) : FieldValues :=
  fields.map (fun field => (field, field.start))

/-- The attributes of an entity, in the order of its fields. -/
def attributes (a : FieldValues) : ColumnValues :=
  ColumnValues.ofList (a.map (fun entry => (entry.1.name, entry.2)))

/-- A value converted to the type of a field. -/
def convert (field : Field) (v : Value) : Except MappingFault Value :=
  match field.type.convert v with
  | some converted => .ok converted
  | none => .error (.decode field.name field.type.typeName v.typeName)

/-- Reads the fields of an entity from a row, one after another. -/
def fromRow (fields : List Field) (row : Row) : Except MappingFault FieldValues :=
  fields.mapM fun field =>
    match row.value? field.name with
    | none => .error (.missingColumn field.name)
    | some v => (convert field v).map (fun converted => (field, converted))

/-- The entity with one field set. -/
def setAttribute (table : String) (a : FieldValues) (column : String) (v : Value) :
    Except MappingFault FieldValues :=
  match a with
  | [] => .error (.unknownAttribute table column)
  | (field, old) :: rest =>
    if field.name = column then (convert field v).map (fun converted => (field, converted) :: rest)
    else (setAttribute table rest column v).map (fun others => (field, old) :: others)

/-- The model of the entities with the given fields. -/
def model {m : Type → Type} {ℓ : Type} (schema : Schema) (fields : List Field)
    (enhancers : List (Enhancer m ℓ)) : Model m ℓ FieldValues where
  schema := schema
  attributes := attributes
  fromRow := fromRow fields
  setAttribute := setAttribute schema.table
  enhancers := enhancers

end FieldModel

end SqlMapper
