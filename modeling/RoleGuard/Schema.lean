import RoleGuard.Policy

/-!
# Checking a policy against a schema

A policy may name types and fields that a schema does not have.  The check
reports them in the order of the table: an absent type once, and the absent
fields of a type that is guarded field by field.

A schema is given as it is, or held by something that wraps it.
-/

namespace RoleGuard

/-- A type of a schema with the names of its fields; kinds of types that have
no fields have none. -/
structure SchemaType where
  name : String
  fields : List String

/-- A schema, by its types, those included that come with every schema. -/
structure Schema where
  types : List SchemaType

namespace Schema

def type? (schema : Schema) (name : String) : Option SchemaType :=
  schema.types.find? fun type => type.name == name

end Schema

/-- What a schema is looked for in: the schema itself or something that holds
one, `none` where there is no schema. -/
inductive SchemaSource where
  | bare (schema : Option Schema)
  | holding (schema : Option Schema)

namespace SchemaSource

instance : Coe (Option Schema) SchemaSource := ⟨bare⟩

/-- The schema that is meant: the one held, or else the source itself. -/
def schema? : SchemaSource → Option Schema
  | bare schema | holding schema => schema

end SchemaSource

namespace Policy

/-- The text that a key of a compiled tree is. -/
def keyText : Value → String
  | .text s => s
  | v => v.display

/-- The fields that a node guards one by one and a type does not have. -/
def unknownFields (name : String) (type : SchemaType) (node : Value) :
    List String :=
  match node.content with
  | .rule _ => []
  | v =>
      ((v.entries?.getD []).map fun entry => keyText entry.1).filterMap
        fun field =>
          if type.fields.contains field then none
          else some (name ++ "." ++ field)

/-- The locations of a node that a schema does not have. -/
def unknownLocations (schema : Schema) (entry : Value × Value) :
    List String :=
  let name := keyText entry.1
  match schema.type? name with
  | none => [name]
  | some type => unknownFields name type entry.2

/-- Reports and notes the locations that a schema does not have.  Without a
schema there is nothing to look a first location up in. -/
def validateAgainst (policy : Policy) (source : SchemaSource) :
    Logged (List String) := do
  match source.schema? with
  | none =>
      if policy.permissions.nodes.isEmpty then return []
      else throw (.attributeAbsent "NoneType" "get_type")
  | some schema => do
      let unknown := policy.permissions.nodes.flatMap (unknownLocations schema)
      unknown.forM fun name => Logged.note (.locationUnknown name)
      return unknown

end Policy

end RoleGuard
