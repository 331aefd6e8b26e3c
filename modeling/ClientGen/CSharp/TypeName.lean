import ClientGen.Code.LiteralKind
import ClientGen.Document.Service
import ClientGen.Identifier
import ClientGen.Table

/-!
# Type names

How the types of a document are written in C#. A reference to a schema is written as the
name of its class, and the schema itself is never looked into, so schemas may refer to
each other in any way.
-/

namespace ClientGen

/-- The schemas that types can refer to. -/
structure SchemaIndex where
  /-- The names of the schemas there are. -/
  known : List Json
  /-- The classes of the schemas. -/
  classes : Table

/-- The class of the schema that a value refers to. -/
def SchemaIndex.className (index : SchemaIndex) (target location : Json) : Outcome Json := do
  let key ← target.asKey
  if index.known.any key.sameKey then
    match key with
    | .str name => return (index.classes.find? name).getD key
    | _ => return key
  else Outcome.issue (.unknownSchema target) location

namespace TypeName

/-- The type of a primitive by its name alone. -/
def ofName (name : String) : String :=
  match name with
  | "string" => "string"
  | "integer" => "int?"
  | "number" => "double?"
  | "boolean" => "bool?"
  | _ => "object"

/-- The type of a primitive that its format decides. -/
def ofFormat? (name format : String) : Option String :=
  match name, format with
  | "string", "int64" => some "long?"
  | "string", "uint64" => some "ulong?"
  | "integer", "int32" => some "int?"
  | "integer", "uint32" => some "long?"
  | "number", "double" => some "double?"
  | "number", "float" => some "float?"
  | _, _ => none

/-- The type of a primitive. -/
def ofPrimitive (name : String) (format : Json) : Outcome String := do
  match ← format.keyText? with
  | some f => return (ofFormat? name f).getD (ofName name)
  | none => return ofName name

/-- The name of the class for an object that describes the field with a name. -/
def inlineClass (name : String) : String :=
  Identifier.pascal name ++ "Data"

/-- The type of a list. -/
def listOf (item : String) : String :=
  "IList<" ++ item ++ ">"

/-- The type of a table from texts. -/
def tableOf (value : String) : String :=
  "IDictionary<string, " ++ value ++ ">"

/-- **The C# type of a type.** An object described on the spot is written as the class
given for it, or as the class its name suggests when the one given counts as absent. -/
def ofType (index : SchemaIndex) (location inline : Json) : TypeRef → Outcome Json
  | .primitive name format _ => do return .str (← ofPrimitive name format)
  | .ref target => index.className target location
  | .array items => do
    return .str (listOf (← (← ofType index location inline items).written))
  | .map values => do
    return .str (tableOf (← (← ofType index location inline values).written))
  | .object name _ => .ok (if inline.truthy then inline else inlineClass name)
  | .any _ => .ok (.str "object")

/-- The kind of literal that a C# type accepts. -/
def literalKind (type : Json) : Outcome LiteralKind := do
  match ← type.keyText? with
  | some "int?" | some "long?" | some "ulong?" => return .integer
  | some "double?" | some "float?" => return .number
  | some "bool?" => return .boolean
  | _ => return .string

end TypeName

/-- The object described on the spot that a type leads to through lists and tables: the
name of its field and its schema. -/
def TypeRef.inline? : TypeRef → Option (String × Schema)
  | .object name schema => some (name, schema)
  | .array items => items.inline?
  | .map values => values.inline?
  | _ => none

end ClientGen
