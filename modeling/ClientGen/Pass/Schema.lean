import ClientGen.Pass.Basic

/-!
# Decorators of schema classes

A schema that is not known has no description and no fields to ask for; the decorators that
need them then fail.
-/

namespace ClientGen

open Build Decorator

/-- The decorators of schema classes. -/
inductive SchemaPass
  /-- The description of the schema. -/
  | documentation : SchemaPass
  /-- A property for each field. -/
  | properties : SchemaPass
  /-- The property that the interface of schemas asks for. -/
  | etag : SchemaPass
  deriving DecidableEq, Repr

namespace SchemaPass

/-- The decorators by name. -/
def registry : List (String × SchemaPass) :=
  [("schema_documentation", .documentation), ("schema_properties", .properties),
   ("schema_etag", .etag)]

/-- Describe the class by the description of the schema, unless it has a comment. -/
def addDocumentation (schema? : Option Schema) (decl : Int) : Build Unit := do
  let d ← look fun m => m.get decl
  let schema ← Outcome.required schema?
  if schema.description.truthy && !d.comment.truthy then
    onModel (CodeModel.setComment decl schema.description)

/-- The property for a field. -/
def fieldProperty (name : Json) (wireName : String) (type comment : Json) : Declaration :=
  { name, modifiers := [.virtual], attributes := [⟨jsonProperty, [.literal (.str wireName)]⟩]
    comment, body := .property { type } }

mutual

/-- **Add a property for each field**, in order. An object described on the spot gets a
class of its own, right after the property. -/
def addFields (context : Context) (reserved : List Json) (decl : Int) : List Field → Build Unit
  | [] => pure ()
  | ⟨wireName, type, description, _, path⟩ :: rest => do
    let name ← safeName decl (Identifier.pascal wireName) context.suffix reserved
    match type.inline? with
    | none =>
      let typeName ← TypeName.ofType context.schemaIndex path .null type
      addMember decl (fieldProperty name wireName typeName description)
    | some (inlineName, _) =>
      let inlineClass ← safeName decl (TypeName.inlineClass inlineName) context.suffix
        (reserved ++ [name])
      let typeName ← TypeName.ofType context.schemaIndex path inlineClass type
      addMember decl (fieldProperty name wireName typeName description)
      if inlineClass.truthy then addInline context decl inlineClass type
    addFields context reserved decl rest

/-- Add the class for the object described on the spot that a type leads to. -/
def addInline (context : Context) (decl : Int) (name : Json) : TypeRef → Build Unit
  | .object _ ⟨_, description, fields, _⟩ => do
    let nested ← addClass (some decl) (Declaration.ofClass name [] description)
    addFields context [] nested fields
  | .array items => addInline context decl name items
  | .map values => addInline context decl name values
  | _ => pure ()

end

/-- Add a property for each field of the schema. -/
def addProperties (schema? : Option Schema) (decl : Int) (context : Context) : Build Unit := do
  let reserved := if context.config.schemaBaseInterface.truthy then schemaBaseMembers else []
  let schema ← Outcome.required schema?
  addFields context reserved decl schema.fields

/-- Add the property that the interface of schemas asks for, if there is an interface and no
member has its name. -/
def addETag (decl : Int) (context : Context) : Build Unit := do
  if context.config.schemaBaseInterface.truthy then
    match ← look fun m => m.findMember? decl "ETag" with
    | some _ => pure ()
    | none =>
      addMember decl {
        name := "ETag", modifiers := [.virtual], comment := .str "The ETag of the item."
        body := .property { type := "string" } }

/-- **Decorate a schema class.** -/
def run (p : SchemaPass) (schema? : Option Schema) (decl : Int) (context : Context) : Build Unit :=
  match p with
  | .documentation => addDocumentation schema? decl
  | .properties => addProperties schema? decl context
  | .etag => addETag decl context

end SchemaPass

end ClientGen
