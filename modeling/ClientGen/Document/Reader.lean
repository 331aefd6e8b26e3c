import ClientGen.Document.Service
import ClientGen.Json.Access
import ClientGen.Ledger

/-!
# Reading a document

From the JSON value of a discovery document to the service it describes. A schema, method
or resource that cannot be read is left out and its issue recorded; everything beside it
is still read. Only a document that is no object, or that has no name, is refused as a
whole.

References to schemas are kept as they are written: a type may refer to a schema that there
is not, and only the messages of methods are checked here.
-/

namespace ClientGen.Document

open Outcome

/-! ### Types and schemas -/

/-- The dotted path of a part. -/
def dotted (path part : String) : String :=
  path ++ "." ++ part

/-- The names of the types without parts. -/
def primitiveNames : List String :=
  ["string", "integer", "number", "boolean"]

/-- Whether a type description is one of an object: it says so, or it says nothing and has
properties. -/
def describesObject (fields : Fields) : Bool :=
  match Fields.get fields "type" with
  | .str s => s == "object"
  | .null => Fields.has fields "properties"
  | _ => false

/-- A type description that is neither a reference nor a list nor an object. -/
def readSimpleType (fields : Fields) (enumValues : List Json) (path : String) :
    Outcome TypeRef := do
  let name := Fields.get fields "type"
  match ← name.keyText? with
  | some s =>
    if s = "any" then return .any "any"
    else if s ∈ primitiveNames then return .primitive s (Fields.get fields "format") enumValues
    else issue (.unknownType name) path
  | none => issue (.unknownType name) path

mutual

/-- **Read a type description.** An object described on the spot gets the name of the field
it describes. -/
def readType (fields : Fields) (path inlineName : String) : Outcome TypeRef :=
  match Fields.find? fields "$ref" with
  | some target => .ok (.ref target)
  | none => do
    let enumValues ← (Fields.get fields "enum").elementsOrNone
    if (Fields.get fields "type").isText "array" then
      match _h : Fields.find? fields "items" with
      | some (.object items) =>
        return .array (← readType items (dotted path "items") inlineName)
      | _ => return .array (.any "")
    else if describesObject fields then
      if (Fields.get fields "properties").truthy then
        match _h : Fields.find? fields "properties" with
        | some (.object properties) =>
          let parts ← readProperties properties path
          return .object inlineName ⟨inlineName, Fields.get fields "description", parts, path⟩
        | _ => fault .noSuchPart
      else
        match _h : Fields.find? fields "additionalProperties" with
        | some (.object values) =>
          return .map (← readType values (dotted path "additionalProperties") inlineName)
        | _ => return .any "object"
    else readSimpleType fields enumValues path
termination_by sizeOf fields
decreasing_by
  all_goals
    have := Fields.sizeOf_lt_of_find? _h
    simp only [Json.object.sizeOf_spec] at this
    omega

/-- Read the properties of a schema, in order. -/
def readProperties (properties : Fields) (path : String) : Outcome (List Field) :=
  match properties with
  | [] => .ok []
  | (name, value) :: rest =>
    match value with
    | .object fields => do
      let here := dotted path name
      let type ← readType fields here name
      let later ← readProperties rest path
      let description := Fields.get fields "description"
      let required := (Fields.get fields "required").truthy
      return ⟨name, type, description, required, here⟩ :: later
    | _ => issue (.notObject .property) (dotted path name)
termination_by sizeOf properties

end

/-- Read a schema. -/
def readSchema (name : String) (value : Json) (path : String) : Outcome Schema :=
  match value with
  | .object fields => do
    let parts ← readProperties (← (Fields.get fields "properties").entries) path
    return ⟨name, Fields.get fields "description", parts, path⟩
  | _ => issue (.notObject .schema) path

/-! ### Methods -/

/-- Read a parameter. -/
def readParameter (name : String) (value : Json) (path : String) : Outcome Parameter :=
  match value with
  | .object fields =>
    match ParameterLocation.ofJson? (Fields.get fields "location") with
    | none => issue (.invalidLocation (Fields.get fields "location")) path
    | some location => do
      let type ← readType fields path ""
      return {
        name, type, location
        required := (Fields.get fields "required").truthy
        default? := Fields.find? fields "default"
        description := Fields.get fields "description"
        repeated := (Fields.get fields "repeated").truthy }
  | _ => issue (.notObject .parameter) path

/-- Read the schema that a message of a method refers to. -/
def readMessage (value : Json) (role : MessageRole) (path : String) (schemaNames : List String) :
    Outcome (Option String) :=
  match value with
  | .null => .ok none
  | _ =>
    let target := match value with
      | .object fields => Fields.get fields "$ref"
      | _ => .null
    if target.truthy then do
      match ← target.keyText? with
      | some s =>
        if s ∈ schemaNames then return some s else issue (.unknownMessage role target) path
      | none => issue (.unknownMessage role target) path
    else issue (.noReference role) path

/-- Check an order of parameters: each entry has to be the name of a parameter. -/
def readOrder (names : List String) (path : String) : List Json → Outcome (List String)
  | [] => .ok []
  | entry :: rest => do
    match ← entry.keyText? with
    | some s =>
      if s ∈ names then return s :: (← readOrder names path rest)
      else issue (.unknownOrdered entry) path
    | none => issue (.unknownOrdered entry) path

/-- Read a method. -/
def readMethod (name : String) (value : Json) (path : String) (schemaNames : List String) :
    Outcome Method :=
  match value with
  | .object fields =>
    let httpMethod := Fields.get fields "httpMethod"
    if !httpMethod.truthy then issue .noHttpMethod path
    else match Fields.get fields "path" with
      | .null => issue .noPath path
      | restPath => do
        let request ← readMessage (Fields.get fields "request") .request path schemaNames
        let response ← readMessage (Fields.get fields "response") .response path schemaNames
        let parameters ← (← (Fields.get fields "parameters").entries).mapM fun p =>
          readParameter p.1 p.2 (dotted path p.1)
        let order ← (Fields.get fields "parameterOrder").elementsOrNone
        let parameterOrder ← readOrder (parameters.map Parameter.name) path order
        let scopes ← (Fields.get fields "scopes").elementsOrNone
        return {
          name, httpMethod, parameters, parameterOrder, request, response, scopes
          id := (Fields.find? fields "id").getD (.str "")
          path := restPath
          description := Fields.get fields "description" }
  | _ => issue (.notObject .method) path

/-! ### Resources and services -/

/-- The reading of a document, which records the issues it meets. -/
abbrev Reading : Type → Type := Session Ledger

/-- The result of reading an item, or nothing after its issue was recorded. Faults go
through. -/
def attempt {α : Type} (item : Outcome α) : Reading (Option α) :=
  match item with
  | .ok a => pure (some a)
  | .error (.issue i) => do
    modify (·.record i)
    return none
  | .error (.fault f) => throw (.fault f)

/-- Read the items of an object one by one, and keep those that can be read. -/
def readEach {α : Type} (read : String → Json → Outcome α) : Fields → Reading (List α)
  | [] => pure []
  | (name, value) :: rest => do
    let item ← attempt (read name value)
    let later ← readEach read rest
    return item.toList ++ later

mutual

/-- **Read a resource** with its methods and the resources inside it; nothing if it is no
object. -/
def readResource (name : String) (value : Json) (path : String) (schemaNames : List String) :
    Reading (Option Resource) :=
  match value with
  | .object fields => do
    let entries ← (Fields.get fields "methods").entries
    let methods ← readEach (fun n v => readMethod n v (dotted path n) schemaNames) entries
    match _h : Fields.find? fields "resources" with
    | some (.object inner) =>
      let resources ← readResources inner (dotted path) schemaNames
      return some ⟨name, methods, resources, path⟩
    | some other =>
      if other.truthy then throw (.fault .noSuchPart) else return some ⟨name, methods, [], path⟩
    | none => return some ⟨name, methods, [], path⟩
  | _ => do
    modify (·.record ⟨.notObject .resource, path⟩)
    return none
termination_by sizeOf value
decreasing_by
  have := Fields.sizeOf_lt_of_find? _h
  simp only [Json.object.sizeOf_spec] at *
  omega

/-- Read the resources of an object, in order. -/
def readResources (entries : Fields) (pathOf : String → String) (schemaNames : List String) :
    Reading (List Resource) :=
  match entries with
  | [] => pure []
  | (name, value) :: rest => do
    let item ← readResource name value (pathOf name) schemaNames
    let later ← readResources rest pathOf schemaNames
    return item.toList ++ later
termination_by sizeOf entries

end

/-- The address of the service: the full one if it is given, else the root and the path of
the service joined. -/
def readBaseUri (fields : Fields) : Outcome Json :=
  let full := Fields.get fields "baseUrl"
  if full.truthy then .ok full
  else
    let root := (Fields.find? fields "rootUrl").getD (.str "")
    let path := (Fields.find? fields "servicePath").getD (.str "")
    root.add path

/-- The scopes of the service with their descriptions. -/
def readScopes (fields : Fields) : Outcome (List (String × Json)) := do
  let auth ← (Fields.get fields "auth").entries
  let oauth ← (Fields.get auth "oauth2").entries
  let scopes ← (Fields.get oauth "scopes").entries
  scopes.mapM fun s => do
    let info ← s.2.entries
    return (s.1, (Fields.find? info "description").getD (.str ""))

/-- The name of a document that is an object with a text for a name. -/
def nameOf : Json → String
  | .object fields => match Fields.get fields "name" with
    | .str s => s
    | _ => ""
  | _ => ""

/-- Read the document with the given fields, under its name. -/
def readFields (fields : Fields) (name : String) : Reading Service := do
  modify fun l => { l with serviceName := name }.write .debug
    ("Parsing discovery document for " ++ name)
  let schemaEntries ← (Fields.get fields "schemas").entries
  let schemas ← readEach (fun n v => readSchema n v (dotted "schemas" n)) schemaEntries
  let resourceEntries ← (Fields.get fields "resources").entries
  let resources ← readResources resourceEntries id (schemaEntries.map Prod.fst)
  let baseUri ← readBaseUri fields
  let scopes ← readScopes fields
  return {
    name, baseUri, resources, schemas, scopes
    version := ((Fields.find? fields "version").getD (.str "")).text
    title := Fields.get fields "title"
    description := Fields.get fields "description" }

/-- **Read a document.** -/
def read (document : Json) : Reading Service :=
  match document with
  | .object fields =>
    match Fields.get fields "name" with
    | .str name =>
      if name.isEmpty then throw (.issue ⟨.noServiceName, ""⟩) else readFields fields name
    | _ => throw (.issue ⟨.noServiceName, ""⟩)
  | _ => throw (.issue ⟨.documentNotObject, ""⟩)

end ClientGen.Document
