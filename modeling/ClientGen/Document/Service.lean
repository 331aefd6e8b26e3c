import ClientGen.Json.Basic

/-!
# Services

What a discovery document describes: a service with its resources, their methods, the
parameters of those, and the schemas of the messages. Schemas are referred to by name. A
field of a document that the generator only hands on keeps the value it has there, of
whatever shape.
-/

namespace ClientGen

mutual

/-- A type as it is written in a document. -/
inductive TypeRef
  /-- A type without parts. -/
  | primitive (name : String) (format : Json) (enumValues : List Json) : TypeRef
  /-- A schema, referred to by a value that should be its name. -/
  | ref (target : Json) : TypeRef
  /-- A list. -/
  | array (items : TypeRef) : TypeRef
  /-- A table from texts to values. -/
  | map (values : TypeRef) : TypeRef
  /-- An object described on the spot. -/
  | object (name : String) (schema : Schema) : TypeRef
  /-- Anything; the name is the one that was written. -/
  | any (name : String) : TypeRef

/-- A schema: a named list of fields. -/
structure Schema where
  /-- The name of the schema, for an inline schema that of the field it describes. -/
  name : String
  /-- The description, as written. -/
  description : Json
  /-- The fields, in the order of the document. -/
  fields : List Field
  /-- The dotted path in the document. -/
  path : String

/-- A field of a schema. -/
structure Field where
  /-- The name on the wire. -/
  name : String
  /-- The type. -/
  type : TypeRef
  /-- The description, as written. -/
  description : Json
  /-- Whether the field is required. -/
  required : Bool
  /-- The dotted path in the document. -/
  path : String

end

/-- Where a parameter travels. -/
inductive ParameterLocation
  | path | query | body
  deriving DecidableEq, Repr

namespace ParameterLocation

/-- The word for a location in documents. -/
def word : ParameterLocation → String
  | .path => "path"
  | .query => "query"
  | .body => "body"

/-- The word for a location, capitalised. -/
def title : ParameterLocation → String
  | .path => "Path"
  | .query => "Query"
  | .body => "Body"

/-- The location that a value of a document names. -/
def ofJson? : Json → Option ParameterLocation
  | .str "path" => some .path
  | .str "query" => some .query
  | .str "body" => some .body
  | _ => none

end ParameterLocation

/-- A parameter of a method. -/
structure Parameter where
  /-- The name on the wire. -/
  name : String
  /-- The type. -/
  type : TypeRef
  /-- Whether the parameter has to be given. -/
  required : Bool
  /-- Where the parameter travels. -/
  location : ParameterLocation
  /-- The default, if there is one. -/
  default? : Option Json
  /-- The description, as written. -/
  description : Json
  /-- Whether the parameter may be given several times. -/
  repeated : Bool

/-- A method of a resource. -/
structure Method where
  /-- The name. -/
  name : String
  /-- The identifier of the method, as written. -/
  id : Json
  /-- The verb, as written. -/
  httpMethod : Json
  /-- The path, as written. -/
  path : Json
  /-- The description, as written. -/
  description : Json
  /-- The parameters, in the order of the document. -/
  parameters : List Parameter
  /-- The names of parameters in the order preferred in a signature. -/
  parameterOrder : List String
  /-- The schema of the request, if there is one. -/
  request : Option String
  /-- The schema of the response, if there is one. -/
  response : Option String
  /-- The scopes, as written. -/
  scopes : List Json

/-- A resource: a named group of methods, possibly with resources of its own. -/
structure Resource where
  /-- The name. -/
  name : String
  /-- The methods, in the order of the document. -/
  methods : List Method
  /-- The resources inside it, in the order of the document. -/
  resources : List Resource
  /-- The dotted path from the service. -/
  path : String

/-- A service. -/
structure Service where
  /-- The name. -/
  name : String
  /-- The version, as a text. -/
  version : String
  /-- The title, as written. -/
  title : Json
  /-- The description, as written. -/
  description : Json
  /-- The address that the paths of the methods start from, as written. -/
  baseUri : Json
  /-- The resources, in the order of the document. -/
  resources : List Resource
  /-- The schemas, in the order of the document. -/
  schemas : List Schema
  /-- The scopes with their descriptions, in the order of the document. -/
  scopes : List (String × Json)

/-- The parameter of a method with a name. -/
def Method.parameter? (m : Method) (name : String) : Option Parameter :=
  m.parameters.find? (·.name == name)

/-- The method of a resource with a name. -/
def Resource.method? (r : Resource) (name : String) : Option Method :=
  r.methods.find? (·.name == name)

namespace Service

/-- The schema with a name. -/
def schema? (s : Service) (name : String) : Option Schema :=
  s.schemas.find? (·.name == name)

/-- The top-level resource with a name. -/
def resource? (s : Service) (name : String) : Option Resource :=
  s.resources.find? (·.name == name)

/-- The word by which the service is called in comments. -/
def displayName (s : Service) : Json :=
  if s.title.truthy then s.title else .str s.name

end Service

mutual

/-- A resource followed by the resources inside it, depth first. -/
def Resource.withNested : Resource → List Resource
  | r@⟨_, _, resources, _⟩ => r :: Resource.allNested resources

/-- The resources of a list, each followed by those inside it. -/
def Resource.allNested : List Resource → List Resource
  | [] => []
  | r :: rs => r.withNested ++ Resource.allNested rs

end

end ClientGen
