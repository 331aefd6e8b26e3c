import ClientGen.Json.Access

/-!
# Configuration

The settings of a generation. The values of a configuration are taken as they are, of
whatever shape: a setting of the wrong shape is noticed only where it is used. The one
exception is the output mode, which is checked when it is a text.

One key, `__dict__`, gives all settings at once in place of those given before. A setting
with a single value then falls back to its default, while one that is a list, or the output
setting, is **absent** unless it is among the new ones: it can no longer be given, apart
from an object for the output, and asking for it is a fault.
-/

namespace ClientGen

/-- What to do with a file that is already there. -/
inductive OutputMode
  /-- Refuse to write. -/
  | keep : OutputMode
  /-- Write over it. -/
  | force : OutputMode
  /-- A value that is no mode; it does not refuse to write. -/
  | other (value : Json) : OutputMode

namespace OutputMode

/-- The mode that a value of a configuration stands for. -/
def ofJson : Json → Outcome OutputMode
  | .str "error" => .ok .keep
  | .str "force" => .ok .force
  | .str name => Outcome.fault (.unknownWord (.str name) "OutputMode")
  | value => .ok (.other value)

/-- The word of a mode. -/
def word : OutputMode → Outcome String
  | .keep => .ok "error"
  | .force => .ok "force"
  | .other _ => Outcome.fault .noSuchPart

end OutputMode

/-- How files are written. -/
structure OutputConfig where
  /-- What to do with a file that is already there. -/
  mode : OutputMode := .keep
  /-- Whether a text is checked before it is written. -/
  validate : Json := .bool true
  /-- Whether a file is written under another name first and then renamed. -/
  atomic : Json := .bool true

/-- The output setting of a configuration: output settings, or a value that is none. -/
inductive OutputSetting
  /-- Output settings. -/
  | settings (output : OutputConfig) : OutputSetting
  /-- A value of another shape. -/
  | raw (value : Json) : OutputSetting

namespace OutputSetting

/-- The output settings to write with: the default ones for a value that counts as
absent. -/
def forWriting : OutputSetting → Outcome OutputConfig
  | .settings output => .ok output
  | .raw value => if value.truthy then Outcome.fault .noSuchPart else .ok {}

/-- The output settings with the mode that writes over files. -/
def forced : OutputSetting → Outcome OutputSetting
  | .settings output => .ok (.settings { output with mode := .force })
  | .raw _ => Outcome.fault .noSuchPart

/-- The output setting that a value of a configuration stands for. -/
def ofJson : Json → Outcome OutputSetting
  | .object fields => do
    let mode ← match Fields.find? fields "mode" with
      | some value => OutputMode.ofJson value
      | none => .ok .keep
    return .settings {
      mode
      validate := (Fields.find? fields "validate_before_write").getD (.bool true)
      atomic := (Fields.find? fields "atomic_write").getD (.bool true) }
  | value => .ok (.raw value)

/-- The setting as a value of a configuration. -/
def toJson : OutputSetting → Outcome Json
  | .settings output => do
    return .object [("mode", .str (← output.mode.word)),
      ("validate_before_write", output.validate), ("atomic_write", output.atomic)]
  | .raw _ => Outcome.fault .noSuchPart

end OutputSetting

/-- A list of texts as a value. -/
def Json.texts (names : List String) : Json :=
  .list (names.map .str)

/-- **The settings of a generation.** -/
structure Config where
  /-- The namespace of the generated code; if empty it is derived from the service. -/
  configuredNamespace : Json := .str ""
  /-- The namespace that derived namespaces start with. -/
  rootNamespace : Json := .str "Google.Apis"
  /-- The using directives after the default ones. -/
  additionalUsings : Option Json := some (.list [])
  /-- Whether a unit starts with a comment on its generation. -/
  generationComment : Json := .bool true
  /-- The suffix that tells names apart. -/
  uniqueSuffix : Json := .str "Value"
  /-- The base class of services. -/
  serviceBaseClass : Json := .str "BaseClientService"
  /-- The base class of requests. -/
  requestBaseClass : Json := .str "ClientServiceRequest"
  /-- The interface of schemas; if empty there is none. -/
  schemaBaseInterface : Json := .str "IDirectResponseSchema"
  /-- Whether each top-level type gets a unit of its own. -/
  oneFilePerType : Json := .bool false
  /-- The schemas to leave out. -/
  ignoreSchemas : Option Json := some (.list [])
  /-- The resources to leave out, by path. -/
  ignoreResources : Option Json := some (.list [])
  /-- The decorators of the service class, in order. -/
  serviceDecorators : Option Json := some <| Json.texts
    ["service_constants", "service_scopes", "service_resources", "service_constructor"]
  /-- The decorators of resource classes, in order. -/
  resourceDecorators : Option Json := some <| Json.texts
    ["resource_name", "subresources", "resource_service"]
  /-- The decorators of request classes, in order. -/
  requestDecorators : Option Json := some <| Json.texts
    ["request_documentation", "request_fields", "request_parameters", "request_body",
     "request_constructor", "resource_method"]
  /-- The decorators of schema classes, in order. -/
  schemaDecorators : Option Json := some <| Json.texts
    ["schema_documentation", "schema_properties", "schema_etag"]
  /-- How files are written. -/
  output : Option OutputSetting := some (.settings {})
  /-- Whether the settings can be given as an object again. -/
  writable : Bool := true

namespace Config

/-- The settings that are given all at once by an object. -/
def ofSettings (fields : Fields) : Config :=
  let plain (key : String) (default : Json) : Json := (Fields.find? fields key).getD default
  { configuredNamespace := plain "namespace" ""
    rootNamespace := plain "root_namespace" "Google.Apis"
    additionalUsings := Fields.find? fields "additional_usings"
    generationComment := plain "add_generation_comment" (.bool true)
    uniqueSuffix := plain "unique_suffix" "Value"
    serviceBaseClass := plain "service_base_class" "BaseClientService"
    requestBaseClass := plain "request_base_class" "ClientServiceRequest"
    schemaBaseInterface := plain "schema_base_interface" "IDirectResponseSchema"
    oneFilePerType := plain "one_file_per_type" (.bool false)
    ignoreSchemas := Fields.find? fields "ignore_schemas"
    ignoreResources := Fields.find? fields "ignore_resources"
    serviceDecorators := Fields.find? fields "service_decorators"
    resourceDecorators := Fields.find? fields "resource_decorators"
    requestDecorators := Fields.find? fields "request_decorators"
    schemaDecorators := Fields.find? fields "schema_decorators"
    output := (Fields.find? fields "output").map .raw
    writable := !Fields.has fields "to_dict" }

/-- A setting with a new value, unless it is absent. -/
def replaced (setting : Option Json) (value : Json) : Option Json :=
  setting.map fun _ => value

/-- The output setting for a new value; a value that is no object does not give an absent
one. -/
def replacedOutput (setting : Option OutputSetting) (value : Json) :
    Outcome (Option OutputSetting) := do
  let output ← OutputSetting.ofJson value
  match output, setting with
  | .raw _, none => return none
  | _, _ => return some output

/-- Give one setting a value. A key that is no setting changes nothing, apart from a few
that cannot be given or that take away what the settings can do. -/
def set (c : Config) (key : String) (value : Json) : Outcome Config :=
  match key with
  | "namespace" => .ok { c with configuredNamespace := value }
  | "root_namespace" => .ok { c with rootNamespace := value }
  | "additional_usings" => .ok { c with additionalUsings := replaced c.additionalUsings value }
  | "add_generation_comment" => .ok { c with generationComment := value }
  | "unique_suffix" => .ok { c with uniqueSuffix := value }
  | "service_base_class" => .ok { c with serviceBaseClass := value }
  | "request_base_class" => .ok { c with requestBaseClass := value }
  | "schema_base_interface" => .ok { c with schemaBaseInterface := value }
  | "one_file_per_type" => .ok { c with oneFilePerType := value }
  | "ignore_schemas" => .ok { c with ignoreSchemas := replaced c.ignoreSchemas value }
  | "ignore_resources" => .ok { c with ignoreResources := replaced c.ignoreResources value }
  | "service_decorators" => .ok { c with serviceDecorators := replaced c.serviceDecorators value }
  | "resource_decorators" =>
    .ok { c with resourceDecorators := replaced c.resourceDecorators value }
  | "request_decorators" => .ok { c with requestDecorators := replaced c.requestDecorators value }
  | "schema_decorators" => .ok { c with schemaDecorators := replaced c.schemaDecorators value }
  | "output" => do return { c with output := ← replacedOutput c.output value }
  | "to_dict" => .ok { c with writable := false }
  | "__dict__" => match value with
    | .object fields => .ok (ofSettings fields)
    | _ => Outcome.fault .wrongKind
  | "__class__" => Outcome.fault .wrongKind
  | "__weakref__" => Outcome.fault .noSuchPart
  | _ => .ok c

/-- The settings that an object gives, over the default ones. -/
def ofJson : Json → Outcome Config
  | .object fields => fields.foldlM (fun c f => c.set f.1 f.2) {}
  | _ => Outcome.fault .noSuchPart

/-- The settings as an object. -/
def toJson (c : Config) : Outcome Json := do
  if !c.writable then Outcome.fault .wrongKind
  let output ← (← Outcome.required c.output).toJson
  return .object
    [("namespace", c.configuredNamespace), ("root_namespace", c.rootNamespace),
     ("additional_usings", ← Outcome.required c.additionalUsings),
     ("add_generation_comment", c.generationComment), ("unique_suffix", c.uniqueSuffix),
     ("service_base_class", c.serviceBaseClass), ("request_base_class", c.requestBaseClass),
     ("schema_base_interface", c.schemaBaseInterface), ("one_file_per_type", c.oneFilePerType),
     ("ignore_schemas", ← Outcome.required c.ignoreSchemas),
     ("ignore_resources", ← Outcome.required c.ignoreResources),
     ("service_decorators", ← Outcome.required c.serviceDecorators),
     ("resource_decorators", ← Outcome.required c.resourceDecorators),
     ("request_decorators", ← Outcome.required c.requestDecorators),
     ("schema_decorators", ← Outcome.required c.schemaDecorators), ("output", output)]

end Config

end ClientGen
