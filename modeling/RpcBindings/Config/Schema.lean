import RpcBindings.Config
import RpcBindings.Json

/-!
# The schema of configurations

A description of the configuration in the language of JSON Schema, for editors.

## Main definitions

* `Config.schema` — the schema.
-/

namespace RpcBindings

open Json

/-! ### Defaults as JSON -/

namespace Schema

/-- The members of a map as JSON. -/
def ofMap {α : Type} (f : α → Json) (m : List (String × α)) : Json :=
  object (m.map fun p => (p.1, f p.2))

/-- A list of texts as JSON. -/
def ofTexts (ss : List String) : Json :=
  array (ss.map string)

/-- A converter as JSON. -/
def ofConverter : Converter → Json
  | .int => object [("kind", string "int")]
  | .float => object [("kind", string "float")]
  | .bool => object [("kind", string "bool")]
  | .str => object [("kind", string "str")]
  | .choices values => object [("kind", string "choices"), ("values", ofTexts values)]

/-- The source directories as JSON. -/
def ofSources (s : Sources) : Json :=
  object [("commands_dir", string s.commandsDir), ("json_dir", string s.jsonDir)]

/-- The command table as JSON. -/
def ofCommandTable (t : CommandTable) : Json :=
  object
    [("converters", ofMap ofConverter t.converters), ("default_output", string t.defaultOutput),
     ("excluded_args", ofMap ofTexts t.excludedArgs), ("ignored_calls", ofTexts t.ignoredCalls),
     ("interface", string t.interface), ("outputs", ofMap string t.outputs)]

/-- The record table as JSON. -/
def ofRecordTable (t : RecordTable) : Json :=
  object [("name_prefix", string t.namePrefix)]

/-- The output layout as JSON. -/
def ofOutputLayout (o : OutputLayout) : Json :=
  object
    [("commands_module", string o.commandsModule), ("external_types", ofMap string o.externalTypes),
     ("line_length", number o.lineLength), ("outputs_module", string o.outputsModule),
     ("provenance", bool o.provenance), ("session_module", string o.sessionModule),
     ("source_link", (o.sourceLink.map string).getD null), ("types_module", string o.typesModule),
     ("utils_module", string o.utilsModule)]

/-! ### Schemas -/

/-- A type of the schema language. -/
def typed (name : String) : List (String × Json) :=
  [("type", string name)]

/-- A default. -/
def withDefault (j : Json) : List (String × Json) :=
  [("default", j)]

/-- A text with a default. -/
def text (default : String) : List (String × Json) :=
  typed "string" ++ withDefault (string default)

/-- A set of texts. -/
def textSet : Json :=
  object (typed "array" ++ [("items", object (typed "string")), ("uniqueItems", bool true)])

/-- A map with values of the given schema. -/
def map (values : Json) (default : Json) : List (String × Json) :=
  typed "object" ++ [("additionalProperties", values)] ++ withDefault default

/-- A reference to the schema of that name. -/
def reference (name : String) : List (String × Json) :=
  [("$ref", string ("#/$defs/" ++ name))]

/-- A property without a description. -/
def property (name : String) (schema : List (String × Json)) : String × Json :=
  (name, object schema)

/-- A property with a description. -/
def described (name description : String) (schema : List (String × Json)) : String × Json :=
  (name, object (("description", string description) :: schema))

/-- An object with the given properties and no others. -/
def closed (properties : List (String × Json)) : List (String × Json) :=
  typed "object" ++ [("properties", object properties), ("additionalProperties", bool false)]

/-- The schema of the source directories. -/
def sources : Json :=
  let d : Sources := {}
  object <| closed
    [described "commands_dir" "Command classes, relative to `upstream_root`" (text d.commandsDir),
     described "json_dir" "JSON model records, relative to `upstream_root`" (text d.jsonDir)]

/-- The schema of the command table. -/
def commandTable : Json :=
  let d : CommandTable := {}
  object <| closed
    [described "converters" "`.type(...)` argument source text (`.class` stripped) to conversion"
       (map (object (reference "Converter")) (ofMap ofConverter d.converters)),
     described "default_output" "Result type for commands missing from `outputs`"
       (text d.defaultOutput),
     described "excluded_args"
       "Flags dropped per command (PascalCase command name to argument names)"
       (map textSet (ofMap ofTexts d.excludedArgs)),
     described "ignored_calls" "Chained call names that carry no information for the bindings"
       (typed "array" ++ withDefault (ofTexts d.ignoredCalls) ++
         [("items", object (typed "string")), ("uniqueItems", bool true)]),
     described "interface" "Marker interface selecting RPC-exposed command classes"
       (text d.interface),
     described "outputs" "Result type expression per command (PascalCase command name)"
       (map (object (typed "string")) (ofMap string d.outputs))]

/-- The properties that tell the converters apart. -/
def kindIs (name : String) : String × Json :=
  ("kind", object (typed "string" ++ [("const", string name)]))

/-- The schema of a converter without values. -/
def simpleConverter (name : String) : Json :=
  object <| typed "object" ++
    [("properties", object [kindIs name]), ("required", ofTexts ["kind"])]

/-- The schema of the converter with values. -/
def choiceConverter : Json :=
  let values := object (typed "array" ++ [("items", object (typed "string"))])
  object <|
    ("description", string "Behaves like `.choices(values...)`") :: typed "object" ++
      [("properties", object [kindIs "choices", ("values", values)]),
       ("required", ofTexts ["kind", "values"])]

/-- The schema of a converter. -/
def converter : Json :=
  object
    [("description", string "A conversion passed to argparse4j's `.type(...)`"),
     ("oneOf", array (["int", "float", "bool", "str"].map simpleConverter ++ [choiceConverter]))]

/-- The schema of the output layout. -/
def outputLayout : Json :=
  let d : OutputLayout := {}
  object <| closed
    [property "commands_module" (text d.commandsModule),
     described "external_types" "Hand-maintained type names and the module that provides them"
       (map (object (typed "string")) (ofMap string d.externalTypes)),
     described "line_length" "Column limit for one-line overload signatures"
       (typed "integer" ++ [("format", string "uint")] ++ withDefault (number d.lineLength) ++
         [("minimum", number 0)]),
     property "outputs_module" (text d.outputsModule),
     described "provenance" "Emit the provenance header"
       (typed "boolean" ++ withDefault (bool d.provenance)),
     described "session_module" "Hand-written module providing `RpcCommand`" (text d.sessionModule),
     described "source_link" "Docstring footer link, a template over `path`"
       ([("type", ofTexts ["string", "null"])] ++ withDefault null),
     property "types_module" (text d.typesModule),
     described "utils_module" "Hand-written module providing `NonEmptyTuple`" (text d.utilsModule)]

/-- The schema of the record table. -/
def recordTable : Json :=
  object <| closed
    [described "name_prefix" "Domain prefix stripped from record and enum names"
       (text ({} : RecordTable).namePrefix)]

/-- A section, described by a schema of its own. -/
def part (name description type : String) (default : Json) : String × Json :=
  described name description (reference type ++ withDefault default)

end Schema

open Schema in
/-- The schema of configurations. -/
def Config.schema : Json :=
  let d : Config := {}
  object <|
    [("$schema", string "https://json-schema.org/draft/2020-12/schema"),
     ("title", string "BindgenConfig"),
     ("description", string "Root configuration (`bindgen.yaml`)")] ++
    closed
      [part "commands" "Command extraction tables" "CommandsConfig" (ofCommandTable d.commands),
       part "output" "Emitted module layout" "OutputConfig" (ofOutputLayout d.output),
       part "records" "JSON model extraction" "RecordsConfig" (ofRecordTable d.records),
       part "sources" "Source directories inside the upstream checkout" "SourcesConfig"
         (ofSources d.sources),
       described "upstream_root"
         "Upstream checkout; relative paths resolve against the config file" (text d.checkout)] ++
    [("$defs", object
      [("CommandsConfig", commandTable), ("Converter", converter), ("OutputConfig", outputLayout),
       ("RecordsConfig", recordTable), ("SourcesConfig", Schema.sources)])]

end RpcBindings
