import RpcBindings.Config.Check
import RpcBindings.Yaml.View

/-!
# Written configurations

## Main definitions

* `Converter.ofNode?` — the converter that a YAML value stands for.
* `Config.ofNode?` — the configuration that a YAML document stands for.
* `Config.ofText` — the checked configuration of a text.
-/

namespace RpcBindings

open Text Yaml

/-! ### Converters -/

namespace Converter

/-- The converter of a kind that has no values. -/
def simple? : String → Option Converter
  | "int" => some .int
  | "float" => some .float
  | "bool" => some .bool
  | "str" => some .str
  | _ => none

/-- The kind of the converter with values. -/
def choicesKind : String :=
  "choices"

/-- The values of a choice. -/
def values? : Node → Option (List String)
  | .sequence items => items.mapM Node.string?
  | _ => none

/-- Whether a key can stand in a choice: a text or a number. -/
def isKey (k : Node) : Bool :=
  k.string?.isSome || k.nat?.isSome

/-- The converter of a mapping with the key `kind`; other keys do not matter. -/
def ofEntries? (entries : List (Node × Node)) : Option Converter :=
  match entries.partition fun e => e.1.string? == some "kind" with
  | ([(_, kind)], others) => do
    let name ← kind.text?
    if name = choicesKind then
      match others.filter fun e => e.1.string? == some "values" with
      | [(_, values)] =>
        if others.all fun e => isKey e.1 then (values? values).map choices else none
      | _ => none
    else simple? name
  | _ => none

/-- The converter of a sequence that starts with the kind. -/
def ofItems? : List Node → Option Converter
  | [kind] => kind.text?.bind simple?
  | [kind, values] => do
    if (← kind.text?) = choicesKind then (values? values).map choices else none
  | _ => none

/-- The converter that a YAML value stands for. -/
def ofNode? : Node → Option Converter
  | .mapping entries => ofEntries? entries
  | .sequence items => ofItems? items
  | .scalar .. => none

end Converter

/-! ### Sections -/

/-- The source directories that a YAML value stands for. -/
def Sources.ofNode? (n : Node) : Option Sources := do
  let d : Sources := {}
  let fields ← n.fields? ["commands_dir", "json_dir"]
  return {
    commandsDir := ← field? fields "commands_dir" d.commandsDir Node.text?
    jsonDir := ← field? fields "json_dir" d.jsonDir Node.text? }

/-- The command table that a YAML value stands for. -/
def CommandTable.ofNode? (n : Node) : Option CommandTable := do
  let d : CommandTable := {}
  let fields ← n.fields?
    ["interface", "excluded_args", "outputs", "default_output", "converters", "ignored_calls"]
  let set? := fun (n : Node) => n.texts?.map Sorted.ofList
  return {
    interface := ← field? fields "interface" d.interface Node.text?
    excludedArgs := ← field? fields "excluded_args" d.excludedArgs fun n =>
      (n.pairs? set?).map Sorted.ofPairs
    outputs := ← field? fields "outputs" d.outputs fun n => (n.pairs? Node.text?).map Sorted.ofPairs
    defaultOutput := ← field? fields "default_output" d.defaultOutput Node.text?
    converters := ← field? fields "converters" d.converters fun n =>
      (n.pairs? Converter.ofNode?).map Sorted.ofPairs
    ignoredCalls := ← field? fields "ignored_calls" d.ignoredCalls set? }

/-- The record table that a YAML value stands for. -/
def RecordTable.ofNode? (n : Node) : Option RecordTable := do
  let fields ← n.fields? ["name_prefix"]
  return { namePrefix := ← field? fields "name_prefix" ({} : RecordTable).namePrefix Node.text? }

/-- The output layout that a YAML value stands for. -/
def OutputLayout.ofNode? (n : Node) : Option OutputLayout := do
  let d : OutputLayout := {}
  let fields ← n.fields?
    ["commands_module", "outputs_module", "types_module", "session_module", "utils_module",
     "external_types", "line_length", "source_link", "provenance"]
  return {
    commandsModule := ← field? fields "commands_module" d.commandsModule Node.text?
    outputsModule := ← field? fields "outputs_module" d.outputsModule Node.text?
    typesModule := ← field? fields "types_module" d.typesModule Node.text?
    sessionModule := ← field? fields "session_module" d.sessionModule Node.text?
    utilsModule := ← field? fields "utils_module" d.utilsModule Node.text?
    externalTypes := ← field? fields "external_types" d.externalTypes fun n =>
      (n.pairs? Node.text?).map Sorted.ofPairs
    lineLength := ← field? fields "line_length" d.lineLength Node.nat?
    sourceLink := ← field? fields "source_link" d.sourceLink (Node.optional? Node.text?)
    provenance := ← field? fields "provenance" d.provenance Node.bool? }

namespace Config

/-- The configuration that a YAML document stands for. -/
def ofNode? (n : Node) : Option Config := do
  let d : Config := {}
  let fields ← n.fields? ["upstream_root", "sources", "commands", "records", "output"]
  return {
    checkout := ← field? fields "upstream_root" d.checkout Node.text?
    sources := ← field? fields "sources" d.sources Sources.ofNode?
    commands := ← field? fields "commands" d.commands CommandTable.ofNode?
    records := ← field? fields "records" d.records RecordTable.ofNode?
    output := ← field? fields "output" d.output OutputLayout.ofNode? }

/-- The configuration of a text; a blank text stands for the defaults. -/
def ofText? (text : String) : Option Config :=
  if text.toList.all isBlank then some {} else (Node.ofText? text).bind ofNode?

/-- The checked configuration of a text. -/
def ofText (text : String) : Except Error Config :=
  match ofText? text with
  | none => .error .yaml
  | some c => c.check.map fun _ => c

end Config

end RpcBindings
