import RpcBindings.Model
import RpcBindings.Render.Command
import RpcBindings.Render.Declaration
import RpcBindings.Render.Module

/-!
# Generated modules

From the model of a checkout come three modules: the commands, their outputs, and the shared types.
A module imports the classes that it refers to from the modules that provide them.

## Main definitions

* `ModuleKind`, `GeneratedModule` — the modules.
* `Contents` — the classes of a module.
* `importsFor` — the imports of a module.
* `generate` — the modules of a checkout.
-/

namespace RpcBindings

/-- The modules that are generated. -/
inductive ModuleKind
  | commands
  | outputs
  | types
  deriving DecidableEq, Repr

namespace ModuleKind

/-- All kinds, in the order in which they are generated. -/
def all : List ModuleKind :=
  [commands, outputs, types]

/-- The name of a kind of module in a package. -/
def moduleName (o : OutputLayout) : ModuleKind → String
  | commands => o.commandsModule
  | outputs => o.outputsModule
  | types => o.typesModule

end ModuleKind

/-- A module that has been generated. -/
structure GeneratedModule where
  kind : ModuleKind
  name : String
  text : String
  deriving DecidableEq, Repr

/-- The name of the file of a module. -/
def GeneratedModule.fileName (m : GeneratedModule) : String :=
  m.name ++ ".py"

/-- The classes of a module. -/
structure Contents where
  /-- The classes in order. -/
  rendered : List Rendered
  /-- The declarations whose nested classes need no import. -/
  locals : List Declaration
  /-- What the module needs apart from its classes. -/
  base : Imports

/-- The choices of a configuration for the layout of classes. -/
def OutputLayout.style (o : OutputLayout) : Style :=
  ⟨o.lineLength, o.sourceLink⟩

/-- The classes of a module of the given kind. -/
def contents (c : Config) (m : Model) (kind : ModuleKind) : Except Error Contents :=
  let style := c.output.style
  let annotations := ({} : Imports).add "__future__" "annotations"
  match kind with
  | .commands => do
    let rendered ← m.commands.mapM (Resolved.render style)
    return { rendered, locals := [], base := {} }
  | .outputs => do
    let rendered ← m.outputs.mapM (Declaration.render style)
    return { rendered := emptyOutput :: rendered, locals := m.outputs, base := annotations }
  | .types => do
    let rendered ← m.types.mapM (Declaration.render style)
    return { rendered, locals := m.types, base := annotations }

namespace Contents

/-- The names of the classes. -/
def names (k : Contents) : List String :=
  k.rendered.map Rendered.name

/-- What the module needs, with the classes of other modules still open. -/
def needs (k : Contents) : Imports :=
  k.rendered.foldl (fun i r => i.merge r.imports) k.base

/-- Whether a class is declared by the module itself. -/
def isLocal (k : Contents) (name : String) : Bool :=
  k.names.contains name || k.locals.any fun d => d.declares name

end Contents

/-- The first name that occurs a second time. -/
def firstRepeated? : List String → List String → Option String
  | _, [] => none
  | before, n :: ns => if before.contains n then some n else firstRepeated? (n :: before) ns

/-- The module from which a class is imported, if it has to be.  The commands may refer to known
classes only. -/
def importOf? (c : Config) (m : Model) (kind : ModuleKind) (k : Contents) (name : String) :
    Except Error (Option (String × String)) :=
  if k.isLocal name then .ok none
  else match m.moduleOf? c name with
    | some module =>
      .ok (if module = "." ++ kind.moduleName c.output then none else some (module, name))
    | none => if kind = .commands then .error (.config (.unknownOutput name)) else .ok none

/-- The imports of a module. -/
def importsFor (c : Config) (m : Model) (kind : ModuleKind) (k : Contents) :
    Except Error Imports := do
  let needs := k.needs
  let found ← needs.references.mapM (importOf? c m kind k)
  return (found.filterMap id).foldl (fun i p => i.add p.1 p.2) needs

/-- The module of a kind; the names of its classes must be different. -/
def assemble (c : Config) (m : Model) (header : String) (kind : ModuleKind) :
    Except Error GeneratedModule := do
  let name := kind.moduleName c.output
  let k ← contents c m kind
  match firstRepeated? [] k.names with
  | some n => throw (.inconsistent name (.declaredTwice n))
  | none =>
    let imports ← importsFor c m kind k
    let layout : ModuleLayout := {
      header
      imports := imports.block c.output.lineLength
      declarations := k.rendered.map Rendered.text
      exports := k.names }
    return { kind, name, text := layout.text }

/-- The modules of a checkout. -/
def generate (c : Config) (k : Checkout) : Except Error (List GeneratedModule) := do
  let m ← Model.ofCheckout c k
  ModuleKind.all.mapM (assemble c m (k.header c))

end RpcBindings
