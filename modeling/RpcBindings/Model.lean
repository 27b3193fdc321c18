import RpcBindings.Checkout
import RpcBindings.Command.Overload
import RpcBindings.Command.Registration
import RpcBindings.Record.OfSource

/-!
# The model of a checkout

## Main definitions

* `Model` — the commands, and the records and enums.
* `Model.ofCheckout` — the model of the files of a checkout.
* `Model.moduleOf?` — the module that provides a class.
-/

namespace RpcBindings

/-- What the files of a checkout declare. -/
structure Model where
  commands : List Resolved := []
  /-- The records and enums that command classes nest. -/
  outputs : List Declaration := []
  /-- The records and enums that are shared. -/
  types : List Declaration := []

namespace Model

/-- Adds what a file with a command class declares. -/
def addCommandFile (c : Config) (m : Model) (f : Source.File) : Except Error Model := do
  let command ← Command.ofFile? c.commands f
  let resolved ← command.mapM Command.resolve
  let nested ← Declaration.outermost c.records.namePrefix f
  return { m with commands := m.commands ++ resolved.toList, outputs := m.outputs ++ nested }

/-- Adds what a file with records declares. -/
def addRecordFile (c : Config) (m : Model) (f : Source.File) : Except Error Model := do
  let declared ← Declaration.topLevel c.records.namePrefix f
  return { m with types := m.types ++ declared }

/-- The model of the files of a checkout. -/
def ofCheckout (c : Config) (k : Checkout) : Except Error Model := do
  let withCommands ← k.commands.foldlM (addCommandFile c) {}
  k.json.foldlM (addRecordFile c) withCommands

/-- The name of the class for commands without output. -/
def emptyName : String :=
  "Empty"

/-- The classes and the modules that provide them; the first one of a name counts. -/
def providers (c : Config) (m : Model) : List (String × String) :=
  [("RpcCommand", c.output.sessionModule), ("NonEmptyTuple", c.output.utilsModule)] ++
    c.output.externalTypes ++
    m.types.map (fun d => (d.name, c.output.typesModule)) ++
    [(emptyName, c.output.outputsModule)] ++
    m.outputs.map fun d => (d.name, c.output.outputsModule)

/-- The module that provides a class, as modules of the same package import it. -/
def moduleOf? (c : Config) (m : Model) (name : String) : Option String :=
  ((m.providers c).lookup name).map fun module => "." ++ module

end Model

end RpcBindings
