import RpcBindings.Config
import RpcBindings.Error
import RpcBindings.Render.Link
import RpcBindings.Text.Identifier
import RpcBindings.TypeExpr.Names

/-!
# Checked configurations

## Main definitions

* `Config.check` — the first fault of a configuration.
-/

namespace RpcBindings

open Text

namespace OutputLayout

/-- The keys and values of the module names. -/
def moduleNames (o : OutputLayout) : List (String × String) :=
  [("commands_module", o.commandsModule), ("outputs_module", o.outputsModule),
   ("types_module", o.typesModule), ("session_module", o.sessionModule),
   ("utils_module", o.utilsModule)]

/-- The least line length. -/
def minLineLength : Nat := 40

end OutputLayout

/-- The first fault of module names, which must be identifiers and differ from each other and from
those before. -/
def moduleFault? (before : List String) : List (String × String) → Option Setting
  | [] => none
  | (key, name) :: rest =>
    if !Identifier.isAsciiName name.toList then some (.notIdentifier key name)
    else if before.contains name then some (.moduleUsedTwice key name)
    else moduleFault? (name :: before) rest

/-- The fault of a written result type. -/
def outputFault? (text : String) : Option Setting :=
  if (TypeExpr.namesIn? text).isNone then some (.notType text) else none

namespace Config

/-- The first fault of a configuration apart from its template. -/
def fault? (c : Config) : Option Setting :=
  match moduleFault? [] c.output.moduleNames with
  | some fault => some fault
  | none =>
    if c.output.lineLength < OutputLayout.minLineLength then
      some (.lineTooShort c.output.lineLength)
    else if c.commands.interface.isEmpty then some .noInterface
    else if (trim c.commands.defaultOutput.toList).isEmpty then some .noDefaultOutput
    else (c.commands.outputs.map Prod.snd ++ [c.commands.defaultOutput]).findSome? outputFault?

/-- Refuses a configuration with a fault. -/
def check (c : Config) : Except Error Unit :=
  match c.fault? with
  | some fault => .error (.config fault)
  | none => match c.output.sourceLink with
    | some template => Link.check template
    | none => .ok ()

end Config

end RpcBindings
