import RpcBindings.Text.Basic
import RpcBindings.Text.Literal

/-!
# Modules

A module is laid out as its header, its imports, its declarations, and the list `__all__` of the
names that it exports.

## Main definitions

* `ModuleLayout` — the parts of a module.
* `ModuleLayout.text` — the text of a module.
-/

namespace RpcBindings

open Text

/-- The parts of a module; the first two may be empty. -/
structure ModuleLayout where
  header : String
  imports : String
  declarations : List String
  exports : List String
  deriving DecidableEq, Repr

namespace ModuleLayout

/-- A part with the blank lines after it, unless it is empty. -/
def part (text gap : String) : String :=
  if text.isEmpty then "" else text ++ gap

/-- The list of the exported names. -/
def exportList (names : List String) : String :=
  if names.isEmpty then "__all__ = []"
  else
    "__all__ = [" ++ String.join (names.map fun n => "\n    " ++ through Literal.quote n ++ ",") ++
      "\n]"

/-- The text of a module. -/
def text (m : ModuleLayout) : String :=
  part m.header "\n\n" ++ part m.imports "\n\n\n" ++
    String.join (m.declarations.map fun d => d ++ "\n\n\n") ++ exportList m.exports ++ "\n"

end ModuleLayout

end RpcBindings
