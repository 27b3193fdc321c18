import RpcBindings.Record
import RpcBindings.Render.Basic
import RpcBindings.Text.Literal

/-!
# Rendered records and enums

A record becomes a dataclass with the classes that it nests inside of it; an enum becomes a class of
strings.  A deprecated field is shadowed by a property that only type checkers see.

## Main definitions

* `Declaration.imports` — what a declaration and those it nests need.
* `Declaration.text` — the class without its link.
* `Declaration.render` — the class.
* `emptyOutput` — the class for commands without output.
-/

namespace RpcBindings

open Text Render

namespace Field

/-- The declaration of the field. -/
def line (f : Field) : String :=
  fieldLine f.name f.type f.default

/-- The property that marks a deprecated field for type checkers. -/
def deprecation (f : Field) : List String :=
  ["if TYPE_CHECKING:", "", "    @property", "    @deprecated(\"Deprecated\")",
   "    def " ++ f.name ++ "(self) -> " ++ f.type.render ++ ": ..."]

/-- The lines of several fields.  A blank line follows a deprecated field unless it is the last. -/
def lines : List Field → List String
  | [] => []
  | f :: fs =>
    let mark := if f.deprecated then f.deprecation ++ (if fs.isEmpty then [] else [""]) else []
    f.line :: mark ++ lines fs

/-- Adds what a field needs. -/
def addTo (i : Imports) (f : Field) : Imports :=
  let i := i.referenceType f.type
  if f.deprecated then (i.add "typing" "TYPE_CHECKING").add "warnings" "deprecated" else i

end Field

namespace Declaration

mutual

/-- What a declaration and those it nests need. -/
def imports : Declaration → Imports
  | record _ fields nested _ =>
    (fields.foldl Field.addTo (({} : Imports).add "dataclasses" "dataclass")).merge
      (importsOfAll nested)
  | enumeration _ members _ =>
    let base := ({} : Imports).add "enum" "StrEnum"
    if members.isEmpty then base else base.add "enum" "auto"

/-- What several declarations need. -/
def importsOfAll : List Declaration → Imports
  | [] => {}
  | d :: ds => d.imports.merge (importsOfAll ds)

end

/-- The lines above the body of a declaration. -/
def head : Declaration → List String
  | record n _ _ _ => [decorator, "class " ++ n ++ ":"]
  | enumeration n _ _ => ["class " ++ n ++ "(StrEnum):"]

/-- The section with the fields of a record. -/
def fieldSection (fields : List Field) : List String :=
  if fields.isEmpty then [] else [joinLines (Field.lines fields)]

/-- The section with the members of an enum. -/
def memberSection (members : List String) : List String :=
  if members.isEmpty then [] else [joinLines (members.map fun m => m ++ " = auto()")]

mutual

/-- The class of a declaration; `note` stands at the start of its body. -/
def text (note : List String) : Declaration → String
  | record n fields nested s =>
    classText (head (record n fields nested s)) (note ++ fieldSection fields ++ texts nested)
  | enumeration n members s =>
    classText (head (enumeration n members s)) (note ++ memberSection members)

/-- The classes of nested declarations. -/
def texts : List Declaration → List String
  | [] => []
  | d :: ds => text [] d :: texts ds

end

/-- The class of a declaration that is not nested, with the link to its Java file. -/
def render (style : Style) (d : Declaration) : Except Error Rendered := do
  let link ← Link.note? style.sourceLink d.source
  let note := (link.map (through Literal.quoteLine)).toList
  return { name := d.name, text := d.text note, imports := d.imports }

end Declaration

/-- The class for commands without output. -/
def emptyOutput : Rendered where
  name := "Empty"
  text := joinLines
    ["@dataclass(frozen=True)",
     "class Empty:",
     "    \"\"\"",
     "    Output type for commands which produce no output.",
     "",
     "    signal-cli answers these commands with an empty JSON object.",
     "    \"\"\""]
  imports := ({} : Imports).add "dataclasses" "dataclass"

end RpcBindings
