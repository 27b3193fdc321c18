import RpcBindings.Imports
import RpcBindings.Render.Link
import RpcBindings.Text.Basic
import RpcBindings.Text.Lines

/-!
# Rendered declarations

## Main definitions

* `Style` — the choices that a reader of the generated modules can make.
* `Rendered` — the text of a class together with what it needs.
* `classText` — a class from its head and the sections of its body.
-/

namespace RpcBindings

open Text

/-- How declarations are laid out. -/
structure Style where
  /-- The width up to which a signature or an import stays on one line. -/
  lineLength : Nat := 100
  /-- The template of the link to a Java file. -/
  sourceLink : Option String := none
  deriving DecidableEq, Repr

/-- The text of a class together with what it needs. -/
structure Rendered where
  name : String
  text : String
  imports : Imports
  deriving DecidableEq, Repr

namespace Render

/-- Lines that follow one another. -/
def joinLines (lines : List String) : String :=
  "\n".intercalate lines

/-- Sections with a blank line between each two. -/
def joinSections (sections : List String) : String :=
  "\n\n".intercalate sections

/-- The body of a class: its sections, or `pass` if there are none. -/
def body (sections : List String) : String :=
  if sections.isEmpty then "pass" else joinSections sections

/-- A class: the lines of its head, and its sections four columns to the right. -/
def classText (head : List String) (sections : List String) : String :=
  joinLines (head ++ [through (indent 4) (body sections)])

/-- The decorator of the classes that hold data. -/
def decorator : String :=
  "@dataclass(frozen=True, kw_only=True)"

/-- The declaration of a field: its name, its type and its default. -/
def fieldLine (name : String) (type : TypeExpr) (default : Option Default) : String :=
  match default with
  | some d => name ++ ": " ++ type.render ++ " = " ++ d.render
  | none => name ++ ": " ++ type.render

end Render

end RpcBindings
