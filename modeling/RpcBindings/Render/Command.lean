import RpcBindings.Command.Overload
import RpcBindings.Render.Basic
import RpcBindings.Text.Literal
import RpcBindings.Text.Prose
import RpcBindings.Text.Wrap

/-!
# Rendered commands

A command becomes a dataclass with a field for each argument.  If it has exclusive groups it also
gets a signature for each way of calling it, and a constructor that checks the groups when it runs.

## Main definitions

* `Resolved.docText?` — help, notes on the groups, parameters and link.
* `Resolved.signature` — the signature of one overload.
* `Resolved.constructor` — the constructor that checks the groups.
* `Resolved.imports` — what the class needs.
* `Resolved.render` — the class.
-/

namespace RpcBindings

open Text Render

namespace Argument

/-- The declaration of the field, and its documentation as a literal. -/
def fieldText (a : Argument) : String :=
  let line := fieldLine a.name a.type a.default
  match a.doc with
  | some doc => joinLines [line, through Literal.quote doc]
  | none => line

/-- The parameter in the signature of an overload. -/
def parameter (a : Argument) : String :=
  a.name ++ ": " ++ a.type.render ++ if a.hasDefault then " = ..." else ""

/-- The description of the parameter in the docstring. -/
def description (a : Argument) : String :=
  through (rewrap · [' ', ' ', ' ', ' ']) (":param " ++ a.name ++ ": " ++ a.doc.getD "")

end Argument

namespace Resolved

/-- The arguments of a group, in order. -/
def members (r : Resolved) (g : Group) : List Argument :=
  r.command.argumentsOf (some g.name)

/-- The note on a group in the docstring. -/
def groupNote (r : Resolved) (g : Group) : String :=
  let names := (r.members g).map fun a => ":attr:`" ++ a.name ++ "`"
  if g.isRequired then "Exactly one of " ++ enumerate "or" names ++ " is required."
  else enumerate "and" names ++ " are mutually exclusive."

/-- The notes on all groups. -/
def groupNotes (r : Resolved) : String :=
  joinLines ("Note:" :: r.command.groups.map fun g => " - " ++ r.groupNote g)

/-- The text of the docstring, if there is anything to say, given the note with the link. -/
def docText? (r : Resolved) (link : Option String) : Option String :=
  let help := r.command.help.map (through (rewrap · []))
  let notes := if r.command.groups.isEmpty then none else some r.groupNotes
  let parameters :=
    if r.command.arguments.isEmpty then none
    else some (joinLines (r.command.arguments.map Argument.description))
  match [help, notes, parameters, link].filterMap id with
  | [] => none
  | parts => some (joinSections parts)

/-- The signature of one overload, on one line if it fits. -/
def signature (width : Nat) (parameters : List Argument) : String :=
  match parameters.map Argument.parameter with
  | [] => joinLines ["@overload", "def __init__(self): ..."]
  | ps =>
    let line := "def __init__(self, *, " ++ ", ".intercalate ps ++ "): ..."
    if 4 + line.length ≤ width then joinLines ["@overload", line]
    else
      joinLines <|
        ["@overload", "def __init__(", "    self,", "    *,"] ++
          ps.map (fun p => "    " ++ p ++ ",") ++ ["): ..."]

/-- The lines of the constructor that check one group. -/
def groupCheck (r : Resolved) (g : Group) : List String :=
  let names := (r.members g).map fun a => through Literal.quote a.name
  ["    match len(kwargs.keys() & (args := [" ++ ", ".intercalate names ++ "])):"] ++
    (if g.isRequired then
      ["        case 0:",
       "            raise ValueError(f\"One of \x7bargs!r\x7d is required!\")",
       "        case 1:"]
    else ["        case 0 | 1:"]) ++
    ["            pass",
     "        case _:",
     "            raise ValueError(f\"Arguments \x7bargs!r\x7d are mutually exclusive!\")"]

/-- The constructor, which sets the defaults and what is given, and checks the groups. -/
def constructor (r : Resolved) : String :=
  joinLines <|
    ["def __init__(self, **kwargs):",
     "    self.__dict__.update(\x7bf.name: f.default for f in fields(self) if f.default != MISSING\x7d)",
     "    self.__dict__.update(kwargs)"] ++
      r.command.groups.flatMap r.groupCheck

/-- The sections of the body, given the text of the docstring. -/
def sections (style : Style) (r : Resolved) (doc : Option String) : List String :=
  (doc.map (through Literal.docstring)).toList ++
    (if r.command.arguments.isEmpty then []
    else [joinLines (r.command.arguments.map Argument.fieldText)]) ++
    if r.overloads.isEmpty then []
    else r.overloads.map (signature style.lineLength) ++ [r.constructor]

/-- What the class needs. -/
def imports (r : Resolved) : Except Error Imports := do
  let base := (({} : Imports).add "dataclasses" "dataclass").reference "RpcCommand"
  let base ← base.referenceText r.command.output
  let withFields := r.command.arguments.foldl (fun i a => i.referenceType a.type) base
  if r.overloads.isEmpty then return withFields
  else
    let tools :=
      ((withFields.add "typing" "overload").add "dataclasses" "MISSING").add "dataclasses" "fields"
    return r.overloads.flatten.foldl (fun i a => i.referenceType a.type) tools

/-- The class of a command. -/
def render (style : Style) (r : Resolved) : Except Error Rendered := do
  let imports ← r.imports
  let link ← Link.note? style.sourceLink r.command.source
  let head := "class " ++ r.command.name ++ "(RpcCommand[" ++ r.command.output ++ "]):"
  return {
    name := r.command.name
    text := classText [decorator, head] (r.sections style (r.docText? link))
    imports }

end Resolved

end RpcBindings
