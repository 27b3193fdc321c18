import RpcBindings.Error
import RpcBindings.Sorted
import RpcBindings.TypeExpr
import RpcBindings.TypeExpr.Names

/-!
# Imports

What a declaration needs from other modules: names whose module is known, and references to
classes whose module is found when all declarations are known.

## Main definitions

* `Imports` — the needs of some declarations.
* `Imports.add`, `Imports.reference`, `Imports.merge` — adding to the needs.
* `Imports.referenceType`, `Imports.referenceText` — the needs of a type and of a written type.
* `Imports.block` — the import statements.
-/

namespace RpcBindings

/-- The needs of some declarations. -/
structure Imports where
  /-- The names to import, by module; both are sorted. -/
  modules : List (String × List String) := []
  /-- The classes whose module is not known yet, sorted. -/
  references : List String := []
  deriving DecidableEq, Repr

namespace Imports

/-- Adds a name of a module. -/
def add (module name : String) (i : Imports) : Imports :=
  let names := (Sorted.get? module i.modules).getD []
  { i with modules := Sorted.put module (Sorted.insert name names) i.modules }

/-- Adds a class whose module is not known yet. -/
def reference (name : String) (i : Imports) : Imports :=
  { i with references := Sorted.insert name i.references }

/-- Adds several classes whose modules are not known yet. -/
def referenceAll (names : List String) (i : Imports) : Imports :=
  names.foldl (fun i n => i.reference n) i

/-- Adds several names of a module. -/
def addAll (module : String) (names : List String) (i : Imports) : Imports :=
  names.foldl (fun i n => i.add module n) i

/-- The needs of both. -/
def merge (i j : Imports) : Imports :=
  (j.modules.foldl (fun i p => i.addAll p.1 p.2) i).referenceAll j.references

/-- The classes that a type refers to. -/
def classesOf (t : TypeExpr) : List String :=
  (if t.usesNonEmptyTuple then ["NonEmptyTuple"] else []) ++ t.references.filterMap List.head?

/-- Adds what a type needs. -/
def referenceType (t : TypeExpr) (i : Imports) : Imports :=
  (if t.usesLiteral then i.add "typing" "Literal" else i).referenceAll (classesOf t)

/-- The names of a written type that come from the module `typing`. -/
def typingNames : List String :=
  ["Any", "Literal"]

/-- Adds what a name of a written type needs. -/
def referenceName (name : String) (i : Imports) : Imports :=
  if typingNames.contains name then i.add "typing" name else i.reference name

/-- Adds what a written type needs. -/
def referenceText (text : String) (i : Imports) : Except Error Imports :=
  match TypeExpr.namesIn? text with
  | some names => .ok (names.foldl (fun i n => i.referenceName n) i)
  | none => .error (.config (.notType text))

/-! ### Import statements -/

/-- The module whose imports come first. -/
def future : String :=
  "__future__"

/-- Whether a module belongs to the same package. -/
def isRelative (module : String) : Bool :=
  module.toList.head? == some '.'

/-- One statement; if it is wider than `width`, every name gets a line of its own. -/
def statement (width : Nat) (module : String) (names : List String) : String :=
  let line := "from " ++ module ++ " import " ++ ", ".intercalate names
  if line.length ≤ width then line
  else
    "from " ++ module ++ " import (\n" ++
      String.join (names.map fun n => "    " ++ n ++ ",\n") ++ ")"

/-- The modules with the property, as statements on consecutive lines. -/
def group (width : Nat) (i : Imports) (p : String → Bool) : String :=
  "\n".intercalate <| (i.modules.filter fun m => p m.1).map fun m => statement width m.1 m.2

/-- The import statements, with blank lines between three groups: the `__future__` of the language,
the standard library, and the modules of the same package. -/
def block (width : Nat) (i : Imports) : String :=
  let groups :=
    [i.group width fun m => m == future,
     i.group width fun m => m != future && !isRelative m,
     i.group width fun m => m != future && isRelative m]
  "\n\n".intercalate (groups.filter fun g => !g.isEmpty)

end Imports

end RpcBindings
