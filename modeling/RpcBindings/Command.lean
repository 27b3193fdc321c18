import RpcBindings.TypeExpr

/-!
# Commands

The model of a command: its arguments, and the groups of arguments of which at most one may be
given.

## Main definitions

* `Argument`, `Group`, `Command` — the model.
* `Argument.mandatory` — an argument that has to be given.
* `mandatoryFirst` — arguments without a default in front.
-/

namespace RpcBindings

/-- An argument of a command. -/
structure Argument where
  /-- The exclusive group it belongs to, if any. -/
  group : Option String
  name : String
  doc : Option String := none
  type : TypeExpr := .str
  /-- Whether it may be left out although it has no default. -/
  isOptional : Bool := true
  default : Option Default := none
  deriving DecidableEq, Repr

/-- Arguments of which at most one may be given, or exactly one if the group is required. -/
structure Group where
  name : String
  isRequired : Bool
  /-- The names of its arguments, in order of registration. -/
  members : List String := []
  deriving DecidableEq, Repr

/-- A command. -/
structure Command where
  /-- The name in `PascalCase`. -/
  name : String
  help : Option String
  arguments : List Argument
  groups : List Group
  /-- The type of the result, as written in the configuration. -/
  output : String
  /-- The path of the Java file. -/
  source : String
  deriving DecidableEq, Repr

namespace Argument

/-- Whether the argument has a default. -/
def hasDefault (a : Argument) : Bool :=
  a.default.isSome

/-- A type that has to be given: without `None`, and `True` in place of any `bool`. -/
def mandatoryType (t : TypeExpr) : TypeExpr :=
  let narrowed := t.withoutNone
  if narrowed = .bool then .literalTrue else narrowed

/-- The argument when it has to be given: neither optional nor with a default. -/
def mandatory (a : Argument) : Argument :=
  { a with isOptional := false, default := none, type := mandatoryType a.type }

end Argument

/-- The arguments without a default in front of the others; the order is kept within each half. -/
def mandatoryFirst (as : List Argument) : List Argument :=
  as.filter (fun a => !a.hasDefault) ++ as.filter Argument.hasDefault

namespace Command

/-- The group of a name. -/
def group? (c : Command) (name : String) : Option Group :=
  c.groups.find? fun g => g.name == name

/-- Whether an argument of that name exists. -/
def hasArgument (c : Command) (name : String) : Bool :=
  c.arguments.any fun a => a.name == name

end Command

end RpcBindings
