import RpcBindings.Command
import RpcBindings.Error

/-!
# Overloads

From the exclusive groups of a command follow the ways in which it can be called.  A group of one
member is no group, every other group needs two members at least, and each way of choosing from the
groups is an overload of the constructor.

## Main definitions

* `Command.dissolve` — the command without its groups of one member.
* `Command.check` — what is inconsistent in the groups of a command.
* `Command.choices` — the ways of choosing from the groups, with the arguments they give.
* `Resolved`, `Command.resolve` — a command with its overloads.
-/

namespace RpcBindings

/-- A command that is ready to be rendered. -/
structure Resolved where
  /-- The command, its arguments without a default in front. -/
  command : Command
  /-- The parameters of each overload; none if one signature will do. -/
  overloads : List (List Argument)
  deriving DecidableEq, Repr

namespace Group

/-- Whether the group has a single member. -/
def isSingle (g : Group) : Bool :=
  g.members.length == 1

end Group

namespace Argument

/-- The argument after a group of one member has been dissolved: if it belongs to the group it
leaves it, and has to be given if the group was required. -/
def leave (g : Group) (a : Argument) : Argument :=
  if a.group = some g.name then
    { (if g.isRequired then a.mandatory else a) with group := none }
  else a

end Argument

namespace Command

/-- The command without its groups of one member. -/
def dissolve (c : Command) : Command :=
  { c with
    groups := c.groups.filter fun g => !g.isSingle
    arguments := (c.groups.filter Group.isSingle).foldl
      (fun as g => as.map (Argument.leave g)) c.arguments }

/-- What is inconsistent in a group of a command. -/
def conflictOf? (c : Command) (g : Group) : Option Conflict :=
  if g.members.length < 2 then some (.tooFewMembers g.name g.members.length)
  else (g.members.find? fun m => !c.hasArgument m).map (.unknownMember g.name)

/-- The first inconsistency in the groups of a command, as an error. -/
def check (c : Command) : Except Error Unit :=
  match c.groups.findSome? c.conflictOf? with
  | some conflict => .error (.inconsistent c.name conflict)
  | none => .ok ()

/-- The arguments of a group, or those outside of all groups. -/
def argumentsOf (c : Command) (group : Option String) : List Argument :=
  c.arguments.filter fun a => a.group == group

/-- The groups that occur on arguments, in order of their first argument. -/
def groupOrder (c : Command) : List (Option String) :=
  (c.arguments.map Argument.group).eraseDups

/-- What a group can give to a call: one of its arguments, or nothing if the group is not required.
The arguments outside of all groups are given together. -/
def possibilities (c : Command) : Option String → Except Error (List (List Argument))
  | none => .ok [c.argumentsOf none]
  | some name =>
    match c.group? name with
    | none => .error (.inconsistent c.name (.unknownGroup name))
    | some g =>
      let chosen := (c.argumentsOf (some name)).map fun a => [a.mandatory]
      .ok (if g.isRequired then chosen else [] :: chosen)

/-- The ways to take one item of each list, one after another; the last list varies fastest. -/
def combinations : List (List (List Argument)) → List (List Argument)
  | [] => [[]]
  | options :: rest =>
    options.flatMap fun option => (combinations rest).map fun tail => option ++ tail

/-- The ways of choosing from the groups, with the arguments that they give. -/
def choices (c : Command) : Except Error (List (List Argument)) :=
  (c.groupOrder.mapM c.possibilities).map combinations

/-- The overloads of a command whose arguments are in order. -/
def overloads (c : Command) : Except Error (List (List Argument)) :=
  c.choices.map fun ways => if ways.length = 1 then [] else ways.map mandatoryFirst

/-- The command with its groups dissolved and checked, its arguments in order, and its overloads. -/
def resolve (c : Command) : Except Error Resolved := do
  let d := c.dissolve
  d.check
  let sorted := { d with arguments := mandatoryFirst d.arguments }
  let overloads ← sorted.overloads
  return ⟨sorted, overloads⟩

end Command

end RpcBindings
