import RpcBindings.Proofs.Registration

/-!
# Leaving arguments out

A configuration can leave arguments of a command out.  Whether an argument is left out is decided
when it has been read completely, and what is left out still counts for nothing else: reading a file
with the exclusions is reading it without them and deleting the excluded arguments at the end.

## Main definitions

* `Command.without`, `Draft.without` — without the arguments of certain names.
* `CommandTable.inclusive` — the same settings without exclusions.

## Main results

* `Draft.step_without` — one statement has the same effect on what is left.
* `Command.exclusion_only_removes` — **excluding arguments deletes them and changes nothing else.**
-/

namespace RpcBindings

open Fallible Source

/-- The group without the members of certain names. -/
def Group.without (p : String → Bool) (g : Group) : Group :=
  { g with members := g.members.filter fun name => !p name }

/-- The draft without the arguments of certain names. -/
def Draft.without (p : String → Bool) (d : Draft) : Draft :=
  { d with
    arguments := d.arguments.filter fun a => !p a.name
    groups := d.groups.map (Group.without p) }

/-- The command without the arguments of certain names. -/
def Command.without (p : String → Bool) (c : Command) : Command :=
  { c with
    arguments := c.arguments.filter fun a => !p a.name
    groups := c.groups.map (Group.without p) }

/-- The same settings without exclusions. -/
def CommandTable.inclusive (table : CommandTable) : CommandTable :=
  { table with excludedArgs := [] }

/-- The same registration without exclusions. -/
def Registration.inclusive (r : Registration) : Registration :=
  { r with table := r.table.inclusive }

/-- Whether an argument of the command is left out. -/
def Registration.excludes (r : Registration) (name : String) : Bool :=
  r.table.isExcluded r.command name

/-! ### One statement -/

theorem Registration.not_excludes_inclusive (r : Registration) (name : String) :
    r.inclusive.table.isExcluded r.inclusive.command name = false := rfl

/-- An argument is read in the same way whether or not it is left out afterwards. -/
theorem Registration.argumentOf_inclusive (r : Registration) (gs : List Group) (call : Call)
    (chain : List Call) : r.inclusive.argumentOf gs call chain = r.argumentOf gs call chain := rfl

namespace Draft

variable {r : Registration} {p : String → Bool}

@[simp] theorem any_name_without (d : Draft) (name : String) :
    ((d.without p).groups.any fun g => g.name == name) = d.groups.any fun g => g.name == name := by
  rw [without, List.any_map]
  rfl

/-- The groups without some members are the groups on which arguments can be registered. -/
theorem argumentOf_without (d : Draft) (call : Call) (chain : List Call) :
    r.argumentOf (d.without p).groups call chain = r.argumentOf d.groups call chain := by
  have hgroup : r.groupOf (d.without p).groups call = r.groupOf d.groups call := by
    unfold Registration.groupOf
    cases call.receiver with
    | none => rfl
    | some receiver => simp only [any_name_without]
  rw [Registration.argumentOf, Registration.argumentOf, hgroup]

/-- An argument that is deleted need not be added. -/
theorem without_addArgument (d : Draft) (a : Argument) :
    (d.addArgument a).without p
      = if p a.name then d.without p else (d.without p).addArgument a := by
  unfold without addArgument
  rw [List.map_map, List.filter_append]
  cases hp : p a.name with
  | true =>
    have hmember : ∀ g : Group,
        Group.without p (if a.group = some g.name then g.add a.name else g) = g.without p := by
      intro g
      split
      · simp [Group.without, Group.add, List.filter_append, hp]
      · rfl
    simp [hp, hmember, Function.comp_def]
  | false =>
    have hmember : ∀ g : Group,
        Group.without p (if a.group = some g.name then g.add a.name else g)
          = if a.group = some g.name then (g.without p).add a.name else g.without p := by
      intro g
      split
      · simp [Group.without, Group.add, List.filter_append, hp]
      · rfl
    have hname : ∀ g : Group, (g.without p).name = g.name := fun _ => rfl
    simp [hp, hmember, hname, Function.comp_def]

theorem addGroup_without (d : Draft) (command : String) {g : Group} (hg : g.members = []) :
    (d.without p).addGroup command g = (d.addGroup command g).map (without p) := by
  unfold addGroup
  rw [any_name_without]
  split
  · rfl
  · have hself : Group.without p g = g := by rw [Group.without, hg]; cases g; cases hg; rfl
    simp [Except.map, without, hself]

/-- **One statement has the same effect on what is left**: it fails with the same error, or what it
leaves is what it leaves without exclusions, less the excluded arguments. -/
theorem step_without (r : Registration) (d : Draft) (s : Node) :
    (d.without r.excludes).step r s = (d.step r.inclusive s).map (without r.excludes) := by
  -- the rules are the same in both; only the second one looks at the exclusions
  have hhelp : r.inclusive.helpCall? s = r.helpCall? s := rfl
  have htext : ∀ call, r.inclusive.helpText s call = r.helpText s call := fun _ => rfl
  have hdeclared : r.inclusive.groupDeclared? s = r.groupDeclared? s := rfl
  unfold step
  rw [hhelp, hdeclared]
  cases r.helpCall? s with
  | some call =>
    simp only [htext]
    cases r.helpText s call with
    | error e => rfl
    | ok text => rfl
  | none =>
    cases Registration.argumentCall? s with
    | some position =>
      simp only
      cases Call.ofNode? position.node with
      | none => rfl
      | some call =>
        simp only [register, argumentOf_without, Registration.argumentOf_inclusive,
          Registration.not_excludes_inclusive]
        cases r.argumentOf d.groups call position.chain with
        | error e => rfl
        | ok a =>
          simp only [Except.map, Bool.false_eq_true, if_false, without_addArgument]
          rfl
    | none =>
      simp only
      cases hg : r.groupDeclared? s with
      | error e => rfl
      | ok g =>
        cases g with
        | none => rfl
        | some g => exact addGroup_without d r.command (members_of_groupDeclared? hg)

/-- Several statements have the same effect on what is left. -/
theorem steps_without (r : Registration) (d : Draft) (ss : List Node) :
    (d.without r.excludes).steps r ss = (d.steps r.inclusive ss).map (without r.excludes) :=
  foldlM_commute (fun d s => step_without r d s) ss d

end Draft

namespace Command

/-- **Excluding arguments deletes them and changes nothing else.**  A file is read with the same
outcome as without exclusions, be it an error, no command or a command; from the command, exactly
the arguments whose names are excluded are deleted, and from each group their names. -/
theorem exclusion_only_removes (table : CommandTable) (file : File) :
    ofFile? table file
      = (ofFile? table.inclusive file).map
          (Option.map fun c => c.without (table.isExcluded c.name)) := by
  have hclass : classIn? file.root table.inclusive.interface
      = classIn? file.root table.interface := rfl
  unfold ofFile?
  rw [hclass]
  cases classIn? file.root table.interface with
  | none => rfl
  | some declaration =>
    simp only
    cases nameOf file.path declaration with
    | error e => rfl
    | ok name =>
      cases name with
      | none => rfl
      | some name =>
        simp only
        cases methodOf? declaration "attachToSubparser" with
        | none => rfl
        | some method =>
          simp only [ofMethod]
          cases firstParameter? method with
          | none => rfl
          | some parser =>
            cases method.child? .body with
            | none => rfl
            | some body =>
              -- both runs start from the empty draft, from which nothing can be deleted
              have hsteps : Draft.steps ⟨table, file.path, name, parser⟩ {} body.members
                  = (Draft.steps ⟨table.inclusive, file.path, name, parser⟩ {} body.members).map
                      (Draft.without (table.isExcluded name)) :=
                Draft.steps_without ⟨table, file.path, name, parser⟩ {} body.members
              simp only [hsteps]
              cases Draft.steps ⟨table.inclusive, file.path, name, parser⟩ {} body.members with
              | error e => rfl
              | ok d => rfl

end Command

end RpcBindings
