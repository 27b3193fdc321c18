import RpcBindings.Proofs.Registration

/-!
# Registered commands can be resolved

Resolving a command relies on its groups: every group lists arguments of the command, and every
argument is in a group of the command or in none.  A registration keeps both from its first
statement on, so that only one thing can be wrong with a command that a file declares: a group on
which nothing was registered, or whose arguments were all left out.

## Main definitions

* `Command.Consistent` — groups and arguments of a command agree.
* `Command.emptyGroup?` — the first group without members.

## Main results

* `Command.Consistent.resolve_eq_error_iff` — resolving a consistent command fails exactly for a
  group without members.
* `Command.registered_commands_consistent` — **a registration keeps groups and arguments
  consistent**, and its command can be resolved unless a group has no member.
-/

namespace RpcBindings

open Fallible Source

namespace Command

variable {c : Command} {a : Argument} {g : Group} {name : String}

/-- Each group lists the arguments that carry it, no two groups share a name, and no argument
carries a group that does not exist. -/
structure Consistent (c : Command) : Prop extends c.Grouped where
  known : ∀ a ∈ c.arguments, ∀ name, a.group = some name → name ∈ c.groups.map Group.name

/-! ### The dissolved command -/

/-- Dissolving groups renames no argument. -/
theorem hasArgument_dissolve (c : Command) (name : String) :
    c.dissolve.hasArgument name = c.hasArgument name := by
  rw [hasArgument, hasArgument, arguments_dissolve, List.any_map]
  congr 1
  funext a
  rw [Function.comp_apply, Argument.name_settle]

/-- A member of a group is an argument of the command. -/
theorem Consistent.hasArgument (h : c.Consistent) (hg : g ∈ c.groups) (hname : name ∈ g.members) :
    c.hasArgument name = true := by
  rw [h.members_eq g hg] at hname
  obtain ⟨a, ha, rfl⟩ := List.mem_map.mp hname
  exact List.any_eq_true.mpr ⟨a, (mem_argumentsOf.mp ha).1, beq_self_eq_true _⟩

/-- A group that is left after groups have been dissolved conflicts with nothing but the demand for
members. -/
theorem Consistent.conflictOf?_dissolve (h : c.Consistent) (hg : g ∈ c.dissolve.groups) :
    c.dissolve.conflictOf? g
      = if g.members.isEmpty then some (.tooFewMembers g.name 0) else none := by
  obtain ⟨hmem, hlen⟩ := mem_groups_dissolve.mp hg
  unfold conflictOf?
  split
  · next htwo =>
    have hzero : g.members = [] := List.length_eq_zero_iff.mp (by omega)
    rw [hzero]
    rfl
  · next htwo =>
    have hne : g.members.isEmpty = false := by
      rw [List.isEmpty_eq_false_iff]
      rintro hnil
      rw [hnil] at htwo
      exact htwo (by decide)
    rw [hne, if_neg Bool.false_ne_true, Option.map_eq_none_iff, List.find?_eq_none]
    intro name hname
    rw [hasArgument_dissolve, h.hasArgument hmem hname]
    decide

/-- Every group that occurs on an argument of the dissolved command is a group of it. -/
theorem Consistent.knows_dissolve (h : c.Consistent) :
    ∀ k ∈ c.dissolve.ordered.groupOrder, c.dissolve.ordered.knows k = true := by
  intro k hk
  cases k with
  | none => rfl
  | some name =>
    rw [groupOrder, List.mem_eraseDups] at hk
    obtain ⟨b, hb, hgroup⟩ := List.mem_map.mp hk
    have hb : b ∈ c.dissolve.arguments := mem_mandatoryFirst.mp hb
    rw [arguments_dissolve] at hb
    obtain ⟨a, ha, rfl⟩ := List.mem_map.mp hb
    -- the argument still carries a group, so that it was not touched
    have hself : a.settle (c.groups.filter Group.isSingle) = a :=
      Argument.settle_eq_self_of_group (by rw [hgroup]; exact Option.some_ne_none _)
    rw [hself] at hgroup
    obtain ⟨g, hg, hname⟩ := List.mem_map.mp (h.known a ha name hgroup)
    have hkept : g ∈ c.dissolve.groups := by
      rw [mem_groups_dissolve]
      refine ⟨hg, fun hlen => ?_⟩
      have hsingle : g ∈ c.groups.filter Group.isSingle :=
        List.mem_filter.mpr ⟨hg, by simpa [Group.isSingle] using hlen⟩
      have hnone := Argument.group_settle_of_mem hsingle (hgroup.trans (by rw [hname]))
      rw [hself, hgroup] at hnone
      cases hnone
    rw [knows, group?, List.find?_isSome]
    exact ⟨g, hkept, by simpa using hname⟩

/-! ### Failing resolutions -/

/-- The first group without members. -/
def emptyGroup? (c : Command) : Option Group :=
  c.groups.find? fun g => g.members.isEmpty

theorem emptyGroup?_eq_some (h : c.emptyGroup? = some g) : g ∈ c.groups ∧ g.members = [] :=
  ⟨List.mem_of_find?_eq_some h, by simpa using List.find?_some h⟩

theorem exists_emptyGroup?_iff :
    (∃ g, c.emptyGroup? = some g) ↔ ∃ g ∈ c.groups, g.members = [] := by
  rw [← Option.isSome_iff_exists, emptyGroup?, List.find?_isSome]
  simp

/-- A group without members is not dissolved. -/
theorem emptyGroup?_dissolve (c : Command) : c.dissolve.emptyGroup? = c.emptyGroup? := by
  rw [emptyGroup?, emptyGroup?, dissolve, List.find?_filter]
  congr 1
  funext g
  cases hm : g.members with
  | nil => simp [Group.isSingle, hm]
  | cons => simp

/-- What is reported first for some members of a list is reported for the first of them. -/
theorem findSome?_eq_map_find? {α β : Type} {k : α → Option β} {p : α → Bool} {f : α → β}
    {xs : List α} (h : ∀ x ∈ xs, k x = if p x then some (f x) else none) :
    xs.findSome? k = (xs.find? p).map f := by
  induction xs with
  | nil => rfl
  | cons x xs ih =>
    obtain ⟨hx, hxs⟩ := List.forall_mem_cons.mp h
    rw [List.findSome?_cons, List.find?_cons, hx, ih hxs]
    cases p x with
    | true => rfl
    | false => rfl

/-- The check reports the first group without members. -/
theorem Consistent.check_dissolve (h : c.Consistent) :
    c.dissolve.check = match c.emptyGroup? with
      | some g => .error (.inconsistent c.name (.tooFewMembers g.name 0))
      | none => .ok () := by
  rw [check, findSome?_eq_map_find? fun g => h.conflictOf?_dissolve, ← emptyGroup?_dissolve,
    emptyGroup?]
  cases c.dissolve.groups.find? fun g => g.members.isEmpty with
  | none => rfl
  | some g => rfl

/-- **Resolving a consistent command** fails exactly when a group has no member, and reports the
first such group. -/
theorem Consistent.resolve_eq_error_iff (h : c.Consistent) {e : Error} :
    c.resolve = .error e ↔
      ∃ g, c.emptyGroup? = some g ∧ e = .inconsistent c.name (.tooFewMembers g.name 0) := by
  have hcheck := h.check_dissolve
  cases hempty : c.emptyGroup? with
  | some g =>
    rw [hempty] at hcheck
    have herror : c.resolve = .error (.inconsistent c.name (.tooFewMembers g.name 0)) := by
      rw [resolve, hcheck]
      rfl
    rw [herror]
    simp only [Except.error.injEq, Option.some.injEq, exists_eq_left']
    exact eq_comm
  | none =>
    rw [hempty] at hcheck
    -- with the check passed, the overloads can be computed
    obtain ⟨os, hos⟩ : ∃ os, c.dissolve.ordered.overloads = .ok os :=
      ⟨_, overloads_eq_ok_iff.mpr ⟨h.knows_dissolve, rfl⟩⟩
    have hok : c.resolve = .ok ⟨c.dissolve.ordered, os⟩ :=
      resolve_eq_ok_iff.mpr ⟨hcheck, rfl, hos⟩
    rw [hok]
    simp

/-- A consistent command can be resolved when each of its groups has a member. -/
theorem Consistent.exists_resolve_iff (h : c.Consistent) :
    (∃ r, c.resolve = .ok r) ↔ ∀ g ∈ c.groups, g.members ≠ [] := by
  constructor
  · rintro ⟨r, hr⟩ g hg hnil
    obtain ⟨g', hg'⟩ := exists_emptyGroup?_iff.mpr ⟨g, hg, hnil⟩
    have herror := h.resolve_eq_error_iff.mpr ⟨g', hg', rfl⟩
    rw [hr] at herror
    cases herror
  · intro hall
    cases hresolve : c.resolve with
    | ok r => exact ⟨r, rfl⟩
    | error e =>
      obtain ⟨g, hg, -⟩ := h.resolve_eq_error_iff.mp hresolve
      obtain ⟨hmem, hnil⟩ := emptyGroup?_eq_some hg
      exact absurd hnil (hall g hmem)

/-! ### Registered commands -/

/-- The command of a draft is as consistent as the draft. -/
theorem Consistent.of_grouped {r : Registration} {d : Draft} (h : d.Grouped) :
    (d.command r).Consistent where
  nodup := h.nodup
  members_eq := h.members_eq
  known := h.known

theorem consistent_of_ofFile? {table : CommandTable} {file : File}
    (h : ofFile? table file = .ok (some c)) : c.Consistent := by
  obtain ⟨m, d, -, hd, rfl⟩ := ofFile?_eq_ok_some_iff.mp h
  exact .of_grouped (Draft.grouped_steps hd ⟨by simp, by simp, by simp⟩)

/-- **A registration keeps groups and arguments consistent**, whatever statements it has gone
through.  Resolving the command that a file declares fails exactly when one of its groups has no
member, and then for that reason. -/
theorem registered_commands_consistent :
    (∀ (r : Registration) (ss : List Node) (d : Draft), Draft.steps r {} ss = .ok d → d.Grouped) ∧
    ∀ (table : CommandTable) (file : File) (c : Command), ofFile? table file = .ok (some c) →
      c.Consistent ∧
      ((∃ e, c.resolve = .error e) ↔ ∃ g ∈ c.groups, g.members = []) ∧
      ∀ e, c.resolve = .error e →
        ∃ g ∈ c.groups, g.members = [] ∧
          e = .inconsistent c.name (.tooFewMembers g.name 0) := by
  refine ⟨fun r ss d hd => Draft.grouped_steps hd ⟨by simp, by simp, by simp⟩, ?_⟩
  intro table file c hc
  have hconsistent := consistent_of_ofFile? hc
  refine ⟨hconsistent, ?_, fun e he => ?_⟩
  · rw [← exists_emptyGroup?_iff]
    simp only [hconsistent.resolve_eq_error_iff]
    constructor
    · rintro ⟨e, g, hg, -⟩
      exact ⟨g, hg⟩
    · rintro ⟨g, hg⟩
      exact ⟨_, g, hg, rfl⟩
  · obtain ⟨g, hg, rfl⟩ := hconsistent.resolve_eq_error_iff.mp he
    obtain ⟨hmem, hnil⟩ := emptyGroup?_eq_some hg
    exact ⟨g, hmem, hnil, rfl⟩

/-- A command with a group of two arguments and a group without any. -/
def emptyGroup : List String :=
  ["class SendCommand implements JsonRpcLocalCommand \x7b",
   "String getName() \x7b return \"send\"; \x7d",
   "void attachToSubparser(Subparser p) \x7b",
   "var to = p.addMutuallyExclusiveGroup();",
   "var body = p.addMutuallyExclusiveGroup();",
   "to.addArgument(\"--account\");",
   "to.addArgument(\"--group\");",
   "\x7d \x7d"]

theorem declares_emptyGroup :
    declares "SendCommand.java" emptyGroup (fun _ c =>
      c.name == "Send" && c.arguments.length == 2 &&
        c.groups.any fun g => g.members.isEmpty) = true := by
  exact declares_of_spelled (by repeat constructor) (by decide +kernel)

theorem emptyGroup_registered_commands_consistent :
    ∃ file c, File.ofText? "SendCommand.java" (ofLines emptyGroup) = some file ∧
      ofFile? {} file = .ok (some c) ∧ c.arguments.length = 2 ∧ c.Consistent ∧
        ∃ g, c.resolve = .error (.inconsistent "Send" (.tooFewMembers g 0)) := by
  obtain ⟨file, m, c, hfile, -, hc, h⟩ := exists_of_declares declares_emptyGroup
  simp only [Bool.and_eq_true, beq_iff_eq, List.any_eq_true, List.isEmpty_iff] at h
  obtain ⟨⟨hname, hlen⟩, hempty⟩ := h
  obtain ⟨hconsistent, hfails, hreason⟩ := registered_commands_consistent.2 {} file c hc
  obtain ⟨e, he⟩ := hfails.mpr hempty
  obtain ⟨g, -, -, rfl⟩ := hreason e he
  rw [hname] at he
  exact ⟨file, c, hfile, hc, hlen, hconsistent, g.name, he⟩

end Command

end RpcBindings
