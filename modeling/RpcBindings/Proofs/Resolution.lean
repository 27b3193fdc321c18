import RpcBindings.Command.Overload
import RpcBindings.Proofs.Fallible
import Mathlib.Data.List.Nodup
import Mathlib.Data.List.Perm.Basic

/-!
# Resolving a command

What a resolved command consists of, stated once so that no later proof opens `Command.resolve`.
Dissolving the groups of one member acts on each argument by itself, and the result of each step
that can fail is described by a total function together with the condition under which it is used.

## Main definitions

* `Argument.settle` — an argument after several groups have been dissolved.
* `Command.ordered` — the command with its arguments in order.
* `Command.offers` — what a group gives to a call, for a group that is known.
* `Command.Grouped` — each group lists the arguments that carry it, and no two share a name.
* `Command.sample` — a command with three groups, one of which is dissolved.

## Main results

* `Command.arguments_dissolve` — dissolving groups settles each argument.
* `Command.overloads_eq_ok_iff` — the overloads are the combinations of the offers.
* `Command.resolve_eq_ok_iff` — **the specification of `Command.resolve`.**
* `Command.two_le_length_argumentsOf` — each group of a resolved command has two arguments at least.
* `Command.exists_group_of_resolve` — each argument in a group belongs to a group of the command.
-/

namespace RpcBindings

open Fallible

/-! ### Settled arguments -/

namespace Argument

/-- The argument after the given groups have been dissolved. -/
def settle (gs : List Group) (a : Argument) : Argument :=
  gs.foldl (fun a g => a.leave g) a

@[simp] theorem settle_cons (g : Group) (gs : List Group) (a : Argument) :
    a.settle (g :: gs) = (a.leave g).settle gs := rfl

@[simp] theorem name_mandatory (a : Argument) : a.mandatory.name = a.name := rfl

@[simp] theorem name_leave (g : Group) (a : Argument) : (a.leave g).name = a.name := by
  unfold leave
  split
  · split <;> rfl
  · rfl

theorem leave_of_ne {g : Group} {a : Argument} (h : a.group ≠ some g.name) : a.leave g = a := by
  rw [leave, if_neg h]

theorem group_leave_of_eq {g : Group} {a : Argument} (h : a.group = some g.name) :
    (a.leave g).group = none := by
  rw [leave, if_pos h]

@[simp] theorem name_settle (gs : List Group) (a : Argument) : (a.settle gs).name = a.name := by
  induction gs generalizing a with
  | nil => rfl
  | cons g gs ih => rw [settle_cons, ih, name_leave]

/-- An argument of none of the groups stays as it is. -/
theorem settle_of_ne {gs : List Group} {a : Argument} (h : ∀ g ∈ gs, a.group ≠ some g.name) :
    a.settle gs = a := by
  induction gs with
  | nil => rfl
  | cons g gs ih =>
    rw [settle_cons, leave_of_ne (h g List.mem_cons_self)]
    exact ih fun g' hg' => h g' (List.mem_cons_of_mem _ hg')

/-- An argument of one of the groups ends up outside of all groups. -/
theorem group_settle_of_mem {gs : List Group} {a : Argument} {g : Group} (hg : g ∈ gs)
    (h : a.group = some g.name) : (a.settle gs).group = none := by
  induction gs generalizing a with
  | nil => simp at hg
  | cons g' gs ih =>
    rw [settle_cons]
    by_cases h' : a.group = some g'.name
    · -- it leaves its group here, and no later group takes it
      have hnone := group_leave_of_eq h'
      rw [settle_of_ne fun g'' _ => by rw [hnone]; exact Option.some_ne_none _ |>.symm]
      exact hnone
    · rw [leave_of_ne h']
      rcases List.mem_cons.mp hg with rfl | hg
      · exact absurd h h'
      · exact ih hg h

/-- An argument that is still in a group has not been touched. -/
theorem settle_eq_self_of_group {gs : List Group} {a : Argument}
    (h : (a.settle gs).group ≠ none) : a.settle gs = a := by
  refine settle_of_ne fun g hg heq => h ?_
  exact group_settle_of_mem hg heq

end Argument

/-! ### Arguments in order -/

theorem perm_mandatoryFirst (as : List Argument) : (mandatoryFirst as).Perm as := by
  have h := List.filter_append_perm Argument.hasDefault as
  exact List.perm_append_comm.trans h

@[simp] theorem mem_mandatoryFirst {a : Argument} {as : List Argument} :
    a ∈ mandatoryFirst as ↔ a ∈ as :=
  (perm_mandatoryFirst as).mem_iff

/-- Arguments without a default come before those with one. -/
theorem pairwise_mandatoryFirst (as : List Argument) :
    (mandatoryFirst as).Pairwise fun a b => a.hasDefault → b.hasDefault := by
  rw [mandatoryFirst, List.pairwise_append, List.pairwise_filter, List.pairwise_filter]
  refine ⟨?_, ?_, ?_⟩
  · refine List.pairwise_of_forall fun a b ha _ h => ?_
    rw [h] at ha
    simp at ha
  · exact List.pairwise_of_forall fun a b _ hb _ => hb
  · intro a _ b hb _
    exact (List.mem_filter.mp hb).2

/-- The order within each half is kept. -/
theorem filter_hasDefault_mandatoryFirst (b : Bool) (as : List Argument) :
    (mandatoryFirst as).filter (fun a => a.hasDefault == b)
      = as.filter (fun a => a.hasDefault == b) := by
  rw [mandatoryFirst, List.filter_append, List.filter_filter, List.filter_filter]
  cases b with
  | false => simp
  | true => simp

/-! ### The stages of a resolution -/

namespace Command

variable {c : Command}

/-- Dissolving the groups of one member settles each argument by itself. -/
theorem arguments_dissolve (c : Command) :
    c.dissolve.arguments = c.arguments.map (Argument.settle (c.groups.filter Group.isSingle)) := by
  unfold dissolve
  generalize c.groups.filter Group.isSingle = gs
  -- the folded function maps over all arguments; the lists of arguments are free in the induction
  suffices h : ∀ as : List Argument,
      gs.foldl (fun as g => as.map (Argument.leave g)) as = as.map (Argument.settle gs) from
    h c.arguments
  induction gs with
  | nil => intro as; exact (List.map_id as).symm
  | cons g gs ih =>
    intro as
    rw [List.foldl_cons, ih, List.map_map]
    rfl

/-- A group that is left after groups have been dissolved has more than one member or none. -/
theorem mem_groups_dissolve {g : Group} :
    g ∈ c.dissolve.groups ↔ g ∈ c.groups ∧ g.members.length ≠ 1 := by
  simp [dissolve, Group.isSingle]

/-- The check passes when every group has two members at least, and all of them exist. -/
theorem check_eq_ok_iff :
    c.check = .ok () ↔
      ∀ g ∈ c.groups, 2 ≤ g.members.length ∧ ∀ m ∈ g.members, c.hasArgument m := by
  have hgroup : ∀ g, c.conflictOf? g = none ↔
      2 ≤ g.members.length ∧ ∀ m ∈ g.members, c.hasArgument m := by
    intro g
    unfold conflictOf?
    split
    · next h =>
      constructor
      · intro h'; cases h'
      · rintro ⟨h', _⟩; omega
    · next h =>
      rw [Option.map_eq_none_iff, List.find?_eq_none]
      constructor
      · intro h'
        refine ⟨by omega, fun m hm => ?_⟩
        simpa using h' m hm
      · rintro ⟨_, h'⟩ m hm
        simp [h' m hm]
  simp only [← hgroup]
  rw [← List.findSome?_eq_none_iff, check]
  cases c.groups.findSome? c.conflictOf? with
  | none => simp
  | some conflict => simp

/-- The command with its arguments in order. -/
def ordered (c : Command) : Command :=
  { c with arguments := mandatoryFirst c.arguments }

/-- Whether a group is known; the arguments outside of all groups always are. -/
def knows (c : Command) : Option String → Bool
  | none => true
  | some name => (c.group? name).isSome

/-- Whether a group has to be chosen from. -/
def requires (c : Command) (name : String) : Bool :=
  (c.group? name).any Group.isRequired

/-- What a known group can give to a call. -/
def offers (c : Command) : Option String → List (List Argument)
  | none => [c.argumentsOf none]
  | some name =>
    let chosen := (c.argumentsOf (some name)).map fun a => [a.mandatory]
    if c.requires name then chosen else [] :: chosen

theorem possibilities_eq_ok_iff {k : Option String} {ways : List (List Argument)} :
    c.possibilities k = .ok ways ↔ c.knows k = true ∧ ways = c.offers k := by
  cases k with
  | none =>
    rw [possibilities, knows, offers]
    exact ⟨fun h => ⟨rfl, (Except.ok.inj h).symm⟩, fun h => by rw [h.2]⟩
  | some name =>
    rw [possibilities, knows, offers, requires]
    cases c.group? name with
    | none => simp
    | some g => exact ⟨fun h => ⟨rfl, (Except.ok.inj h).symm⟩, fun h => by rw [h.2]; rfl⟩

/-- The ways to call a command are the combinations of what its groups offer. -/
theorem choices_eq_ok_iff {ways : List (List Argument)} :
    c.choices = .ok ways ↔
      (∀ k ∈ c.groupOrder, c.knows k = true) ∧
        ways = combinations (c.groupOrder.map c.offers) := by
  rw [choices, map_eq_ok_iff]
  simp only [mapM_eq_ok_iff, possibilities_eq_ok_iff, forall₂_eq_map_iff]
  constructor
  · rintro ⟨_, ⟨hk, rfl⟩, rfl⟩
    exact ⟨hk, rfl⟩
  · rintro ⟨hk, rfl⟩
    exact ⟨_, ⟨hk, rfl⟩, rfl⟩

/-- **The overloads are the combinations of what the groups offer**, unless there is only one. -/
theorem overloads_eq_ok_iff {os : List (List Argument)} :
    c.overloads = .ok os ↔
      (∀ k ∈ c.groupOrder, c.knows k = true) ∧
        os = if (combinations (c.groupOrder.map c.offers)).length = 1 then []
          else (combinations (c.groupOrder.map c.offers)).map mandatoryFirst := by
  rw [overloads, map_eq_ok_iff]
  constructor
  · rintro ⟨ways, hways, rfl⟩
    obtain ⟨hk, rfl⟩ := choices_eq_ok_iff.mp hways
    exact ⟨hk, rfl⟩
  · rintro ⟨hk, rfl⟩
    exact ⟨_, choices_eq_ok_iff.mpr ⟨hk, rfl⟩, rfl⟩

/-- **The specification of `Command.resolve`.**  It succeeds when the dissolved command passes the
check and the overloads can be computed, and returns that command with its arguments in order. -/
theorem resolve_eq_ok_iff {r : Resolved} :
    c.resolve = .ok r ↔
      c.dissolve.check = .ok () ∧ r.command = c.dissolve.ordered ∧
        r.command.overloads = .ok r.overloads := by
  rw [resolve, bind_eq_ok_iff]
  constructor
  · rintro ⟨⟨⟩, hcheck, h⟩
    obtain ⟨os, hos, h⟩ := bind_eq_ok_iff.mp h
    cases h
    exact ⟨hcheck, rfl, hos⟩
  · rintro ⟨hcheck, hr, hos⟩
    refine ⟨(), hcheck, bind_eq_ok_iff.mpr ⟨r.overloads, ?_, ?_⟩⟩
    · rw [← hos, hr]
      rfl
    · cases r
      cases hr
      rfl

/-! ### Groups of a resolved command -/

theorem mem_argumentsOf {a : Argument} {k : Option String} :
    a ∈ c.argumentsOf k ↔ a ∈ c.arguments ∧ a.group = k := by
  simp [argumentsOf]

/-- Each group lists the arguments that carry it, and no two groups share a name. -/
structure Grouped (c : Command) : Prop where
  nodup : (c.groups.map Group.name).Nodup
  members_eq : ∀ g ∈ c.groups, g.members = (c.argumentsOf (some g.name)).map Argument.name

/-- A group is found by its name if no other group has the name. -/
theorem group?_name (hnodup : (c.groups.map Group.name).Nodup) {g : Group} (hg : g ∈ c.groups) :
    c.group? g.name = some g := by
  cases hfind : c.group? g.name with
  | none =>
    have h := List.find?_eq_none.mp hfind g hg
    simp at h
  | some g' =>
    have hname : g'.name = g.name := by simpa using List.find?_some hfind
    rw [List.inj_on_of_nodup_map hnodup (List.mem_of_find?_eq_some hfind) hg hname]

theorem requires_name (hnodup : (c.groups.map Group.name).Nodup) {g : Group} (hg : g ∈ c.groups) :
    c.requires g.name = g.isRequired := by
  rw [requires, group?_name hnodup hg]
  rfl

/-- Dissolving keeps the arguments of a group that is not dissolved. -/
theorem argumentsOf_dissolve {name : String}
    (h : ∀ g ∈ c.groups, g.isSingle → g.name ≠ name) :
    c.dissolve.argumentsOf (some name) = c.argumentsOf (some name) := by
  rw [argumentsOf, argumentsOf, arguments_dissolve]
  have hne : ∀ g ∈ c.groups.filter Group.isSingle, g.name ≠ name := by
    intro g hg
    obtain ⟨hg, hsingle⟩ := List.mem_filter.mp hg
    exact h g hg hsingle
  generalize c.groups.filter Group.isSingle = gs at hne
  induction c.arguments with
  | nil => rfl
  | cons a as ih =>
    rw [List.map_cons, List.filter_cons, List.filter_cons, ih]
    by_cases ha : a.group = some name
    · have hself : a.settle gs = a := by
        refine Argument.settle_of_ne fun g hg heq => hne g hg ?_
        exact Option.some.inj (heq.symm.trans ha)
      rw [hself]
    · have hgroup : (a.settle gs).group ≠ some name := by
        intro heq
        rw [Argument.settle_eq_self_of_group (by rw [heq]; simp)] at heq
        exact ha heq
      rw [if_neg (by simpa using hgroup), if_neg (by simpa using ha)]

section

variable {r : Resolved}

/-- Resolving keeps the names of the arguments. -/
theorem perm_names_of_resolve (h : c.resolve = .ok r) :
    (r.command.arguments.map Argument.name).Perm (c.arguments.map Argument.name) := by
  obtain ⟨-, hr, -⟩ := resolve_eq_ok_iff.mp h
  have hmap : c.dissolve.arguments.map Argument.name = c.arguments.map Argument.name := by
    rw [arguments_dissolve, List.map_map]
    exact List.map_congr_left fun a _ => Argument.name_settle _ a
  rw [hr, ← hmap]
  exact (perm_mandatoryFirst _).map _

theorem mem_groups_of_resolve (h : c.resolve = .ok r) {g : Group} :
    g ∈ r.command.groups ↔ g ∈ c.groups ∧ g.members.length ≠ 1 := by
  obtain ⟨-, hr, -⟩ := resolve_eq_ok_iff.mp h
  rw [hr]
  exact mem_groups_dissolve

theorem nodup_groups_of_resolve (hc : c.Grouped) (h : c.resolve = .ok r) :
    (r.command.groups.map Group.name).Nodup := by
  obtain ⟨-, hr, -⟩ := resolve_eq_ok_iff.mp h
  rw [hr]
  exact (List.filter_sublist.map Group.name).nodup hc.nodup

/-- The arguments of a group of a resolved command are those that it had before. -/
theorem perm_argumentsOf_of_resolve (hc : c.Grouped) (h : c.resolve = .ok r) {g : Group}
    (hg : g ∈ r.command.groups) :
    (r.command.argumentsOf (some g.name)).Perm (c.argumentsOf (some g.name)) := by
  obtain ⟨hmem, hlen⟩ := (mem_groups_of_resolve h).mp hg
  obtain ⟨-, hr, -⟩ := resolve_eq_ok_iff.mp h
  rw [← argumentsOf_dissolve (c := c), hr]
  · exact (perm_mandatoryFirst _).filter _
  · -- a dissolved group of that name would be this one, which has more members
    intro g' hg' hsingle hname
    rw [List.inj_on_of_nodup_map hc.nodup hg' hmem hname] at hsingle
    exact hlen (by simpa [Group.isSingle] using hsingle)

/-- Each group of a resolved command has two arguments at least. -/
theorem two_le_length_argumentsOf (hc : c.Grouped) (h : c.resolve = .ok r) {g : Group}
    (hg : g ∈ r.command.groups) : 2 ≤ (r.command.argumentsOf (some g.name)).length := by
  obtain ⟨hmem, -⟩ := (mem_groups_of_resolve h).mp hg
  obtain ⟨hcheck, hr, -⟩ := resolve_eq_ok_iff.mp h
  rw [hr] at hg
  obtain ⟨htwo, -⟩ := check_eq_ok_iff.mp hcheck g hg
  rw [hc.members_eq g hmem, List.length_map] at htwo
  rwa [(perm_argumentsOf_of_resolve hc h (hr ▸ hg)).length_eq]

/-- Each argument in a group belongs to a group of the resolved command. -/
theorem exists_group_of_resolve (h : c.resolve = .ok r) {a : Argument} {name : String}
    (ha : a ∈ r.command.arguments) (hgroup : a.group = some name) :
    ∃ g ∈ r.command.groups, g.name = name := by
  obtain ⟨-, -, hos⟩ := resolve_eq_ok_iff.mp h
  obtain ⟨hknows, -⟩ := overloads_eq_ok_iff.mp hos
  have hmem : some name ∈ r.command.groupOrder := by
    rw [groupOrder, List.mem_eraseDups, ← hgroup]
    exact List.mem_map_of_mem ha
  obtain ⟨g, hg⟩ := Option.isSome_iff_exists.mp (hknows _ hmem)
  exact ⟨g, List.mem_of_find?_eq_some hg, by simpa using List.find?_some hg⟩

end

/-! ### A sample -/

/-- A command with a required group, a required group of one member and an optional group. -/
def sample : Command where
  name := "Send"
  help := none
  arguments :=
    [{ group := some "to", name := "recipient", type := .optional .str, default := some .noValue },
     { group := some "to", name := "group_id", type := .optional .str, default := some .noValue },
     { group := none, name := "account", isOptional := false },
     { group := some "what", name := "message", type := .optional .str, default := some .noValue },
     { group := some "how", name := "hide", type := .bool, isOptional := false,
       default := some .unset },
     { group := some "how", name := "forget", type := .bool, isOptional := false,
       default := some .unset }]
  groups :=
    [{ name := "to", isRequired := true, members := ["recipient", "group_id"] },
     { name := "what", isRequired := true, members := ["message"] },
     { name := "how", isRequired := false, members := ["hide", "forget"] }]
  output := "Empty"
  source := "commands/SendCommand.java"

end Command

end RpcBindings
