import RpcBindings.Proofs.Consistency
import RpcBindings.Proofs.Dissolution
import RpcBindings.Proofs.Optionality

/-!
# Arguments that have to be given

An argument becomes mandatory in two places: an overload takes it from its exclusive group, or its
group had no other member and was required.  Only the outer `None` of its type goes, so that the
result is free of `None` because the registration puts it nowhere else.  All other arguments keep
the type and the default with which they were registered, in the fields and in every overload.

## Main definitions

* `Argument.Narrowed` — an argument is another one that has to be given.
* `Command.Narrows` — what becomes of a registered argument in the resolved command.

## Main results

* `Argument.Coherent.narrowed` — a coherent argument is narrowed when it is made mandatory.
* `Resolved.filter_overload` — every overload takes the arguments outside of all groups as they are.
* `Command.registered_arguments_narrowed` — **narrowing reaches the chosen arguments and the only
  members of required groups, and nothing else.**
-/

namespace RpcBindings

open Fallible Source

/-! ### Narrowed arguments -/

namespace Argument

variable {a b : Argument}

/-- The argument `b` is the argument `a` when it has to be given. -/
structure Narrowed (a b : Argument) : Prop where
  name_eq : b.name = a.name
  doc_eq : b.doc = a.doc
  isOptional_eq : b.isOptional = false
  default_eq : b.default = none
  /-- There is no `None` left in the type. -/
  holdsNone : b.type.holdsNone = false
  type_ne_bool : b.type ≠ .bool
  /-- A boolean can only be `True`. -/
  type_eq_literal : a.type.withoutNone = .bool → b.type = .literal ["True"]
  /-- Any other type only loses its `None`. -/
  type_eq : a.type.withoutNone ≠ .bool → b.type = a.type.withoutNone

/-- **A coherent argument is narrowed** when it is made mandatory. -/
theorem Coherent.narrowed (h : a.Coherent) : a.Narrowed a.mandatory := by
  by_cases hbool : a.type.withoutNone = .bool
  · have htype : a.mandatory.type = .literal ["True"] := if_pos hbool
    refine ⟨rfl, rfl, rfl, rfl, ?_, ?_, fun _ => htype, fun hne => absurd hbool hne⟩
    · rw [htype]
      rfl
    · rw [htype]
      exact TypeExpr.noConfusion
  · have htype : a.mandatory.type = a.type.withoutNone := if_neg hbool
    refine ⟨rfl, rfl, rfl, rfl, ?_, ?_, fun heq => absurd heq hbool, fun _ => htype⟩
    · rw [htype]
      exact h.holdsNone
    · rwa [htype]

/-- Being narrowed does not depend on the group. -/
theorem Narrowed.withGroup (h : a.Narrowed b) (k : Option String) :
    a.Narrowed { b with group := k } :=
  ⟨h.name_eq, h.doc_eq, h.isOptional_eq, h.default_eq, h.holdsNone, h.type_ne_bool,
    h.type_eq_literal, h.type_eq⟩

end Argument

/-! ### Arguments in order -/

/-- Putting arguments in order and selecting some of them can change places. -/
theorem filter_mandatoryFirst (p : Argument → Bool) (as : List Argument) :
    (mandatoryFirst as).filter p = mandatoryFirst (as.filter p) := by
  unfold mandatoryFirst
  rw [List.filter_append, List.filter_comm, List.filter_comm p Argument.hasDefault]

namespace Command

variable {c : Command} {a b : Argument} {k : Option String}

/-- The arguments of a group are in order in an ordered command. -/
theorem mandatoryFirst_argumentsOf_ordered (c : Command) (k : Option String) :
    mandatoryFirst (c.ordered.argumentsOf k) = c.ordered.argumentsOf k := by
  refine mandatoryFirst_of_pairwise ?_
  exact (pairwise_mandatoryFirst c.arguments).sublist List.filter_sublist

/-! ### Overloads -/

/-- What is picked from a group carries the group. -/
theorem group_of_mem_picked {name : String} {p : Option Nat} (hb : b ∈ c.picked name p) :
    b.group = some name ∧ ∃ a ∈ c.argumentsOf (some name), b = a.mandatory := by
  cases p with
  | none => cases hb
  | some i =>
    obtain ⟨a, ha, rfl⟩ := List.mem_map.mp hb
    have ha : a ∈ c.argumentsOf (some name) := List.mem_of_getElem? (Option.mem_toList.mp ha)
    exact ⟨(mem_argumentsOf.mp ha).2, a, ha, rfl⟩

/-- What is gathered carries no group, or has been picked from the group that it carries. -/
theorem exists_of_mem_gather {order : List (Option String)} {ps : List (Option Nat)}
    (hb : b ∈ c.gather order ps) {name : String} (hgroup : b.group = some name) :
    ∃ a ∈ c.argumentsOf (some name), b = a.mandatory := by
  induction order generalizing ps with
  | nil => cases hb
  | cons k order ih =>
    cases k with
    | none =>
      rw [gather, List.mem_append] at hb
      rcases hb with hb | hb
      · rw [(mem_argumentsOf.mp hb).2] at hgroup
        cases hgroup
      · exact ih hb
    | some other =>
      cases ps with
      | nil => cases hb
      | cons p ps =>
        rw [gather, List.mem_append] at hb
        rcases hb with hb | hb
        · obtain ⟨hother, h⟩ := group_of_mem_picked hb
          rw [hgroup] at hother
          cases hother
          exact h
        · exact ih hb

/-- Of the arguments outside of all groups each choice gathers all, in their order. -/
theorem filter_gather {order : List (Option String)} (hnodup : order.Nodup)
    {ps : List (Option Nat)} (hlen : ps.length = order.reduceOption.length) :
    (c.gather order ps).filter (fun a => a.group == none)
      = if none ∈ order then c.argumentsOf none else [] := by
  induction order generalizing ps with
  | nil => rfl
  | cons k order ih =>
    obtain ⟨hk, horder⟩ := List.nodup_cons.mp hnodup
    cases k with
    | none =>
      rw [List.reduceOption_cons_of_none] at hlen
      rw [gather, List.filter_append, ih horder hlen, if_neg hk, if_pos List.mem_cons_self,
        List.append_nil, argumentsOf, List.filter_filter]
      simp
    | some name =>
      rw [List.reduceOption_cons_of_some] at hlen
      cases ps with
      | nil => simp at hlen
      | cons p ps =>
        -- whatever is picked from the group carries it
        have hpicked : (c.picked name p).filter (fun a => a.group == none) = [] := by
          rw [List.filter_eq_nil_iff]
          intro b hb
          simp [(group_of_mem_picked hb).1]
        rw [gather, List.filter_append, hpicked, List.nil_append, ih horder (by simpa using hlen)]
        simp

end Command

namespace Resolved

variable {c : Command} {r : Resolved} {o : List Argument}

/-- Every overload gathers the arguments of a choice and puts them in order. -/
theorem exists_choice_of_mem_overloads (h : c.resolve = .ok r) (ho : o ∈ r.overloads) :
    ∃ ps, r.command.IsChoice ps ∧
      o = mandatoryFirst (r.command.gather r.command.groupOrder ps) := by
  rw [overloads_eq_map h (List.ne_nil_of_mem ho), Command.combinations_offers, List.map_map] at ho
  obtain ⟨ps, hps, rfl⟩ := List.mem_map.mp ho
  exact ⟨ps, Command.mem_choicesFrom.mp hps, rfl⟩

/-- Every overload takes the arguments outside of all groups as they are. -/
theorem filter_overload (h : c.resolve = .ok r) (ho : o ∈ r.overloads) :
    o.filter (fun a => a.group == none) = r.command.argumentsOf none := by
  obtain ⟨ps, hchoice, rfl⟩ := exists_choice_of_mem_overloads h ho
  obtain ⟨-, hr, -⟩ := Command.resolve_eq_ok_iff.mp h
  rw [filter_mandatoryFirst, Command.filter_gather r.command.nodup_groupOrder
    hchoice.length_eq.symm]
  split
  · rw [hr, Command.mandatoryFirst_argumentsOf_ordered]
  · next hnone =>
    -- no argument is outside of all groups
    have hnil : r.command.argumentsOf none = [] := by
      refine List.eq_nil_iff_forall_not_mem.mpr fun a ha => hnone ?_
      exact Command.mem_groupOrder.mpr ⟨a, Command.mem_argumentsOf.mp ha⟩
    rw [hnil]
    rfl

/-- Whatever else an overload takes is an argument of a group, made mandatory. -/
theorem exists_of_mem_overload (h : c.resolve = .ok r) (ho : o ∈ r.overloads) {b : Argument}
    (hb : b ∈ o) {name : String} (hgroup : b.group = some name) :
    ∃ a ∈ c.arguments, a.group = some name ∧ b = a.mandatory := by
  obtain ⟨ps, -, rfl⟩ := exists_choice_of_mem_overloads h ho
  obtain ⟨a, ha, rfl⟩ := Command.exists_of_mem_gather (mem_mandatoryFirst.mp hb) hgroup
  obtain ⟨hmem, hgroup⟩ := Command.mem_argumentsOf.mp ha
  obtain ⟨g, -, rfl⟩ := Command.exists_group_of_resolve h hmem hgroup
  exact ⟨a, Command.mem_arguments_of_mem_members h (g := g) ha, hgroup, rfl⟩

end Resolved

/-! ### Registered arguments -/

namespace Command

variable {c : Command} {a b : Argument} {r : Resolved} {table : CommandTable} {file : File}

/-- What becomes of a registered argument in the resolved command. -/
inductive Narrows (c : Command) (a b : Argument) : Prop
  /-- An argument outside of all groups stays as it is. -/
  | outside (ha : a.group = none) (hb : b = a)
  /-- The only member of a required group has to be given. -/
  | required {g : Group} (hg : g ∈ c.groups) (hlen : g.members.length = 1)
    (ha : a.group = some g.name) (hrequired : g.isRequired = true) (hgroup : b.group = none)
    (hb : a.Narrowed b)
  /-- The only member of another group leaves it and stays as it is otherwise. -/
  | optional {g : Group} (hg : g ∈ c.groups) (hlen : g.members.length = 1)
    (ha : a.group = some g.name) (hrequired : g.isRequired = false)
    (hb : b = { a with group := none })
  /-- A member of a group that is kept stays as it is. -/
  | kept {g : Group} (hg : g ∈ c.groups) (hlen : 2 ≤ g.members.length)
    (ha : a.group = some g.name) (hb : b = a)

/-- Dissolving the groups of a command narrows the arguments that leave a required group. -/
theorem Consistent.narrows (hc : c.Consistent) (ha : a ∈ c.arguments) (hcoherent : a.Coherent)
    (hb : c.Dissolves a b) : c.Narrows a b := by
  cases hb with
  | required hg hlen ha hrequired =>
    exact .required hg hlen ha hrequired rfl (hcoherent.narrowed.withGroup none)
  | optional hg hlen ha hrequired => exact .optional hg hlen ha hrequired rfl
  | unchanged hne =>
    cases hgroup : a.group with
    | none => exact .outside hgroup rfl
    | some name =>
      obtain ⟨g, hg, rfl⟩ := List.mem_map.mp (hc.known a ha name hgroup)
      have hone : g.members.length ≠ 1 := fun hlen => hne g hg hlen hgroup
      -- the group of an argument has a member, and so it has two
      have hmem : a.name ∈ g.members := by
        rw [hc.members_eq g hg]
        exact List.mem_map_of_mem (mem_argumentsOf.mpr ⟨ha, hgroup⟩)
      have hpos := List.length_pos_of_mem hmem
      exact .kept hg (by omega) hgroup rfl

/-- **Narrowing reaches the chosen arguments and the only members of required groups, and nothing
else.**  In the resolved command the only member of a required group has to be given, while every
other argument is as it was registered, except that the only member of any group leaves it.  Every
overload takes the arguments that are outside of all groups as they are there; whatever else it
takes was registered on the exclusive group that it carries, and has to be given. -/
theorem registered_arguments_narrowed (hc : ofFile? table file = .ok (some c))
    (h : c.resolve = .ok r) :
    (∃ as, List.Forall₂ c.Narrows c.arguments as ∧ MandatoryFirst as r.command.arguments) ∧
    ∀ o ∈ r.overloads,
      o.filter (fun p => p.group == none) = r.command.argumentsOf none ∧
      ∀ p ∈ o, ∀ name, p.group = some name →
        ∃ a ∈ c.arguments, a.group = some name ∧ a.Narrowed p := by
  have hconsistent := consistent_of_ofFile? hc
  have hcoherent : ∀ a ∈ c.arguments, a.Coherent := by
    obtain ⟨m, -, hall⟩ := exists_registers_of_mem_arguments hc
    intro a ha
    obtain ⟨s, -, p, -, hregisters⟩ := hall a ha
    exact hregisters.coherent
  obtain ⟨-, hr, -⟩ := resolve_eq_ok_iff.mp h
  refine ⟨⟨c.dissolve.arguments, ?_, ?_⟩, fun o ho => ⟨Resolved.filter_overload h ho, ?_⟩⟩
  · rw [arguments_dissolve, List.forall₂_map_right_iff]
    exact List.forall₂_same.mpr fun a ha =>
      hconsistent.narrows ha (hcoherent a ha) (c.dissolves_settle a)
  · rw [hr]
    exact mandatoryFirst_spec _
  · intro p hp name hgroup
    obtain ⟨a, ha, hname, rfl⟩ := Resolved.exists_of_mem_overload h ho hp hgroup
    exact ⟨a, ha, hname, (hcoherent a ha).narrowed⟩

/-- A command with a required group and another one of a single argument each, and a group of two
arguments. -/
def threeGroups : List String :=
  ["class SendCommand implements JsonRpcLocalCommand \x7b",
   "String getName() \x7b return \"send\"; \x7d",
   "void attachToSubparser(Subparser p) \x7b",
   "p.addArgument(\"--timestamp\").type(long.class);",
   "var how = p.addMutuallyExclusiveGroup().required(true);",
   "how.addArgument(\"--now\").action(Arguments.storeTrue());",
   "var what = p.addMutuallyExclusiveGroup();",
   "what.addArgument(\"--message\");",
   "var to = p.addMutuallyExclusiveGroup().required(true);",
   "to.addArgument(\"--self\").action(Arguments.storeTrue());",
   "to.addArgument(\"--account\").help(\"Whom\");",
   "\x7d \x7d"]

/-- The name, the type and the default of an argument. -/
def shape (a : Argument) : String × TypeExpr × Option Default :=
  (a.name, a.type, a.default)

/-- The two ways of giving the arguments of `threeGroups`. -/
def threeGroupsOverloads : List (List (String × TypeExpr × Option Default)) :=
  [[("now", .literal ["True"], none), ("self", .literal ["True"], none),
    ("timestamp", .optional .int, some .noValue), ("message", .optional .str, some .noValue)],
   [("now", .literal ["True"], none), ("account", .str, none),
    ("timestamp", .optional .int, some .noValue), ("message", .optional .str, some .noValue)]]

theorem declares_threeGroups :
    declares "SendCommand.java" threeGroups (fun _ c =>
      match c.resolve with
      | .ok r => r.overloads.map (List.map shape) == threeGroupsOverloads
      | .error _ => false) = true := by
  exact declares_of_spelled (by repeat constructor) (by decide +kernel)

/-- Both booleans have become `True`, and the timestamp and the message are as registered. -/
theorem threeGroups_registered_arguments_narrowed :
    ∃ file c r, File.ofText? "SendCommand.java" (ofLines threeGroups) = some file ∧
      ofFile? {} file = .ok (some c) ∧ c.resolve = .ok r ∧
      r.overloads.map (List.map shape) = threeGroupsOverloads ∧
      (∃ as, List.Forall₂ c.Narrows c.arguments as ∧ MandatoryFirst as r.command.arguments) ∧
      ∀ o ∈ r.overloads, ∀ p ∈ o, ∀ name, p.group = some name →
        ∃ a ∈ c.arguments, a.group = some name ∧ a.Narrowed p := by
  obtain ⟨file, m, c, hfile, -, hc, h⟩ := exists_of_declares declares_threeGroups
  split at h
  · next r hr =>
    obtain ⟨hnarrows, hoverloads⟩ := registered_arguments_narrowed hc hr
    exact ⟨file, c, r, hfile, hc, hr, beq_iff_eq.mp h, hnarrows, fun o ho => (hoverloads o ho).2⟩
  · cases h

end Command

end RpcBindings
