import RpcBindings.Proofs.Keywords
import RpcBindings.Proofs.Registration

/-!
# Fields that the constructor leaves unset

The constructor of a command sets the fields that have a default, and then those that are given.  A
field of a group is not given when another argument of the group is chosen, so that it needs a
default; whether it has one depends on how the argument is registered.

Arguments may share a name, and then they share a field.  Every condition is therefore about names.

## Main definitions

* `Resolved.Seeds`, `Resolved.Initialises` — the fields that the constructor sets.
* `Resolved.Forces` — every accepted call names the field.
* `Position.LeavesDefault` — a registration leaves the argument with a default.

## Main results

* `Resolved.exists_accepts_not_mem` — a name that is not forced can be left out.
* `Resolved.mem_of_forces` — a name that is forced cannot.
* `Command.constructor_initialises_iff` — **the constructor sets all fields exactly when each field
  of a group has a default or is forced.**
-/

namespace RpcBindings

open Fallible Source

/-! ### Combinations -/

namespace Command

variable {c : Command} {order : List (Option String)} {o : List Argument}

/-- A combination holds something that each of the groups offers. -/
theorem exists_offer_subset (ho : o ∈ combinations (order.map c.offers)) {k : Option String}
    (hk : k ∈ order) : ∃ x ∈ c.offers k, x ⊆ o := by
  induction order generalizing o with
  | nil => cases hk
  | cons l order ih =>
    rw [List.map_cons, combinations, List.mem_flatMap] at ho
    obtain ⟨x, hx, ho⟩ := ho
    obtain ⟨y, hy, rfl⟩ := List.mem_map.mp ho
    rcases List.mem_cons.mp hk with rfl | hk
    · exact ⟨x, hx, List.subset_append_left _ _⟩
    · obtain ⟨z, hz, hsub⟩ := ih hy hk
      exact ⟨z, hz, List.Subset.trans hsub (List.subset_append_right _ _)⟩

/-- What some offer of each group avoids, some combination avoids. -/
theorem exists_combination {p : Argument → Prop}
    (h : ∀ k ∈ order, ∃ x ∈ c.offers k, ∀ a ∈ x, p a) :
    ∃ o ∈ combinations (order.map c.offers), ∀ a ∈ o, p a := by
  induction order with
  | nil => exact ⟨[], by simp [combinations], by simp⟩
  | cons k order ih =>
    obtain ⟨⟨x, hx, hpx⟩, hrest⟩ := List.forall_mem_cons.mp h
    obtain ⟨y, hy, hpy⟩ := ih hrest
    refine ⟨x ++ y, ?_, List.forall_mem_append.mpr ⟨hpx, hpy⟩⟩
    rw [List.map_cons, combinations, List.mem_flatMap]
    exact ⟨x, hx, List.mem_map.mpr ⟨y, hy, rfl⟩⟩

end Command

/-! ### Initialised fields -/

namespace Resolved

variable {c : Command} {r : Resolved} {K : Finset String} {name : String}

/-- The constructor gives the field its default. -/
def Seeds (r : Resolved) (name : String) : Prop :=
  ∃ a ∈ r.command.arguments, a.name = name ∧ a.hasDefault

instance (r : Resolved) (name : String) : Decidable (r.Seeds name) :=
  inferInstanceAs (Decidable (∃ a ∈ r.command.arguments, _ ∧ _))

/-- Called with these keywords the constructor sets every field, by its default or by what is
given. -/
def Initialises (r : Resolved) (K : Finset String) : Prop :=
  ∀ a ∈ r.command.arguments, r.Seeds a.name ∨ a.name ∈ K

instance (r : Resolved) (K : Finset String) : Decidable (r.Initialises K) :=
  inferInstanceAs (Decidable (∀ a ∈ r.command.arguments, _ ∨ _))

/-- Every call has to give the field: it belongs to an argument outside of all groups without a
default, or a required group has no other one. -/
def Forces (r : Resolved) (name : String) : Prop :=
  (∃ a ∈ r.command.argumentsOf none, a.name = name ∧ a.hasDefault = false) ∨
    ∃ g ∈ r.command.groups, g.isRequired ∧ ∀ a ∈ r.members g, a.name = name

/-- Every accepted call gives a field that is forced. -/
theorem mem_of_forces (hc : c.Grouped) (h : c.resolve = .ok r) {o : List Argument}
    (ho : o ∈ Command.combinations (r.command.groupOrder.map r.command.offers))
    (haccepts : Accepts o K) (hforces : r.Forces name) : name ∈ K := by
  rcases hforces with ⟨a, ha, rfl, hdefault⟩ | ⟨g, hg, hrequired, hall⟩
  · have hmem : none ∈ r.command.groupOrder :=
      Command.mem_groupOrder.mpr ⟨a, Command.mem_argumentsOf.mp ha⟩
    obtain ⟨x, hx, hsub⟩ := Command.exists_offer_subset ho hmem
    rw [Command.offers, List.mem_singleton] at hx
    exact haccepts.2 a (hsub (hx ▸ ha)) hdefault
  · -- whichever argument of the group is given, it has the name
    obtain ⟨x, hx, hsub⟩ :=
      Command.exists_offer_subset ho (Command.mem_groupOrder_of_resolve hc h hg)
    have hreq : r.command.requires g.name := by
      rw [Command.requires_name (Command.nodup_groups_of_resolve hc h) hg]
      exact hrequired
    rw [Command.offers, if_pos hreq] at hx
    obtain ⟨a, ha, rfl⟩ := List.mem_map.mp hx
    have hgiven := haccepts.2 a.mandatory (hsub (List.mem_singleton_self _)) rfl
    rwa [Argument.name_mandatory, hall a ha] at hgiven

/-- A field that is not forced is left out by some accepted call. -/
theorem exists_accepts_not_mem (hc : c.Grouped) (h : c.resolve = .ok r)
    (hforces : ¬ r.Forces name) :
    ∃ o ∈ Command.combinations (r.command.groupOrder.map r.command.offers),
      ∃ K, Accepts o K ∧ name ∉ K := by
  have hoffer : ∀ k ∈ r.command.groupOrder, ∃ x ∈ r.command.offers k,
      ∀ a ∈ x, a.hasDefault = false → a.name ≠ name := by
    intro k hk
    cases k with
    | none =>
      refine ⟨r.command.argumentsOf none, List.mem_singleton_self _, fun a ha hdefault hname => ?_⟩
      exact hforces (.inl ⟨a, ha, hname, hdefault⟩)
    | some k =>
      obtain ⟨b, hb, hgroup⟩ := Command.mem_groupOrder.mp hk
      obtain ⟨g, hg, rfl⟩ := Command.exists_group_of_resolve h hb hgroup
      rw [Command.offers, Command.requires_name (Command.nodup_groups_of_resolve hc h) hg]
      by_cases hrequired : g.isRequired
      · -- the group has an argument of another name, which can be given instead
        have hother : ∃ a ∈ r.members g, a.name ≠ name := by
          by_contra hnone
          refine hforces (.inr ⟨g, hg, hrequired, fun a ha => ?_⟩)
          by_contra hname
          exact hnone ⟨a, ha, hname⟩
        obtain ⟨a, ha, hname⟩ := hother
        rw [if_pos hrequired]
        refine ⟨[a.mandatory], List.mem_map_of_mem ha, fun p hp _ => ?_⟩
        rwa [List.mem_singleton.mp hp, Argument.name_mandatory]
      · rw [if_neg hrequired]
        exact ⟨[], List.mem_cons_self, by simp⟩
  obtain ⟨o, ho, hnames⟩ := Command.exists_combination hoffer
  -- exactly what has to be given is given
  let K : Finset String := ((o.filter fun a => !a.hasDefault).map Argument.name).toFinset
  have hK : ∀ k, k ∈ K ↔ ∃ a ∈ o, a.hasDefault = false ∧ a.name = k := by
    intro k
    simp [K, and_assoc]
  refine ⟨o, ho, K, ⟨fun k hk => ?_, fun a ha hdefault => ?_⟩, fun hmem => ?_⟩
  · obtain ⟨a, ha, -, hname⟩ := (hK k).mp hk
    exact ⟨a, ha, hname⟩
  · exact (hK _).mpr ⟨a, ha, hdefault, rfl⟩
  · obtain ⟨a, ha, hdefault, hname⟩ := (hK _).mp hmem
    exact hnames a ha hdefault hname

/-- A field of an argument outside of all groups has a default or is forced. -/
theorem seeds_or_forces_of_group_eq_none {a : Argument} (ha : a ∈ r.command.arguments)
    (hgroup : a.group = none) : r.Seeds a.name ∨ r.Forces a.name := by
  cases hdefault : a.hasDefault with
  | true => exact .inl ⟨a, ha, rfl, hdefault⟩
  | false => exact .inr (.inl ⟨a, Command.mem_argumentsOf.mpr ⟨ha, hgroup⟩, rfl, hdefault⟩)

/-- **All fields are set for all accepted calls** exactly when each field of a group has a default
or is forced. -/
theorem initialises_iff (hc : c.Grouped) (h : c.resolve = .ok r) (hne : r.command.groups ≠ []) :
    (∀ o ∈ r.overloads, ∀ K, Accepts o K → r.Initialises K) ↔
      ∀ g ∈ r.command.groups, ∀ a ∈ r.members g, r.Seeds a.name ∨ r.Forces a.name := by
  rw [overloads_eq_map h fun hnil => hne ((overloads_eq_nil_iff hc h).mp hnil)]
  constructor
  · intro hall g _ a ha
    by_contra hnot
    rw [not_or] at hnot
    obtain ⟨o, ho, K, haccepts, hmem⟩ := exists_accepts_not_mem hc h hnot.2
    have hinit := hall _ (List.mem_map_of_mem ho) K (accepts_mandatoryFirst.mpr haccepts)
    rcases hinit a (Command.mem_argumentsOf.mp ha).1 with hseeds | hmem'
    · exact hnot.1 hseeds
    · exact hmem hmem'
  · intro hall o' ho' K haccepts a ha
    obtain ⟨o, ho, rfl⟩ := List.mem_map.mp ho'
    have hcases : r.Seeds a.name ∨ r.Forces a.name := by
      cases hgroup : a.group with
      | none => exact seeds_or_forces_of_group_eq_none ha hgroup
      | some k =>
        obtain ⟨g, hg, rfl⟩ := Command.exists_group_of_resolve h ha hgroup
        exact hall g hg a (Command.mem_argumentsOf.mpr ⟨ha, hgroup⟩)
    rcases hcases with hseeds | hforces
    · exact .inl hseeds
    · exact .inr (mem_of_forces hc h ho (accepts_mandatoryFirst.mp haccepts) hforces)

/-- Where all names are different a field of a group has a default only from its own argument, and
is never forced. -/
theorem seeds_or_forces_iff (hc : c.Grouped) (h : c.resolve = .ok r)
    (hnames : (r.command.arguments.map Argument.name).Nodup) {g : Group} {a : Argument}
    (ha : a ∈ r.members g) :
    r.Seeds a.name ∨ r.Forces a.name ↔ a.hasDefault := by
  obtain ⟨hmem, hgroup⟩ := Command.mem_argumentsOf.mp ha
  have hself : ∀ b ∈ r.command.arguments, b.name = a.name → b = a :=
    fun b hb hname => List.inj_on_of_nodup_map hnames hb hmem hname
  constructor
  · rintro (⟨b, hb, hname, hdefault⟩ | ⟨b, hb, hname, -⟩ | ⟨g', hg', -, hall⟩)
    · rwa [hself b hb hname] at hdefault
    · obtain ⟨hb, hnone⟩ := Command.mem_argumentsOf.mp hb
      rw [hself b hb hname, hgroup] at hnone
      cases hnone
    · -- the two arguments of a required group cannot both be this one
      have hlen := Command.two_le_length_argumentsOf hc h hg'
      have hnodup := Command.nodup_argumentsOf hnames (some g'.name)
      have hrep := List.eq_replicate_of_mem (a := a.name)
        (l := (r.command.argumentsOf (some g'.name)).map Argument.name)
        (by simpa [Resolved.members] using hall)
      rw [hrep, List.nodup_replicate, List.length_map] at hnodup
      omega
  · exact fun hdefault => .inl ⟨a, hmem, rfl, hdefault⟩

end Resolved

/-! ### Registered defaults -/

/-- The registration at a position leaves the argument with a default: a call of its chain gives it
one, or it is a flag and no call of the chain demands a value. -/
def Source.Position.LeavesDefault (path : String) (p : Position) : Prop :=
  (∃ c ∈ p.chain, Argument.GivesDefault path c) ∨
    (∃ call flag, Call.ofNode? p.node = some call ∧ Argument.naming? call = some flag ∧
      flag.head? = some '-') ∧ ∀ c ∈ p.chain, ¬ Argument.DemandsValue path c

theorem Registration.Registers.hasDefault_iff {r : Registration} {gs : List Group} {p : Position}
    {a : Argument} (h : r.Registers gs p a) : a.hasDefault ↔ p.LeavesDefault r.path := by
  obtain ⟨call, hcall, h⟩ := h
  obtain ⟨group, flag, b, -, hflag, hb, rfl⟩ := argumentOf_eq_ok_iff.mp h
  rw [Argument.hasDefault_of_configureAll hb]
  unfold Position.LeavesDefault
  simp only [hcall, Option.some.injEq, exists_and_left, exists_eq_left', hflag]

namespace Command

variable {table : CommandTable} {file : File} {c : Command} {r : Resolved}

/-- Every argument of a command is registered by a call in its registration method. -/
theorem exists_registers_of_mem_arguments (hc : ofFile? table file = .ok (some c)) :
    ∃ m, attachment? table file = some m ∧ ∀ a ∈ c.arguments,
      ∃ s ∈ m.body.members, ∃ p, m.registration.registering? s = some p ∧
        m.registration.Registers c.groups p a := by
  obtain ⟨m, d, hm, hd, rfl⟩ := ofFile?_eq_ok_some_iff.mp hc
  obtain ⟨as, has, heq⟩ := Draft.arguments_steps hd
  refine ⟨m, hm, fun a ha => ?_⟩
  have ha : a ∈ as := by
    have harguments : a ∈ d.arguments := ha
    rw [heq, List.nil_append] at harguments
    exact (List.mem_filter.mp harguments).1
  obtain ⟨p, hp, hregisters⟩ := exists_left_of_forall₂ has ha
  obtain ⟨s, hs, hp⟩ := List.mem_filterMap.mp hp
  exact ⟨s, hs, p, hp, hregisters⟩

/-- Resolving leaves the arguments of the remaining groups as they are. -/
theorem mem_arguments_of_mem_members (h : c.resolve = .ok r) {g : Group} {a : Argument}
    (ha : a ∈ r.members g) : a ∈ c.arguments := by
  obtain ⟨-, hr, -⟩ := resolve_eq_ok_iff.mp h
  obtain ⟨hmem, hgroup⟩ := mem_argumentsOf.mp ha
  rw [hr] at hmem
  have hmem : a ∈ c.dissolve.arguments := mem_mandatoryFirst.mp hmem
  rw [arguments_dissolve] at hmem
  obtain ⟨b, hb, rfl⟩ := List.mem_map.mp hmem
  rwa [Argument.settle_eq_self_of_group (by rw [hgroup]; exact Option.some_ne_none _)]

/-- **When the constructor sets all fields.**  For the accepted calls of a command with groups, no
field is left unset exactly when each field of a group has a default or is forced; if all names are
different, exactly when each argument of a group has a default.  It has one if its registration
leaves it with one. -/
theorem constructor_initialises_iff (hc : ofFile? table file = .ok (some c))
    (h : c.resolve = .ok r) (hne : r.command.groups ≠ []) :
    ((∀ o ∈ r.overloads, ∀ K, Accepts o K → r.Initialises K) ↔
      ∀ g ∈ r.command.groups, ∀ a ∈ r.members g, r.Seeds a.name ∨ r.Forces a.name) ∧
    ((r.command.arguments.map Argument.name).Nodup →
      ∀ g ∈ r.command.groups, ∀ a ∈ r.members g,
        (r.Seeds a.name ∨ r.Forces a.name ↔ a.hasDefault)) ∧
    ∃ m, attachment? table file = some m ∧ ∀ g ∈ r.command.groups, ∀ a ∈ r.members g,
      ∃ s ∈ m.body.members, ∃ p, m.registration.registering? s = some p ∧
        m.registration.Registers c.groups p a ∧
          (a.hasDefault ↔ p.LeavesDefault m.registration.path) := by
  have hgrouped := grouped_of_ofFile? hc
  refine ⟨Resolved.initialises_iff hgrouped h hne, fun hnames g _ a ha => ?_, ?_⟩
  · exact Resolved.seeds_or_forces_iff hgrouped h hnames ha
  · obtain ⟨m, hm, hall⟩ := exists_registers_of_mem_arguments hc
    refine ⟨m, hm, fun g _ a ha => ?_⟩
    obtain ⟨s, hs, p, hp, hregisters⟩ := hall a (mem_arguments_of_mem_members h ha)
    exact ⟨s, hs, p, hp, hregisters, hregisters.hasDefault_iff⟩

/-- A command with a group of which one argument demands a value. -/
def severalInGroup : List String :=
  ["class SendCommand implements JsonRpcLocalCommand \x7b",
   "String getName() \x7b return \"send\"; \x7d",
   "void attachToSubparser(Subparser p) \x7b",
   "var body = p.addMutuallyExclusiveGroup();",
   "body.addArgument(\"--attachment\").nargs(\"+\");",
   "body.addArgument(\"--message\");",
   "\x7d \x7d"]

theorem declares_severalInGroup :
    declares "SendCommand.java" severalInGroup (fun _ c =>
      match c.resolve with
      | .ok r => !r.command.groups.isEmpty &&
          r.overloads.any fun o => decide (Accepts o ∅ ∧ ¬ r.Initialises ∅)
      | .error _ => false) = true := by
  exact declares_of_spelled (by repeat constructor) (by decide +kernel)

theorem exists_severalInGroup :
    ∃ file c r, File.ofText? "SendCommand.java" (ofLines severalInGroup) = some file ∧
      ofFile? {} file = .ok (some c) ∧ c.resolve = .ok r ∧ r.command.groups ≠ [] ∧
        ∃ o ∈ r.overloads, Accepts o ∅ ∧ ¬ r.Initialises ∅ := by
  obtain ⟨file, m, c, hfile, -, hc, h⟩ := exists_of_declares declares_severalInGroup
  split at h
  · next r hr =>
    simp only [Bool.and_eq_true, Bool.not_eq_true', List.isEmpty_eq_false_iff, List.any_eq_true,
      decide_eq_true_eq] at h
    exact ⟨file, c, r, hfile, hc, hr, h⟩
  · cases h

/-- Called without arguments, the constructor leaves the field of the attachments unset. -/
theorem attachments_left_unset :
    ∃ file c r, File.ofText? "SendCommand.java" (ofLines severalInGroup) = some file ∧
      ofFile? {} file = .ok (some c) ∧ c.resolve = .ok r ∧ r.command.groups ≠ [] ∧
        ¬ ∀ o ∈ r.overloads, ∀ K, Accepts o K → r.Initialises K := by
  obtain ⟨file, c, r, hfile, hc, h, hne, o, ho, haccepts, hunset⟩ := exists_severalInGroup
  exact ⟨file, c, r, hfile, hc, h, hne, fun hall => hunset (hall o ho ∅ haccepts)⟩

theorem severalInGroup_constructor_initialises_iff :
    ∃ file c r, File.ofText? "SendCommand.java" (ofLines severalInGroup) = some file ∧
      ofFile? {} file = .ok (some c) ∧ c.resolve = .ok r ∧ r.command.groups ≠ [] ∧
        ∃ g ∈ r.command.groups, ∃ a ∈ r.members g, ¬ r.Seeds a.name ∧ ¬ r.Forces a.name := by
  obtain ⟨file, c, r, hfile, hc, h, hne, o, ho, haccepts, hunset⟩ := exists_severalInGroup
  refine ⟨file, c, r, hfile, hc, h, hne, ?_⟩
  have hiff := (constructor_initialises_iff hc h hne).1
  by_contra hnone
  refine hunset (hiff.mpr (fun g hg a ha => ?_) o ho ∅ haccepts)
  by_contra hnot
  exact hnone ⟨g, hg, a, ha, not_or.mp hnot⟩

end Command

end RpcBindings
