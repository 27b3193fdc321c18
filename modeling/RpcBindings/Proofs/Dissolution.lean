import RpcBindings.Proofs.Resolution

/-!
# What resolving makes of a command

Resolving a command dissolves its groups of one member and puts the arguments without a default in
front.  Nothing else about the command changes, and nothing is left to be done a second time: a
resolved command has no group of one member, and its arguments are in order.

## Main definitions

* `Command.Dissolves` — what becomes of an argument when the groups of one member are dissolved.
* `MandatoryFirst` — a list is another one with the arguments without a default in front.

## Main results

* `MandatoryFirst.eq_mandatoryFirst` — only one list puts the arguments of a list in order.
* `Command.dissolve_eq_self` — without groups of one member there is nothing to dissolve.
* `Command.resolve_settles` — **resolving dissolves the groups of one member, orders the arguments,
  and changes nothing a second time.**
-/

namespace RpcBindings

open Fallible

/-! ### Arguments in order -/

/-- The arguments of `as` with those without a default in front, and otherwise in the order of
`as`. -/
structure MandatoryFirst (as bs : List Argument) : Prop where
  perm : bs.Perm as
  pairwise : bs.Pairwise fun a b => a.hasDefault → b.hasDefault
  stable : ∀ b, bs.filter (fun a => a.hasDefault == b) = as.filter (fun a => a.hasDefault == b)

theorem mandatoryFirst_spec (as : List Argument) : MandatoryFirst as (mandatoryFirst as) where
  perm := perm_mandatoryFirst as
  pairwise := pairwise_mandatoryFirst as
  stable := fun b => filter_hasDefault_mandatoryFirst b as

/-- Arguments that are in order are not moved. -/
theorem mandatoryFirst_of_pairwise {as : List Argument}
    (h : as.Pairwise fun a b => a.hasDefault → b.hasDefault) : mandatoryFirst as = as := by
  unfold mandatoryFirst
  induction as with
  | nil => rfl
  | cons a as ih =>
    obtain ⟨ha, has⟩ := List.pairwise_cons.mp h
    by_cases hdefault : a.hasDefault = true
    · -- from the first argument with a default on, all have one
      have hall : ∀ b ∈ as, b.hasDefault = true := fun b hb => ha b hb hdefault
      have hfront : as.filter (fun b => !b.hasDefault) = [] := by
        rw [List.filter_eq_nil_iff]
        intro b hb
        simp [hall b hb]
      have hback : as.filter Argument.hasDefault = as := List.filter_eq_self.mpr hall
      rw [List.filter_cons_of_neg (by simp [hdefault]), List.filter_cons_of_pos hdefault, hfront,
        hback, List.nil_append]
    · rw [List.filter_cons_of_pos (by simp [hdefault]), List.filter_cons_of_neg hdefault,
        List.cons_append, ih has]

/-- Only one list puts the arguments of a list in order. -/
theorem MandatoryFirst.eq_mandatoryFirst {as bs : List Argument} (h : MandatoryFirst as bs) :
    bs = mandatoryFirst as := by
  have hfront := h.stable false
  have hback := h.stable true
  simp only [beq_false, beq_true] at hfront hback
  calc bs = mandatoryFirst bs := (mandatoryFirst_of_pairwise h.pairwise).symm
    _ = mandatoryFirst as := by
      unfold mandatoryFirst
      rw [hfront, hback]

namespace Command

variable {c : Command} {a : Argument} {g : Group}

/-! ### Dissolved arguments -/

/-- What becomes of an argument when the groups of one member are dissolved. -/
inductive Dissolves (c : Command) (a : Argument) : Argument → Prop
  /-- It leaves a group that was required, and has to be given. -/
  | required {g : Group} (hg : g ∈ c.groups) (hlen : g.members.length = 1)
    (ha : a.group = some g.name) (hrequired : g.isRequired = true) :
    Dissolves c a { a.mandatory with group := none }
  /-- It leaves a group that was not required. -/
  | optional {g : Group} (hg : g ∈ c.groups) (hlen : g.members.length = 1)
    (ha : a.group = some g.name) (hrequired : g.isRequired = false) :
    Dissolves c a { a with group := none }
  /-- It is in no group of one member. -/
  | unchanged (h : ∀ g ∈ c.groups, g.members.length = 1 → a.group ≠ some g.name) :
    Dissolves c a a

theorem mem_filter_isSingle :
    g ∈ c.groups.filter Group.isSingle ↔ g ∈ c.groups ∧ g.members.length = 1 := by
  rw [List.mem_filter, Group.isSingle, beq_iff_eq]

/-- An argument that belongs to one of the groups leaves the first of them that it carries. -/
theorem exists_settle_eq_leave {gs : List Group} (h : ∃ g ∈ gs, a.group = some g.name) :
    ∃ g ∈ gs, a.group = some g.name ∧ a.settle gs = a.leave g := by
  induction gs with
  | nil =>
    obtain ⟨g, hg, -⟩ := h
    cases hg
  | cons g gs ih =>
    by_cases ha : a.group = some g.name
    · -- having left, it carries no group that another one could take it from
      have hnone := Argument.group_leave_of_eq ha
      have hrest : ∀ g' ∈ gs, (a.leave g).group ≠ some g'.name := by
        intro g' _
        rw [hnone]
        exact Option.some_ne_none _ |>.symm
      refine ⟨g, List.mem_cons_self, ha, ?_⟩
      rw [Argument.settle_cons, Argument.settle_of_ne hrest]
    · obtain ⟨g', hg', ha'⟩ := h
      have hmem : g' ∈ gs := by
        rcases List.mem_cons.mp hg' with rfl | hmem
        · exact absurd ha' ha
        · exact hmem
      obtain ⟨g'', hg'', ha'', heq⟩ := ih ⟨g', hmem, ha'⟩
      refine ⟨g'', List.mem_cons_of_mem _ hg'', ha'', ?_⟩
      rw [Argument.settle_cons, Argument.leave_of_ne ha, heq]

/-- Settling an argument dissolves its group if that has one member. -/
theorem dissolves_settle (c : Command) (a : Argument) :
    c.Dissolves a (a.settle (c.groups.filter Group.isSingle)) := by
  by_cases h : ∃ g ∈ c.groups.filter Group.isSingle, a.group = some g.name
  · obtain ⟨g, hg, ha, heq⟩ := exists_settle_eq_leave h
    obtain ⟨hg, hlen⟩ := mem_filter_isSingle.mp hg
    rw [heq, Argument.leave, if_pos ha]
    cases hrequired : g.isRequired with
    | true => exact .required hg hlen ha hrequired
    | false => exact .optional hg hlen ha hrequired
  · have hne : ∀ g ∈ c.groups.filter Group.isSingle, a.group ≠ some g.name :=
      fun g hg ha => h ⟨g, hg, ha⟩
    rw [Argument.settle_of_ne hne]
    exact .unchanged fun g hg hlen => hne g (mem_filter_isSingle.mpr ⟨hg, hlen⟩)

/-- Dissolving does to each argument what the groups of one member demand. -/
theorem forall₂_dissolves (c : Command) :
    List.Forall₂ c.Dissolves c.arguments c.dissolve.arguments := by
  rw [arguments_dissolve, List.forall₂_map_right_iff]
  exact List.forall₂_same.mpr fun a _ => c.dissolves_settle a

/-! ### Resolving twice -/

/-- Without groups of one member there is nothing to dissolve. -/
theorem dissolve_eq_self (h : ∀ g ∈ c.groups, g.members.length ≠ 1) : c.dissolve = c := by
  have hnone : c.groups.filter Group.isSingle = [] := by
    rw [List.filter_eq_nil_iff]
    intro g hg hsingle
    exact h g hg (beq_iff_eq.mp hsingle)
  have hall : c.groups.filter (fun g => !g.isSingle) = c.groups := by
    rw [List.filter_eq_self]
    intro g hg
    simpa [Group.isSingle] using h g hg
  unfold dissolve
  rw [hnone, hall]
  rfl

/-- Putting the arguments in order a second time does not move them. -/
theorem ordered_ordered (c : Command) : c.ordered.ordered = c.ordered := by
  unfold ordered
  rw [mandatoryFirst_of_pairwise (pairwise_mandatoryFirst c.arguments)]

/-- The order of the arguments does not matter to the check. -/
theorem check_ordered (h : c.check = .ok ()) : c.ordered.check = .ok () := by
  rw [check_eq_ok_iff] at h ⊢
  intro g hg
  obtain ⟨hlen, hmembers⟩ := h g hg
  refine ⟨hlen, fun m hm => ?_⟩
  obtain ⟨a, ha, hname⟩ := List.any_eq_true.mp (hmembers m hm)
  exact List.any_eq_true.mpr ⟨a, mem_mandatoryFirst.mpr ha, hname⟩

variable {r : Resolved}

/-- The groups that are left are those of two members at least. -/
theorem groups_of_resolve (h : c.resolve = .ok r) :
    r.command.groups = c.groups.filter fun g => 2 ≤ g.members.length := by
  obtain ⟨hcheck, hr, -⟩ := resolve_eq_ok_iff.mp h
  have htwo : ∀ g ∈ c.dissolve.groups, 2 ≤ g.members.length :=
    fun g hg => (check_eq_ok_iff.mp hcheck g hg).1
  rw [hr]
  change c.groups.filter (fun g => !g.isSingle) = _
  refine List.filter_congr fun g hg => ?_
  -- groups without members have not passed the check
  by_cases hlen : g.members.length = 1
  · simp [Group.isSingle, hlen]
  · have h2 := htwo g (mem_groups_dissolve.mpr ⟨hg, hlen⟩)
    simp [Group.isSingle, hlen, h2]

/-- A resolved command resolves to itself. -/
theorem resolve_command (h : c.resolve = .ok r) : r.command.resolve = .ok r := by
  obtain ⟨hcheck, hr, hoverloads⟩ := resolve_eq_ok_iff.mp h
  have hself : r.command.dissolve = r.command :=
    dissolve_eq_self fun g hg => ((mem_groups_of_resolve h).mp hg).2
  refine resolve_eq_ok_iff.mpr ⟨?_, ?_, hoverloads⟩
  · rw [hself, hr]
    exact check_ordered hcheck
  · rw [hself, hr, ordered_ordered]

/-- **What resolving makes of a command.**  The groups of two members at least are left, in their
order.  Every argument of a group of one member is moved out of it, and has to be given if the group
was required; then the arguments without a default are put in front.  Everything else is kept, and
resolving the result gives it once more.  The names of the groups need not be different; where they
are, an argument belongs to one group at most. -/
theorem resolve_settles (h : c.resolve = .ok r) :
    r.command.groups = c.groups.filter (fun g => 2 ≤ g.members.length) ∧
      (∃ as, List.Forall₂ c.Dissolves c.arguments as ∧ MandatoryFirst as r.command.arguments) ∧
      (r.command.name = c.name ∧ r.command.help = c.help ∧ r.command.output = c.output ∧
        r.command.source = c.source) ∧
      r.command.resolve = .ok r := by
  obtain ⟨-, hr, -⟩ := resolve_eq_ok_iff.mp h
  refine ⟨groups_of_resolve h, ⟨c.dissolve.arguments, c.forall₂_dissolves, ?_⟩, ?_,
    resolve_command h⟩
  · rw [hr]
    exact mandatoryFirst_spec _
  · rw [hr]
    exact ⟨rfl, rfl, rfl, rfl⟩

/-- The message has left its group, and the other two groups are kept. -/
theorem sample_resolve_settles :
    ∃ r, sample.resolve = .ok r ∧ r.command.groups.length = 2 ∧
      (∃ a ∈ r.command.arguments, a.name = "message" ∧ a.group = none ∧ a.type = .str) ∧
      (∃ as, List.Forall₂ sample.Dissolves sample.arguments as ∧
        MandatoryFirst as r.command.arguments) ∧
      r.command.resolve = .ok r := by
  obtain ⟨r, h, hlen, hmessage⟩ : ∃ r, sample.resolve = .ok r ∧ r.command.groups.length = 2 ∧
      ∃ a ∈ r.command.arguments, a.name = "message" ∧ a.group = none ∧ a.type = .str :=
    ⟨_, rfl, rfl, by decide⟩
  obtain ⟨-, hdissolves, -, hagain⟩ := resolve_settles h
  exact ⟨r, h, hlen, hmessage, hdissolves, hagain⟩

end Command

end RpcBindings
