import RpcBindings.Proofs.Constructor
import RpcBindings.Proofs.Choice

/-!
# Keywords that overloads and constructor accept

A type checker accepts a call if one of the overloads does; when the program runs, the constructor
counts the given arguments of each group.  Both agree on every set of keywords, and no call fits two
overloads.

The overloads that accept a set of keywords are counted.  The arguments of different groups have
different names, so that the keywords decide about each group separately and the count is a product
over the groups, each factor being one or zero.

## Main definitions

* `Accepts` — a signature accepts a set of keywords.
* `Resolved.Admits` — the constructor accepts a set of keywords.
* `Fits` — what a group gives to a call fits the keywords, as far as the group goes.

## Main results

* `Command.countP_combinations` — the count is a product over the groups.
* `Resolved.countP_accepts` — one overload accepts what the constructor admits, and none anything
  else.
* `Command.overloads_agree_with_constructor` — **overloads and constructor agree.**
-/

namespace RpcBindings

open Render

/-! ### Acceptance -/

/-- A signature accepts keywords that are all among its parameters and include those without a
default. -/
def Accepts (o : List Argument) (K : Finset String) : Prop :=
  (∀ k ∈ K, ∃ p ∈ o, p.name = k) ∧ ∀ p ∈ o, p.hasDefault = false → p.name ∈ K

instance (o : List Argument) (K : Finset String) : Decidable (Accepts o K) :=
  inferInstanceAs (Decidable (_ ∧ _))

/-- The constructor accepts keywords: all of them name arguments, the arguments outside of all
groups that have no default are among them, and every statement on a group lets them through. -/
structure Resolved.Admits (r : Resolved) (K : Finset String) : Prop where
  declared : ∀ k ∈ K, ∃ a ∈ r.command.arguments, a.name = k
  mandatory : ∀ a ∈ r.command.argumentsOf none, a.hasDefault = false → a.name ∈ K
  passes : ∀ b ∈ r.matchBlocks, b.Passes K

theorem Resolved.admits_iff {r : Resolved} {K : Finset String} :
    r.Admits K ↔ (∀ k ∈ K, ∃ a ∈ r.command.arguments, a.name = k) ∧
      (∀ a ∈ r.command.argumentsOf none, a.hasDefault = false → a.name ∈ K) ∧
        ∀ b ∈ r.matchBlocks, b.Passes K :=
  ⟨fun h => ⟨h.declared, h.mandatory, h.passes⟩, fun h => ⟨h.1, h.2.1, h.2.2⟩⟩

instance (r : Resolved) (K : Finset String) : Decidable (r.Admits K) :=
  decidable_of_iff _ Resolved.admits_iff.symm

/-- The order of the parameters does not matter to the keywords. -/
theorem accepts_mandatoryFirst {o : List Argument} {K : Finset String} :
    Accepts (mandatoryFirst o) K ↔ Accepts o K := by
  simp [Accepts]

/-! ### Counting in products -/

/-- A product of ones and zeros. -/
theorem prod_map_ite {α : Type} (p : α → Prop) [DecidablePred p] (xs : List α) :
    (xs.map fun x => if p x then 1 else 0).prod = if ∀ x ∈ xs, p x then 1 else 0 := by
  induction xs with
  | nil => simp
  | cons x xs ih =>
    rw [List.map_cons, List.prod_cons, ih]
    by_cases hx : p x
    · simp [hx]
    · simp [hx]

/-- A sum over the members of a list that satisfy a condition. -/
theorem sum_map_ite {α : Type} (p : α → Bool) (n : Nat) (xs : List α) :
    (xs.map fun x => if p x then n else 0).sum = xs.countP p * n := by
  induction xs with
  | nil => simp
  | cons x xs ih =>
    rw [List.map_cons, List.sum_cons, ih, List.countP_cons]
    cases p x with
    | false => simp
    | true => simp [Nat.add_mul, Nat.add_comm]

/-- Of members with different names one is the only one given if there is only one. -/
theorem countP_only {p : Argument → Bool} {as : List Argument}
    (hnodup : (as.map Argument.name).Nodup) :
    as.countP (fun a => p a && as.all fun b => !p b || b.name == a.name)
      = if as.countP p = 1 then 1 else 0 := by
  split
  · next hone =>
    -- the condition on the other members holds of itself
    rw [← hone]
    refine List.countP_congr fun a ha => ?_
    rw [Bool.and_eq_true, and_iff_left_iff_imp, List.all_eq_true]
    intro hpa b hb
    rw [List.countP_eq_length_filter, List.length_eq_one_iff] at hone
    obtain ⟨x, hx⟩ := hone
    cases hpb : p b with
    | false => rfl
    | true =>
      have hax : a ∈ [x] := hx ▸ List.mem_filter.mpr ⟨ha, hpa⟩
      have hbx : b ∈ [x] := hx ▸ List.mem_filter.mpr ⟨hb, hpb⟩
      rw [List.mem_singleton.mp hax, List.mem_singleton.mp hbx]
      simp
  · next hone =>
    rw [List.countP_eq_zero]
    intro a ha hcond
    rw [Bool.and_eq_true, List.all_eq_true] at hcond
    obtain ⟨hpa, hall⟩ := hcond
    -- whoever is given is this member, which stands in the list only once
    refine hone ?_
    have hcongr : as.countP p = as.countP fun b => b.name == a.name := by
      refine List.countP_congr fun b hb => ⟨fun hpb => ?_, fun hname => ?_⟩
      · simpa [hpb] using hall b hb
      · have : b = a := List.inj_on_of_nodup_map hnodup hb ha (by simpa using hname)
        rwa [this]
    have hcount := List.count_eq_one_of_mem hnodup (List.mem_map_of_mem (f := Argument.name) ha)
    rw [List.count_eq_countP, List.countP_map] at hcount
    rw [hcongr]
    exact hcount

/-- Keywords among listed names, counted along the list. -/
theorem card_inter_names {K : Finset String} {as : List Argument}
    (hnodup : (as.map Argument.name).Nodup) :
    (K ∩ (as.map Argument.name).toFinset).card = as.countP fun a => a.name ∈ K := by
  have hfilter : K ∩ (as.map Argument.name).toFinset
      = ((as.map Argument.name).filter (· ∈ K)).toFinset := by
    ext k
    simp only [Finset.mem_inter, List.mem_toFinset, List.mem_filter, decide_eq_true_eq]
    exact and_comm
  rw [hfilter, List.toFinset_card_of_nodup (hnodup.filter _), ← List.countP_eq_length_filter,
    List.countP_map]
  rfl

/-! ### Fitting keywords group by group -/

/-- What is given fits the keywords as far as the arguments `as` go: those of them that are named
are given, and what is given without a default is named. -/
def Fits (as : List Argument) (K : Finset String) (o : List Argument) : Prop :=
  (∀ a ∈ as, a.name ∈ K → ∃ p ∈ o, p.name = a.name) ∧ ∀ p ∈ o, p.hasDefault = false → p.name ∈ K

instance (as : List Argument) (K : Finset String) (o : List Argument) : Decidable (Fits as K o) :=
  inferInstanceAs (Decidable (_ ∧ _))

/-- A single mandatory argument fits when it is the only one that is named. -/
theorem fits_singleton_mandatory {as : List Argument} {K : Finset String} {a : Argument} :
    Fits as K [a.mandatory] ↔ a.name ∈ K ∧ ∀ b ∈ as, b.name ∈ K → b.name = a.name := by
  constructor
  · rintro ⟨hgiven, hnamed⟩
    refine ⟨hnamed a.mandatory (List.mem_singleton_self _) rfl, fun b hb hk => ?_⟩
    obtain ⟨p, hp, hname⟩ := hgiven b hb hk
    rw [List.mem_singleton.mp hp] at hname
    exact hname.symm
  · rintro ⟨hk, hall⟩
    refine ⟨fun b hb hbk => ⟨_, List.mem_singleton_self _, (hall b hb hbk).symm⟩, fun p hp _ => ?_⟩
    rw [List.mem_singleton.mp hp]
    exact hk

/-- Each name in the first list occurs in the second one. -/
def NamesAmong (o as : List Argument) : Prop :=
  ∀ p ∈ o, ∃ a ∈ as, a.name = p.name

/-- Arguments of different names fit independently of each other. -/
theorem fits_append {as bs o o' : List Argument} {K : Finset String} (ho : NamesAmong o as)
    (ho' : NamesAmong o' bs) (hne : ∀ a ∈ as, ∀ b ∈ bs, a.name ≠ b.name) :
    Fits (as ++ bs) K (o ++ o') ↔ Fits as K o ∧ Fits bs K o' := by
  constructor
  · rintro ⟨hgiven, hnamed⟩
    refine ⟨⟨fun a ha hk => ?_, fun p hp => hnamed p (List.mem_append_left _ hp)⟩,
      ⟨fun b hb hk => ?_, fun p hp => hnamed p (List.mem_append_right _ hp)⟩⟩
    · obtain ⟨p, hp, hname⟩ := hgiven a (List.mem_append_left _ ha) hk
      rcases List.mem_append.mp hp with hp | hp
      · exact ⟨p, hp, hname⟩
      · obtain ⟨b, hb, hb'⟩ := ho' p hp
        exact absurd (hname.symm.trans hb'.symm) (hne a ha b hb)
    · obtain ⟨p, hp, hname⟩ := hgiven b (List.mem_append_right _ hb) hk
      rcases List.mem_append.mp hp with hp | hp
      · obtain ⟨a, ha, ha'⟩ := ho p hp
        exact absurd (ha'.trans hname) (hne a ha b hb)
      · exact ⟨p, hp, hname⟩
  · rintro ⟨⟨hgiven, hnamed⟩, ⟨hgiven', hnamed'⟩⟩
    constructor
    · intro a ha hk
      rcases List.mem_append.mp ha with ha | ha
      · obtain ⟨p, hp, hname⟩ := hgiven a ha hk
        exact ⟨p, List.mem_append_left _ hp, hname⟩
      · obtain ⟨p, hp, hname⟩ := hgiven' a ha hk
        exact ⟨p, List.mem_append_right _ hp, hname⟩
    · intro p hp hd
      rcases List.mem_append.mp hp with hp | hp
      · exact hnamed p hp hd
      · exact hnamed' p hp hd

namespace Command

variable {c : Command} {K : Finset String}

theorem nodup_argumentsOf (hnames : (c.arguments.map Argument.name).Nodup) (k : Option String) :
    ((c.argumentsOf k).map Argument.name).Nodup :=
  (List.filter_sublist.map Argument.name).nodup hnames

/-- A named group offers one of its arguments, or nothing unless it is required. -/
theorem mem_offers_some_iff {name : String} {o : List Argument} :
    o ∈ c.offers (some name) ↔
      c.requires name = false ∧ o = [] ∨ ∃ a ∈ c.argumentsOf (some name), o = [a.mandatory] := by
  rw [offers]
  cases c.requires name with
  | true => simp [eq_comm]
  | false => simp [eq_comm]

/-- A group offers arguments of its own. -/
theorem namesAmong_offers {k : Option String} {o : List Argument} (ho : o ∈ c.offers k) :
    NamesAmong o (c.argumentsOf k) := by
  intro p hp
  cases k with
  | none =>
    rw [offers, List.mem_singleton] at ho
    exact ⟨p, ho ▸ hp, rfl⟩
  | some name =>
    rcases mem_offers_some_iff.mp ho with ⟨-, rfl⟩ | ⟨a, ha, rfl⟩
    · simp at hp
    · rw [List.mem_singleton.mp hp]
      exact ⟨a, ha, rfl⟩

theorem namesAmong_combinations {order : List (Option String)} {o : List Argument}
    (ho : o ∈ combinations (order.map c.offers)) : NamesAmong o (order.flatMap c.argumentsOf) := by
  induction order generalizing o with
  | nil =>
    rw [List.map_nil, combinations, List.mem_singleton] at ho
    rw [ho]
    exact fun p hp => by simp at hp
  | cons k order ih =>
    rw [List.map_cons, combinations, List.mem_flatMap] at ho
    obtain ⟨x, hx, ho⟩ := ho
    obtain ⟨y, hy, rfl⟩ := List.mem_map.mp ho
    intro p hp
    rw [List.flatMap_cons]
    rcases List.mem_append.mp hp with hp | hp
    · obtain ⟨a, ha, hname⟩ := namesAmong_offers hx p hp
      exact ⟨a, List.mem_append_left _ ha, hname⟩
    · obtain ⟨a, ha, hname⟩ := ih hy p hp
      exact ⟨a, List.mem_append_right _ ha, hname⟩

/-- **The combinations that fit are counted group by group.** -/
theorem countP_combinations (hnames : (c.arguments.map Argument.name).Nodup)
    {order : List (Option String)} (horder : order.Nodup) :
    (combinations (order.map c.offers)).countP (fun o => Fits (order.flatMap c.argumentsOf) K o)
      = (order.map fun k => (c.offers k).countP fun o => Fits (c.argumentsOf k) K o).prod := by
  induction order with
  | nil => simp [combinations, Fits]
  | cons k order ih =>
    obtain ⟨hk, horder⟩ := List.nodup_cons.mp horder
    have hne : ∀ a ∈ c.argumentsOf k, ∀ b ∈ order.flatMap c.argumentsOf, a.name ≠ b.name := by
      intro a ha b hb hname
      obtain ⟨l, hl, hb⟩ := List.mem_flatMap.mp hb
      rw [mem_argumentsOf] at ha hb
      have hab := List.inj_on_of_nodup_map hnames ha.1 hb.1 hname
      rw [← ha.2, hab, hb.2] at hk
      exact hk hl
    -- behind an option that fits, every fitting combination of the other groups counts
    have hoption : ∀ x ∈ c.offers k,
        ((combinations (order.map c.offers)).map (x ++ ·)).countP
            (fun o => Fits ((k :: order).flatMap c.argumentsOf) K o)
          = if decide (Fits (c.argumentsOf k) K x) then
              (combinations (order.map c.offers)).countP
                (fun o => Fits (order.flatMap c.argumentsOf) K o)
            else 0 := by
      intro x hx
      rw [List.countP_map]
      have hfits : ∀ y ∈ combinations (order.map c.offers),
          Fits ((k :: order).flatMap c.argumentsOf) K (x ++ y) ↔
            Fits (c.argumentsOf k) K x ∧ Fits (order.flatMap c.argumentsOf) K y := by
        intro y hy
        exact fits_append (namesAmong_offers hx) (namesAmong_combinations hy) hne
      by_cases hx' : Fits (c.argumentsOf k) K x
      · rw [if_pos (by simpa using hx')]
        refine List.countP_congr fun y hy => ?_
        simp only [Function.comp_apply, decide_eq_true_eq, hfits y hy, hx', true_and]
      · rw [if_neg (by simpa using hx'), List.countP_eq_zero]
        intro y hy
        simp only [Function.comp_apply, decide_eq_true_eq, hfits y hy, hx', false_and,
          not_false_eq_true]
    rw [List.map_cons, combinations, List.countP_flatMap]
    refine (congrArg List.sum (List.map_congr_left hoption)).trans ?_
    rw [sum_map_ite, ih horder, List.map_cons, List.prod_cons]

/-- The keywords decide about a group: those of its arguments that have to be given are named, and
as many of a named group as the group asks for. -/
def Decides (c : Command) (K : Finset String) : Option String → Prop
  | none => ∀ a ∈ c.argumentsOf none, a.hasDefault = false → a.name ∈ K
  | some name =>
    if c.requires name then (c.argumentsOf (some name)).countP (fun a => a.name ∈ K) = 1
    else (c.argumentsOf (some name)).countP (fun a => a.name ∈ K) ≤ 1

instance (c : Command) (K : Finset String) (k : Option String) : Decidable (c.Decides K k) :=
  match k with
  | none => inferInstanceAs (Decidable (∀ a ∈ c.argumentsOf none, _ → _))
  | some _ => inferInstanceAs (Decidable (ite _ _ _))

theorem decides_some_iff {name : String} :
    c.Decides K (some name) ↔
      if c.requires name then (c.argumentsOf (some name)).countP (fun a => a.name ∈ K) = 1
      else (c.argumentsOf (some name)).countP (fun a => a.name ∈ K) ≤ 1 :=
  Iff.rfl

/-- What a group offers fits the keywords in one way or in none. -/
theorem countP_offers (hnames : (c.arguments.map Argument.name).Nodup) (k : Option String) :
    (c.offers k).countP (fun o => Fits (c.argumentsOf k) K o) = if c.Decides K k then 1 else 0 := by
  cases k with
  | none =>
    have hfits : Fits (c.argumentsOf none) K (c.argumentsOf none) ↔ c.Decides K none :=
      and_iff_right fun a ha _ => ⟨a, ha, rfl⟩
    simp only [offers, List.countP_singleton, decide_eq_true_eq, hfits]
  | some name =>
    have hone : ((c.argumentsOf (some name)).map fun a => [a.mandatory]).countP
        (fun o => Fits (c.argumentsOf (some name)) K o)
          = if (c.argumentsOf (some name)).countP (fun a => a.name ∈ K) = 1 then 1 else 0 := by
      rw [← countP_only (nodup_argumentsOf hnames _), List.countP_map]
      refine List.countP_congr fun a _ => ?_
      simp [fits_singleton_mandatory, imp_iff_not_or]
    have hnone : Fits (c.argumentsOf (some name)) K [] ↔
        (c.argumentsOf (some name)).countP (fun a => a.name ∈ K) = 0 := by
      simp [Fits]
    rw [offers, if_congr decides_some_iff rfl rfl]
    by_cases hreq : c.requires name
    · simp only [hreq, if_true]
      exact hone
    · simp only [hreq, if_false, Bool.false_eq_true]
      rw [List.countP_cons, hone]
      simp only [decide_eq_true_eq, hnone]
      -- nothing is offered for no name, the single member for one, and nothing fits more
      generalize (c.argumentsOf (some name)).countP (fun a => a.name ∈ K) = n
      obtain _ | _ | n := n
      · rfl
      · rfl
      · simp

end Command

/-! ### The overloads of a resolved command -/

namespace Resolved

variable {c : Command} {r : Resolved} {K : Finset String}

/-- The keywords decide about every group exactly when the constructor admits them, provided they
name arguments at all. -/
theorem admits_iff_decides (hc : c.Grouped) (hnames : (c.arguments.map Argument.name).Nodup)
    (h : c.resolve = .ok r) :
    r.Admits K ↔ (∀ k ∈ K, ∃ a ∈ r.command.arguments, a.name = k) ∧
      ∀ k ∈ r.command.groupOrder, r.command.Decides K k := by
  have hnodup : (r.command.arguments.map Argument.name).Nodup :=
    (Command.perm_names_of_resolve h).nodup_iff.mpr hnames
  -- the statement on a group asks what the group asks
  have hpasses : ∀ g ∈ r.command.groups,
      ((r.matchBlock g).Passes K ↔ r.command.Decides K (some g.name)) := by
    intro g hg
    rw [passes_matchBlock_iff, Command.decides_some_iff, members,
      card_inter_names (Command.nodup_argumentsOf hnodup _),
      Command.requires_name (Command.nodup_groups_of_resolve hc h) hg]
  constructor
  · intro hadmits
    refine ⟨hadmits.declared, fun k hk => ?_⟩
    obtain ⟨a, ha, rfl⟩ := Command.mem_groupOrder.mp hk
    cases hgroup : a.group with
    | none => exact hadmits.mandatory
    | some name =>
      obtain ⟨g, hg, rfl⟩ := Command.exists_group_of_resolve h ha hgroup
      exact (hpasses g hg).mp (hadmits.passes _ (List.mem_map_of_mem hg))
  · rintro ⟨hdeclared, hdecides⟩
    refine ⟨hdeclared, fun a ha hdefault => ?_, fun b hb => ?_⟩
    · have hmem : none ∈ r.command.groupOrder :=
        Command.mem_groupOrder.mpr ⟨a, Command.mem_argumentsOf.mp ha⟩
      exact hdecides none hmem a ha hdefault
    · obtain ⟨g, hg, rfl⟩ := List.mem_map.mp hb
      exact (hpasses g hg).mpr (hdecides _ (Command.mem_groupOrder_of_resolve hc h hg))

/-- **One combination accepts what the constructor admits**, and none accepts anything else. -/
theorem countP_accepts (hc : c.Grouped) (hnames : (c.arguments.map Argument.name).Nodup)
    (h : c.resolve = .ok r) :
    (Command.combinations (r.command.groupOrder.map r.command.offers)).countP
        (fun o => Accepts o K)
      = if r.Admits K then 1 else 0 := by
  have hnodup : (r.command.arguments.map Argument.name).Nodup :=
    (Command.perm_names_of_resolve h).nodup_iff.mpr hnames
  -- the groups together have all arguments
  have hall : ∀ a, a ∈ r.command.groupOrder.flatMap r.command.argumentsOf ↔
      a ∈ r.command.arguments := by
    intro a
    rw [List.mem_flatMap]
    constructor
    · rintro ⟨k, _, ha⟩
      exact (Command.mem_argumentsOf.mp ha).1
    · intro ha
      exact ⟨a.group, Command.mem_groupOrder.mpr ⟨a, ha, rfl⟩,
        Command.mem_argumentsOf.mpr ⟨ha, rfl⟩⟩
  have haccepts : ∀ o ∈ Command.combinations (r.command.groupOrder.map r.command.offers),
      (Accepts o K ↔ (∀ k ∈ K, ∃ a ∈ r.command.arguments, a.name = k) ∧
        Fits (r.command.groupOrder.flatMap r.command.argumentsOf) K o) := by
    intro o ho
    constructor
    · rintro ⟨hgiven, hnamed⟩
      refine ⟨fun k hk => ?_, fun a _ hk => hgiven a.name hk, hnamed⟩
      obtain ⟨p, hp, rfl⟩ := hgiven k hk
      obtain ⟨a, ha, hname⟩ := Command.namesAmong_combinations ho p hp
      exact ⟨a, (hall a).mp ha, hname⟩
    · rintro ⟨hdeclared, hgiven, hnamed⟩
      refine ⟨fun k hk => ?_, hnamed⟩
      obtain ⟨a, ha, rfl⟩ := hdeclared k hk
      exact hgiven a ((hall a).mpr ha) hk
  have hcount := Command.countP_combinations (K := K) hnodup r.command.nodup_groupOrder
  simp only [Command.countP_offers hnodup, prod_map_ite] at hcount
  rw [if_congr (admits_iff_decides hc hnames h) rfl rfl]
  by_cases hdeclared : ∀ k ∈ K, ∃ a ∈ r.command.arguments, a.name = k
  · rw [if_congr (and_iff_right hdeclared) rfl rfl, ← hcount]
    refine List.countP_congr fun o ho => ?_
    simp only [decide_eq_true_eq, haccepts o ho, and_iff_right hdeclared]
  · rw [if_neg fun h => hdeclared h.1, List.countP_eq_zero]
    intro o ho
    simp only [decide_eq_true_eq, haccepts o ho, hdeclared, false_and, not_false_eq_true]

/-- Overloads that exist are the combinations with their parameters in order. -/
theorem overloads_eq_map (h : c.resolve = .ok r) (hne : r.overloads ≠ []) :
    r.overloads = (Command.combinations (r.command.groupOrder.map r.command.offers)).map
      mandatoryFirst := by
  obtain ⟨-, -, hos⟩ := Command.resolve_eq_ok_iff.mp h
  obtain ⟨-, hos⟩ := Command.overloads_eq_ok_iff.mp hos
  split at hos
  · exact absurd hos hne
  · exact hos

/-- One overload accepts what the constructor admits, and none accepts anything else. -/
theorem countP_overloads (hc : c.Grouped) (hnames : (c.arguments.map Argument.name).Nodup)
    (h : c.resolve = .ok r) (hne : r.overloads ≠ []) :
    r.overloads.countP (fun o => Accepts o K) = if r.Admits K then 1 else 0 := by
  rw [← countP_accepts hc hnames h, overloads_eq_map h hne, List.countP_map]
  refine List.countP_congr fun o _ => ?_
  simp only [Function.comp_apply, decide_eq_true_eq, accepts_mandatoryFirst]

/-- There are overloads exactly when there are groups. -/
theorem overloads_eq_nil_iff (hc : c.Grouped) (h : c.resolve = .ok r) :
    r.overloads = [] ↔ r.command.groups = [] := by
  obtain ⟨-, -, hos⟩ := Command.resolve_eq_ok_iff.mp h
  obtain ⟨-, hos⟩ := Command.overloads_eq_ok_iff.mp hos
  have hlen := r.command.length_combinations
  have htwo : ∀ name ∈ r.command.namedGroups, 2 ≤ r.command.pickCount name := by
    intro name hname
    obtain ⟨a, ha, hgroup⟩ := Command.mem_namedGroups.mp hname
    obtain ⟨g, hg, rfl⟩ := Command.exists_group_of_resolve h ha hgroup
    have := Command.two_le_length_argumentsOf hc h hg
    unfold Command.pickCount
    omega
  constructor
  · intro hnil
    refine List.eq_nil_iff_forall_not_mem.mpr fun g hg => ?_
    have hmem : g.name ∈ r.command.namedGroups :=
      List.reduceOption_mem_iff.mpr (Command.mem_groupOrder_of_resolve hc h hg)
    -- the picks from this group make the product greater than one
    have hdvd := List.dvd_prod (List.mem_map_of_mem (f := r.command.pickCount) hmem)
    have hpos : 0 < (r.command.namedGroups.map r.command.pickCount).prod := by
      refine List.prod_pos_iff_forall_pos_nat.mpr fun n hn => ?_
      obtain ⟨name, hname, rfl⟩ := List.mem_map.mp hn
      exact Nat.lt_of_lt_of_le Nat.zero_lt_two (htwo name hname)
    have hle := Nat.le_of_dvd hpos hdvd
    have hpick := htwo g.name hmem
    rw [hnil, if_neg (by omega)] at hos
    have hzero := congrArg List.length hos
    rw [List.length_map, List.length_nil] at hzero
    omega
  · intro hnil
    have hnone : r.command.namedGroups = [] := by
      refine List.eq_nil_iff_forall_not_mem.mpr fun name hname => ?_
      obtain ⟨a, ha, hgroup⟩ := Command.mem_namedGroups.mp hname
      obtain ⟨g, hg, -⟩ := Command.exists_group_of_resolve h ha hgroup
      rw [hnil] at hg
      simp at hg
    rw [hnone, List.map_nil, List.prod_nil] at hlen
    rw [hos, if_pos hlen]

end Resolved

/-- **Overloads and constructor agree.**  The constructor checks each group by a statement of its
own.  There are overloads exactly when groups are left, and then a set of keywords is admitted by
the constructor if and only if one of the overloads accepts it; no other overload does. -/
theorem Command.overloads_agree_with_constructor {c : Command} {r : Resolved}
    (hnames : (c.arguments.map Argument.name).Nodup) (hc : c.Grouped) (h : c.resolve = .ok r) :
    r.constructor
        = joinLines (Resolved.constructorHead ++ r.matchBlocks.flatMap MatchBlock.lines) ∧
      (r.overloads = [] ↔ r.command.groups = []) ∧
        (r.overloads ≠ [] → ∀ K : Finset String,
          (r.Admits K ↔ ∃ o ∈ r.overloads, Accepts o K) ∧
            (r.Admits K → r.overloads.countP (fun o => Accepts o K) = 1)) := by
  refine ⟨r.constructor_eq, Resolved.overloads_eq_nil_iff hc h, fun hne K => ?_⟩
  have hcount := Resolved.countP_overloads (K := K) hc hnames h hne
  constructor
  · constructor
    · intro hadmits
      rw [if_pos hadmits] at hcount
      obtain ⟨o, ho, haccepts⟩ := List.countP_pos_iff.mp (by rw [hcount]; exact Nat.one_pos)
      exact ⟨o, ho, of_decide_eq_true haccepts⟩
    · rintro ⟨o, ho, haccepts⟩
      by_contra hnot
      rw [if_neg hnot, List.countP_eq_zero] at hcount
      exact hcount o ho (decide_eq_true haccepts)
  · intro hadmits
    rw [hcount, if_pos hadmits]

/-- A required group and an optional one, and a dissolved one whose argument is always required. -/
theorem Command.sample_overloads_agree_with_constructor :
    ∃ r, Command.sample.resolve = .ok r ∧ r.overloads.length = 6 ∧
      r.Admits {"group_id", "account", "message", "forget"} ∧
        r.overloads.countP
          (fun o => Accepts o {"group_id", "account", "message", "forget"}) = 1 := by
  obtain ⟨r, h, hlen, hadmits⟩ : ∃ r, Command.sample.resolve = .ok r ∧ r.overloads.length = 6 ∧
      r.Admits {"group_id", "account", "message", "forget"} :=
    ⟨_, rfl, rfl, by decide⟩
  have hne : r.overloads ≠ [] := by
    intro hnil
    rw [hnil] at hlen
    simp at hlen
  have hc : Command.sample.Grouped := ⟨by decide, by decide⟩
  obtain ⟨-, -, hagree⟩ := overloads_agree_with_constructor (by decide) hc h
  exact ⟨r, h, hlen, hadmits, (hagree hne _).2 hadmits⟩

end RpcBindings
