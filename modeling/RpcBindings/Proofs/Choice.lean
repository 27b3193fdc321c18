import RpcBindings.Proofs.Resolution
import Mathlib.Algebra.BigOperators.Group.List.Lemmas
import Mathlib.Algebra.GroupWithZero.Nat
import Mathlib.Data.List.Induction
import Mathlib.Data.List.ReduceOption

/-!
# Overloads as choices

A call of a command picks from each of its groups: exactly one argument of a group that is required,
at most one of a group that is not.  A choice lists the picks group by group, so that choices can be
compared lexicographically, and the overloads of a command are its choices in that order.

Arguments are picked by their place in the group and not by their name, so that nothing has to be
assumed about the names of a command.

## Main definitions

* `Command.namedGroups` — the groups that occur on arguments.
* `Command.IsPick`, `Command.IsChoice` — a pick from one group, and one from each group.
* `Command.gather` — the arguments that a choice gives to a call.
* `Command.Realises` — what the overload of a choice consists of, and in which order.

## Main results

* `Command.lists_namedGroups` — the groups are listed by first appearance, each once.
* `Command.combinations_offers` — the ways to call a command are what its choices gather.
* `Command.overloads_realise_choices` — **the overloads of a command realise its choices**, all of
  them, each once and in lexicographic order.
-/

namespace RpcBindings

/-! ### First appearance -/

/-- Without its repetitions a list is ordered by first appearance. -/
theorem pairwise_idxOf_eraseDups {α : Type} [BEq α] [LawfulBEq α] (xs : List α) :
    xs.eraseDups.Pairwise fun x y => xs.idxOf x < xs.idxOf y := by
  -- from the left a new first member would move all the others
  induction xs using List.reverseRecOn with
  | nil => simp
  | append_singleton xs x ih =>
    rw [List.eraseDups_append, List.pairwise_append]
    refine ⟨?_, ?_, ?_⟩
    · -- a later member does not move the first appearance of an earlier one
      refine ih.imp_of_mem fun {y z} hy hz hyz => ?_
      rw [List.mem_eraseDups] at hy hz
      rwa [List.idxOf_append_of_mem hy, List.idxOf_append_of_mem hz]
    · unfold List.removeAll
      rw [List.filter_singleton]
      cases List.elem x xs with
      | false => simp [List.eraseDups_cons]
      | true => simp
    · intro y hy z hz
      rw [List.mem_eraseDups] at hy hz
      obtain ⟨hz, hnot⟩ := List.mem_filter.mp hz
      have hnot : z ∉ xs := by simpa using hnot
      rw [List.idxOf_append_of_mem hy, List.idxOf_append_of_notMem hnot]
      have hlt := List.idxOf_lt_length_of_mem hy
      omega

theorem nodup_eraseDups {α : Type} [BEq α] [LawfulBEq α] (xs : List α) : xs.eraseDups.Nodup :=
  (pairwise_idxOf_eraseDups xs).imp fun {x y} h hxy => by rw [hxy] at h; omega

namespace Command

variable {c : Command}

/-- The place of the first argument of a group. -/
def firstPlace (c : Command) (name : String) : Nat :=
  (c.arguments.map Argument.group).idxOf (some name)

/-- The named groups that occur on arguments, in the order of `groupOrder`. -/
def namedGroups (c : Command) : List String :=
  c.groupOrder.reduceOption

/-- The names are those of the groups that occur on arguments, each once, by first appearance. -/
structure ListsGroups (c : Command) (names : List String) : Prop where
  mem_iff : ∀ name, name ∈ names ↔ ∃ a ∈ c.arguments, a.group = some name
  pairwise : names.Pairwise fun m n => c.firstPlace m < c.firstPlace n

theorem mem_groupOrder {k : Option String} :
    k ∈ c.groupOrder ↔ ∃ a ∈ c.arguments, a.group = k := by
  rw [groupOrder, List.mem_eraseDups, List.mem_map]

theorem mem_namedGroups {name : String} :
    name ∈ c.namedGroups ↔ ∃ a ∈ c.arguments, a.group = some name := by
  rw [namedGroups, List.reduceOption_mem_iff, mem_groupOrder]

theorem nodup_groupOrder (c : Command) : c.groupOrder.Nodup :=
  nodup_eraseDups _

/-- Each group of a resolved command occurs on arguments. -/
theorem mem_groupOrder_of_resolve {r : Resolved} (hc : c.Grouped) (h : c.resolve = .ok r)
    {g : Group} (hg : g ∈ r.command.groups) : some g.name ∈ r.command.groupOrder := by
  have hlen := two_le_length_argumentsOf hc h hg
  obtain ⟨a, ha⟩ := List.exists_mem_of_length_pos (Nat.lt_of_lt_of_le Nat.zero_lt_two hlen)
  exact mem_groupOrder.mpr ⟨a, mem_argumentsOf.mp ha⟩

theorem lists_namedGroups (c : Command) : c.ListsGroups c.namedGroups where
  mem_iff := fun _ => mem_namedGroups
  pairwise := by
    refine List.Pairwise.filterMap id ?_ (pairwise_idxOf_eraseDups (c.arguments.map Argument.group))
    rintro k l hkl m hm n hn
    cases hm
    cases hn
    exact hkl

/-! ### Picks and choices -/

/-- What may be picked from a group: the place of one of its arguments, or nothing unless the group
is required. -/
def IsPick (c : Command) (name : String) : Option Nat → Prop
  | none => c.requires name = false
  | some i => i < (c.argumentsOf (some name)).length

/-- A choice: a pick from each group. -/
def IsChoice (c : Command) (picks : List (Option Nat)) : Prop :=
  List.Forall₂ c.IsPick c.namedGroups picks

/-- How many picks there are from a group. -/
def pickCount (c : Command) (name : String) : Nat :=
  (c.argumentsOf (some name)).length + if c.requires name then 0 else 1

/-- The argument that a pick gives to a call. -/
def picked (c : Command) (name : String) : Option Nat → List Argument
  | none => []
  | some i => ((c.argumentsOf (some name))[i]?).toList.map Argument.mandatory

/-- The arguments that a choice picks. -/
def chosen (c : Command) (picks : List (Option Nat)) : List Argument :=
  (List.zipWith c.picked c.namedGroups picks).flatten

/-- What picks give to a call, group after group.  Where the order has no name stand the arguments
outside of all groups. -/
def gather (c : Command) : List (Option String) → List (Option Nat) → List Argument
  | [], _ => []
  | none :: order, picks => c.argumentsOf none ++ c.gather order picks
  | some _ :: _, [] => []
  | some name :: order, pick :: picks => c.picked name pick ++ c.gather order picks

/-- What the overload of a choice consists of: all arguments outside of all groups as they are, and
those that are picked, as mandatory ones.  Those without a default stand in front of those with one,
and otherwise they stand as they are gathered. -/
structure Realises (c : Command) (picks : List (Option Nat)) (o : List Argument) : Prop where
  perm : o.Perm (c.argumentsOf none ++ c.chosen picks)
  pairwise : o.Pairwise fun a b => a.hasDefault → b.hasDefault
  stable : ∀ b, o.filter (fun a => a.hasDefault == b)
    = (c.gather c.groupOrder picks).filter (fun a => a.hasDefault == b)

/-- The picks from a group, in order. -/
def picks (c : Command) (name : String) : List (Option Nat) :=
  (if c.requires name then [] else [none]) ++
    (List.range (c.argumentsOf (some name)).length).map some

/-- The choices from several groups; the picks from the last group vary fastest. -/
def choicesFrom (c : Command) : List String → List (List (Option Nat))
  | [] => [[]]
  | name :: names => (c.picks name).flatMap fun p => (c.choicesFrom names).map (p :: ·)

theorem mem_picks {name : String} {p : Option Nat} : p ∈ c.picks name ↔ c.IsPick name p := by
  unfold picks
  cases p with
  | none => by_cases h : c.requires name <;> simp [IsPick, h]
  | some i => by_cases h : c.requires name <;> simp [IsPick, h]

theorem length_picks (c : Command) (name : String) : (c.picks name).length = c.pickCount name := by
  unfold picks pickCount
  by_cases h : c.requires name
  · simp [h]
  · simp [h, Nat.add_comm]

/-- Picking nothing comes first, and then the arguments in their order. -/
theorem pairwise_picks (c : Command) (name : String) : (c.picks name).Pairwise (· < ·) := by
  rw [picks, List.pairwise_append]
  refine ⟨?_, ?_, ?_⟩
  · split <;> simp
  · rw [List.pairwise_map]
    exact List.pairwise_lt_range
  · intro p hp q hq
    obtain ⟨i, _, rfl⟩ := List.mem_map.mp hq
    split at hp
    · simp at hp
    · rw [List.mem_singleton.mp hp]
      exact trivial

theorem mem_choicesFrom {names : List String} {ps : List (Option Nat)} :
    ps ∈ c.choicesFrom names ↔ List.Forall₂ c.IsPick names ps := by
  induction names generalizing ps with
  | nil => simp [choicesFrom]
  | cons name names ih =>
    rw [choicesFrom, List.mem_flatMap, List.forall₂_cons_left_iff]
    constructor
    · rintro ⟨p, hp, hps⟩
      obtain ⟨qs, hqs, rfl⟩ := List.mem_map.mp hps
      exact ⟨p, qs, mem_picks.mp hp, ih.mp hqs, rfl⟩
    · rintro ⟨p, qs, hp, hqs, rfl⟩
      exact ⟨p, mem_picks.mpr hp, List.mem_map.mpr ⟨qs, ih.mpr hqs, rfl⟩⟩

/-- The choices are listed in lexicographic order. -/
theorem pairwise_choicesFrom (c : Command) (names : List String) :
    (c.choicesFrom names).Pairwise (· < ·) := by
  induction names with
  | nil => simp [choicesFrom]
  | cons name names ih =>
    rw [choicesFrom, List.pairwise_flatMap]
    constructor
    · -- behind the same pick the remaining groups decide
      intro p _
      rw [List.pairwise_map]
      exact ih.imp fun h => List.Lex.cons h
    · refine (c.pairwise_picks name).imp fun {p q} hpq ps hps qs hqs => ?_
      obtain ⟨_, _, rfl⟩ := List.mem_map.mp hps
      obtain ⟨_, _, rfl⟩ := List.mem_map.mp hqs
      exact List.Lex.rel hpq

theorem length_choicesFrom (c : Command) (names : List String) :
    (c.choicesFrom names).length = (names.map c.pickCount).prod := by
  induction names with
  | nil => rfl
  | cons name names ih =>
    have hmap : ∀ p ∈ c.picks name,
        ((c.choicesFrom names).map (p :: ·)).length = (names.map c.pickCount).prod := by
      intro p _
      rw [List.length_map, ih]
    rw [choicesFrom, List.length_flatMap, List.map_congr_left hmap, List.map_const',
      List.sum_replicate_nat, length_picks, List.map_cons, List.prod_cons]

/-! ### Combinations are choices -/

/-- What a group offers is what can be picked from it. -/
theorem offers_some (c : Command) (name : String) :
    c.offers (some name) = (c.picks name).map (c.picked name) := by
  have hchosen : (c.argumentsOf (some name)).map (fun a => [a.mandatory])
      = ((List.range (c.argumentsOf (some name)).length).map some).map (c.picked name) := by
    refine List.ext_getElem (by simp) fun i h₁ h₂ => ?_
    simp only [List.length_map] at h₁
    simp [picked, List.getElem?_eq_getElem h₁]
  rw [offers, picks]
  split
  · rw [List.nil_append]
    exact hchosen
  · rw [List.map_append, ← hchosen]
    rfl

/-- The combinations of what groups offer are what the choices from them gather. -/
theorem combinations_offers (c : Command) (order : List (Option String)) :
    combinations (order.map c.offers)
      = (c.choicesFrom order.reduceOption).map (c.gather order) := by
  induction order with
  | nil => rfl
  | cons k order ih =>
    cases k with
    | none =>
      rw [List.map_cons, combinations, ih, List.reduceOption_cons_of_none, offers,
        List.flatMap_singleton, List.map_map]
      rfl
    | some name =>
      rw [List.map_cons, combinations, ih, List.reduceOption_cons_of_some, offers_some, choicesFrom,
        List.flatMap_map, List.map_flatMap]
      simp only [List.map_map]
      rfl

/-- There are as many combinations as the groups have picks, multiplied. -/
theorem length_combinations (c : Command) :
    (combinations (c.groupOrder.map c.offers)).length = (c.namedGroups.map c.pickCount).prod := by
  rw [combinations_offers, List.length_map]
  exact c.length_choicesFrom _

/-- Wherever they stand among the groups, the arguments outside of all groups are gathered once. -/
theorem perm_gather {order : List (Option String)} {ps : List (Option Nat)}
    (hnodup : order.Nodup) (hlen : ps.length = order.reduceOption.length) :
    (c.gather order ps).Perm
      ((if none ∈ order then c.argumentsOf none else []) ++
        (List.zipWith c.picked order.reduceOption ps).flatten) := by
  induction order generalizing ps with
  | nil => simp [gather]
  | cons k order ih =>
    obtain ⟨hk, horder⟩ := List.nodup_cons.mp hnodup
    cases k with
    | none =>
      rw [List.reduceOption_cons_of_none] at hlen ⊢
      have h := ih horder hlen
      rw [if_neg hk, List.nil_append] at h
      rw [gather, if_pos List.mem_cons_self]
      exact h.append_left _
    | some name =>
      rw [List.reduceOption_cons_of_some] at hlen ⊢
      cases ps with
      | nil => simp at hlen
      | cons p ps =>
        have h := ih horder (by simpa using hlen)
        have hmem : (none ∈ some name :: order) ↔ none ∈ order := by simp
        rw [gather, List.zipWith_cons_cons, List.flatten_cons, if_congr hmem rfl rfl]
        refine (h.append_left (c.picked name p)).trans ?_
        rw [← List.append_assoc, ← List.append_assoc]
        exact List.perm_append_comm.append_right _

/-- The gathered arguments in order realise a choice. -/
theorem realises_mandatoryFirst {ps : List (Option Nat)} (h : c.IsChoice ps) :
    c.Realises ps (mandatoryFirst (c.gather c.groupOrder ps)) where
  perm := by
    refine (perm_mandatoryFirst _).trans ?_
    have hperm := c.perm_gather c.nodup_groupOrder h.length_eq.symm
    -- without arguments outside of all groups there is nothing to gather for them either
    have hnone : (if none ∈ c.groupOrder then c.argumentsOf none else []) = c.argumentsOf none := by
      split
      · rfl
      · next hmem =>
        refine (List.filter_eq_nil_iff.mpr fun a ha hgroup => ?_).symm
        exact hmem (mem_groupOrder.mpr ⟨a, ha, by simpa using hgroup⟩)
    rwa [hnone] at hperm
  pairwise := pairwise_mandatoryFirst _
  stable := fun b => filter_hasDefault_mandatoryFirst b _

end Command

/-! ### The overloads of a command -/

namespace Resolved

/-- The overloads of a resolved command realise the given choices. -/
structure Enumerates (r : Resolved) (choices : List (List (Option Nat))) : Prop where
  /-- Every choice is listed, and nothing else. -/
  mem_iff : ∀ ps, ps ∈ choices ↔ r.command.IsChoice ps
  /-- They are in lexicographic order, and so each is listed once.  Nothing comes before the
  arguments of a group. -/
  pairwise : choices.Pairwise (· < ·)
  length_eq : choices.length = (r.command.namedGroups.map r.command.pickCount).prod
  overloads_eq_nil : choices.length = 1 → r.overloads = []
  realises : choices.length ≠ 1 → List.Forall₂ r.command.Realises choices r.overloads

end Resolved

/-- **The overloads of a command realise its choices.**  The groups to choose from are those that
occur on the arguments of the dissolved command, by first appearance in the ordered arguments.  If
there is only one choice there are no overloads; otherwise there is one for each choice, in
lexicographic order of the choices. -/
theorem Command.overloads_realise_choices {c : Command} {r : Resolved} (h : c.resolve = .ok r) :
    r.command = c.dissolve.ordered ∧ r.command.ListsGroups r.command.namedGroups ∧
      ∃ choices, r.Enumerates choices := by
  obtain ⟨-, hr, hos⟩ := resolve_eq_ok_iff.mp h
  obtain ⟨-, hos⟩ := overloads_eq_ok_iff.mp hos
  refine ⟨hr, r.command.lists_namedGroups, r.command.choicesFrom r.command.namedGroups, ?_⟩
  rw [length_combinations, ← length_choicesFrom] at hos
  refine ⟨fun ps => mem_choicesFrom, r.command.pairwise_choicesFrom _,
    r.command.length_choicesFrom _, fun hone => ?_, fun hone => ?_⟩
  · rw [hos, if_pos hone]
  · rw [hos, if_neg hone, combinations_offers, List.map_map, List.forall₂_map_right_iff]
    refine List.forall₂_same.mpr fun ps hps => ?_
    exact realises_mandatoryFirst (mem_choicesFrom.mp hps)

/-- Two groups that are left after a third one has been dissolved. -/
theorem Command.sample_overloads_realise_choices :
    ∃ r, Command.sample.resolve = .ok r ∧ r.overloads.length = 6 ∧
      r.command = Command.sample.dissolve.ordered ∧
        r.command.ListsGroups r.command.namedGroups ∧ ∃ choices, r.Enumerates choices := by
  obtain ⟨r, h, hlen⟩ : ∃ r, Command.sample.resolve = .ok r ∧ r.overloads.length = 6 :=
    ⟨_, rfl, rfl⟩
  exact ⟨r, h, hlen, overloads_realise_choices h⟩

end RpcBindings
