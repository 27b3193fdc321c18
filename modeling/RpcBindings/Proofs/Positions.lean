import RpcBindings.Proofs.Tree
import RpcBindings.Source.Position
import Mathlib.Data.List.Flatten
import Mathlib.Data.List.Nodup
import Mathlib.Logic.Relation

/-!
# Positions above and below one another

Equal nodes at different places of a tree are different positions.  The way up from a position is
part of it, so that it has one parent at most: the positions above it form a chain, and two subtrees
are disjoint unless one of them contains the other.

## Main definitions

* `Position.children` — the positions of the children of a node.
* `Position.IsBelow` — a position lies strictly below another one.
* `Position.subtree` — a position and all below it, in pre-order.

## Main results

* `Position.mem_children` — what leads from a node to a child is its place.
* `Position.mem_subtree` — a subtree consists of its top and the positions below it.
* `Position.mem_subtree_or_mem_subtree` — **what lies above one position forms a chain.**
* `Position.nodup_subtree` — no position is listed twice.
-/

namespace RpcBindings.Source.Position

variable {a b c q : Position}

/-! ### Children -/

/-- The positions of the children of a node. -/
def children (a : Position) : List Position :=
  a.node.children.mapIdx fun i c => ⟨c, ⟨a.node, i⟩ :: a.above⟩

theorem getElem?_children {i : Nat} :
    a.children[i]? = some q ↔
      a.node.children[i]? = some q.node ∧ q.above = ⟨a.node, i⟩ :: a.above := by
  rw [children, List.getElem?_mapIdx, Option.map_eq_some_iff]
  constructor
  · rintro ⟨c, hc, rfl⟩
    exact ⟨hc, rfl⟩
  · rintro ⟨hnode, habove⟩
    exact ⟨q.node, hnode, by rw [← habove]⟩

theorem mem_children :
    q ∈ a.children ↔
      ∃ i, a.node.children[i]? = some q.node ∧ q.above = ⟨a.node, i⟩ :: a.above := by
  simp only [List.mem_iff_getElem?, getElem?_children]

theorem map_node_children (a : Position) : a.children.map node = a.node.children := by
  refine List.ext_getElem? fun i => ?_
  rw [children, List.getElem?_map, List.getElem?_mapIdx, Option.map_map]
  exact Option.map_id'

/-- The parent can be read off a position. -/
theorem eq_of_mem_children (ha : q ∈ a.children) (hb : q ∈ b.children) : a = b := by
  obtain ⟨i, -, ha⟩ := mem_children.mp ha
  obtain ⟨j, -, hb⟩ := mem_children.mp hb
  obtain ⟨hstep, habove⟩ := List.cons_eq_cons.mp (ha.symm.trans hb)
  cases a
  cases b
  simp_all

theorem length_above_of_mem_children (h : q ∈ a.children) :
    q.above.length = a.above.length + 1 := by
  obtain ⟨i, -, habove⟩ := mem_children.mp h
  rw [habove, List.length_cons]

theorem nodup_children (a : Position) : a.children.Nodup := by
  rw [List.Nodup, List.pairwise_iff_getElem]
  intro i j hi hj hij heq
  simp only [children, List.getElem_mapIdx, Position.mk.injEq, List.cons.injEq, Step.mk.injEq,
    true_and, and_true] at heq
  omega

/-- What passes from the children of a position to the position holds of all positions. -/
theorem childInduction {motive : Position → Prop}
    (step : ∀ a, (∀ c ∈ a.children, motive c) → motive a) (a : Position) : motive a :=
  step a fun c _ => childInduction step c
termination_by sizeOf a.node
decreasing_by
  obtain ⟨i, hnode, -⟩ := mem_children.mp ‹_›
  exact Node.sizeOf_lt_of_mem_children (List.mem_of_getElem? hnode)

/-! ### Above and below -/

/-- The position is one of the children of another one. -/
def IsChildOf (q a : Position) : Prop :=
  q ∈ a.children

/-- The position lies strictly below another one. -/
def IsBelow (q a : Position) : Prop :=
  Relation.TransGen IsChildOf q a

theorem IsBelow.length_lt (h : q.IsBelow a) : a.above.length < q.above.length := by
  induction h with
  | single h => exact Nat.lt_of_lt_of_eq (Nat.lt_succ_self _) (length_above_of_mem_children h).symm
  | tail _ h ih =>
    have hlength := length_above_of_mem_children h
    omega

theorem IsBelow.ne (h : q.IsBelow a) : q ≠ a := by
  rintro rfl
  exact Nat.lt_irrefl _ h.length_lt

/-- The position and all positions below it, each before those below it. -/
def subtree (a : Position) : List Position :=
  within a.above a.node

theorem withins_eq_flatMap (n : Node) (above : List Step) (k : Nat) (cs : List Node) :
    withins n above k cs
      = (cs.mapIdx fun i c => (⟨c, ⟨n, k + i⟩ :: above⟩ : Position)).flatMap subtree := by
  induction cs generalizing k with
  | nil => rw [withins, List.mapIdx_nil, List.flatMap_nil]
  | cons c cs ih =>
    rw [withins, List.mapIdx_cons, List.flatMap_cons, ih]
    simp only [Nat.add_assoc, Nat.add_comm 1]
    rfl

theorem subtree_eq (a : Position) : a.subtree = a :: a.children.flatMap subtree := by
  obtain ⟨n, above⟩ := a
  cases n with
  | leaf => rw [subtree, within]; rfl
  | tree g r k l cs =>
    rw [subtree, within, withins_eq_flatMap]
    simp only [Nat.zero_add]
    rfl

theorem mem_subtree_iff_reflTransGen : q ∈ a.subtree ↔ Relation.ReflTransGen IsChildOf q a := by
  induction a using childInduction with
  | step a ih =>
    rw [subtree_eq, List.mem_cons, List.mem_flatMap, Relation.ReflTransGen.cases_tail_iff]
    refine or_congr eq_comm (exists_congr fun c => ?_)
    rw [and_comm]
    exact and_congr_left fun hc => ih c hc

/-- A subtree consists of its top and what lies below it. -/
theorem mem_subtree : q ∈ a.subtree ↔ q = a ∨ q.IsBelow a := by
  rw [mem_subtree_iff_reflTransGen, Relation.reflTransGen_iff_eq_or_transGen, eq_comm, IsBelow]

theorem mem_subtree_self (a : Position) : a ∈ a.subtree :=
  mem_subtree.mpr (.inl rfl)

theorem isBelow_iff : q.IsBelow a ↔ ∃ c ∈ a.children, q ∈ c.subtree := by
  simp only [IsBelow, Relation.TransGen.tail'_iff, mem_subtree_iff_reflTransGen]
  exact exists_congr fun c => and_comm

/-- **What lies above one position forms a chain.** -/
theorem mem_subtree_or_mem_subtree (ha : q ∈ a.subtree) (hb : q ∈ b.subtree) :
    a ∈ b.subtree ∨ b ∈ a.subtree := by
  have hparent : Relator.RightUnique IsChildOf := fun _ _ _ hb hc => eq_of_mem_children hb hc
  rw [mem_subtree_iff_reflTransGen] at ha hb
  rw [mem_subtree_iff_reflTransGen, mem_subtree_iff_reflTransGen]
  exact Relation.ReflTransGen.total_of_right_unique hparent ha hb

/-- Two positions in the same depth contain each other only if they are the same. -/
theorem eq_of_mem_subtree (h : a ∈ b.subtree) (hdepth : a.above.length ≤ b.above.length) :
    a = b := by
  rcases mem_subtree.mp h with heq | hbelow
  · exact heq
  · exact absurd hbelow.length_lt (Nat.not_lt.mpr hdepth)

/-- What lies below a node and above a position in the subtree of one of its children lies in that
subtree. -/
theorem mem_subtree_of_mem_children (hc : c ∈ a.children) (hb : b.IsBelow a)
    (hqb : q ∈ b.subtree) (hqc : q ∈ c.subtree) : b ∈ c.subtree := by
  rcases mem_subtree_or_mem_subtree hqb hqc with hbc | hcb
  · exact hbc
  · have hdepth : c.above.length ≤ b.above.length := by
      rw [length_above_of_mem_children hc]
      exact hb.length_lt
    rw [eq_of_mem_subtree hcb hdepth]
    exact b.mem_subtree_self

/-- No position is listed twice. -/
theorem nodup_subtree (a : Position) : a.subtree.Nodup := by
  induction a using childInduction with
  | step a ih =>
    rw [subtree_eq, List.nodup_cons, List.nodup_flatMap, List.mem_flatMap, ← isBelow_iff]
    refine ⟨fun h => h.ne rfl, ih, a.nodup_children.imp_of_mem fun {b c} hb hc hne q hqb hqc => ?_⟩
    have hdepth := (length_above_of_mem_children hb).trans (length_above_of_mem_children hc).symm
    rcases mem_subtree_or_mem_subtree hqb hqc with hbc | hcb
    · exact hne (eq_of_mem_subtree hbc (Nat.le_of_eq hdepth))
    · exact hne (eq_of_mem_subtree hcb (Nat.le_of_eq hdepth.symm)).symm

end RpcBindings.Source.Position
