import RpcBindings.Proofs.Positions

/-!
# Outermost nodes

A search for outermost nodes does not look below what it finds.  Whether a node is found may depend
on where it stands, so that the search is stated for positions; the search of the nodes themselves
is the one that looks at nothing else.

## Main definitions

* `Position.outermost` — the search below a position.
* `Position.IsOutermost` — a match that no other match stands above.

## Main results

* `Position.map_node_outermost` — the nodes at the positions found are the nodes found.
* `Position.mem_outermost` — the search finds the matches that no other match stands above.
* `Position.outermost_sublist_subtree` — it finds them in their order.
* `Position.exists_mem_outermost` — every match lies in what is found.
* `Position.outermost_splits_matches` — **the outermost matches below a node.**
-/

namespace RpcBindings.Source

theorem Node.outermosts_eq_flatMap (p : Node → Bool) (cs : List Node) :
    outermosts p cs = cs.flatMap fun c => if p c then [c] else c.outermost p := by
  induction cs with
  | nil => rw [outermosts, List.flatMap_nil]
  | cons c cs ih => rw [outermosts, List.flatMap_cons, ih]

theorem Node.outermost_eq (p : Node → Bool) (n : Node) :
    n.outermost p = n.children.flatMap fun c => if p c then [c] else c.outermost p := by
  cases n with
  | leaf => rw [outermost]; rfl
  | tree g r k l cs => rw [outermost, outermosts_eq_flatMap, Node.children]

namespace Position

variable {P : Position → Bool} {a b q top : Position}

/-! ### The search -/

mutual

/-- The search in the children of a node that lies below the steps `above`. -/
def outermostBelow (P : Position → Bool) (above : List Step) : Node → List Position
  | .leaf .. => []
  | n@(.tree _ _ _ _ cs) => outermostAmong P n above 0 cs

/-- The search in the children of `parent` from the place `index` on. -/
def outermostAmong (P : Position → Bool) (parent : Node) (above : List Step) (index : Nat) :
    List Node → List Position
  | [] => []
  | c :: cs =>
    (if P ⟨c, ⟨parent, index⟩ :: above⟩ then [⟨c, ⟨parent, index⟩ :: above⟩]
      else outermostBelow P (⟨parent, index⟩ :: above) c) ++
        outermostAmong P parent above (index + 1) cs

end

/-- The positions below a position that satisfy `P` and lie below no other such position. -/
def outermost (P : Position → Bool) (a : Position) : List Position :=
  outermostBelow P a.above a.node

theorem outermostAmong_eq_flatMap (P : Position → Bool) (n : Node) (above : List Step) (k : Nat)
    (cs : List Node) :
    outermostAmong P n above k cs
      = (cs.mapIdx fun i c => (⟨c, ⟨n, k + i⟩ :: above⟩ : Position)).flatMap
          fun c => if P c then [c] else outermost P c := by
  induction cs generalizing k with
  | nil => rw [outermostAmong, List.mapIdx_nil, List.flatMap_nil]
  | cons c cs ih =>
    rw [outermostAmong, List.mapIdx_cons, List.flatMap_cons, ih]
    simp only [Nat.add_assoc, Nat.add_comm 1]
    rfl

theorem outermost_eq (P : Position → Bool) (a : Position) :
    a.outermost P = a.children.flatMap fun c => if P c then [c] else c.outermost P := by
  obtain ⟨n, above⟩ := a
  cases n with
  | leaf => rw [outermost, outermostBelow]; rfl
  | tree g r k l cs =>
    rw [outermost, outermostBelow, outermostAmong_eq_flatMap]
    simp only [Nat.zero_add]
    rfl

/-- A search that looks at nothing but the nodes finds the nodes at the positions found. -/
theorem map_node_outermost (p : Node → Bool) (a : Position) :
    (a.outermost fun q => p q.node).map node = a.node.outermost p := by
  induction a using childInduction with
  | step a ih =>
    rw [outermost_eq, Node.outermost_eq, ← map_node_children, List.map_flatMap, List.flatMap_map]
    refine List.flatMap_congr fun c hc => ?_
    split
    · rfl
    · exact ih c hc

/-! ### What is found -/

/-- The position lies below `top` and satisfies `P`, and no position between them does. -/
structure IsOutermost (P : Position → Bool) (top q : Position) : Prop where
  isBelow : q.IsBelow top
  holds : P q = true
  eq_false : ∀ a, a.IsBelow top → q.IsBelow a → P a = false

/-- The search finds the matches that no other match stands above. -/
theorem mem_outermost : q ∈ top.outermost P ↔ IsOutermost P top q := by
  induction top using childInduction with
  | step top ih =>
    rw [outermost_eq, List.mem_flatMap]
    constructor
    · rintro ⟨c, hc, hq⟩
      by_cases hmatch : P c = true
      · rw [if_pos hmatch, List.mem_singleton] at hq
        subst hq
        refine ⟨isBelow_iff.mpr ⟨q, hc, q.mem_subtree_self⟩, hmatch, fun a ha hqa => ?_⟩
        -- nothing stands between a node and its child
        have haq := mem_subtree_of_mem_children hc ha (mem_subtree.mpr (.inr hqa))
          q.mem_subtree_self
        exact absurd (eq_of_mem_subtree haq (Nat.le_of_lt hqa.length_lt)) hqa.ne.symm
      · rw [if_neg hmatch, ih c hc] at hq
        have hqc : q ∈ c.subtree := mem_subtree.mpr (.inr hq.isBelow)
        refine ⟨isBelow_iff.mpr ⟨c, hc, hqc⟩, hq.holds, fun a ha hqa => ?_⟩
        have hac := mem_subtree_of_mem_children hc ha (mem_subtree.mpr (.inr hqa)) hqc
        rcases mem_subtree.mp hac with rfl | hac
        · exact eq_false_of_ne_true hmatch
        · exact hq.eq_false a hac hqa
    · intro h
      obtain ⟨c, hc, hqc⟩ := isBelow_iff.mp h.isBelow
      refine ⟨c, hc, ?_⟩
      have hctop : c.IsBelow top := isBelow_iff.mpr ⟨c, hc, c.mem_subtree_self⟩
      rcases mem_subtree.mp hqc with rfl | hqc
      · rw [if_pos h.holds]
        exact List.mem_singleton_self q
      · rw [h.eq_false c hctop hqc, if_neg Bool.false_ne_true, ih c hc]
        exact ⟨hqc, h.holds, fun a hac hqa => h.eq_false a (hac.trans hctop) hqa⟩

/-- What is found is found in its order. -/
theorem outermost_sublist_subtree (P : Position → Bool) (top : Position) :
    (top.outermost P).Sublist top.subtree := by
  induction top using childInduction with
  | step top ih =>
    rw [outermost_eq, subtree_eq]
    refine .cons top (List.Sublist.flatMap_right _ fun c hc => ?_)
    split
    · exact List.singleton_sublist.mpr c.mem_subtree_self
    · exact ih c hc

/-- Every match lies in what is found. -/
theorem exists_mem_outermost (hq : q.IsBelow top) (hP : P q = true) :
    ∃ a ∈ top.outermost P, q ∈ a.subtree := by
  induction top using childInduction with
  | step top ih =>
    obtain ⟨c, hc, hqc⟩ := isBelow_iff.mp hq
    rw [outermost_eq]
    by_cases hmatch : P c = true
    · refine ⟨c, List.mem_flatMap.mpr ⟨c, hc, ?_⟩, hqc⟩
      rw [if_pos hmatch]
      exact List.mem_singleton_self c
    · have hne : q ≠ c := fun heq => hmatch (heq ▸ hP)
      obtain ⟨a, ha, hqa⟩ := ih c hc ((mem_subtree.mp hqc).resolve_left hne)
      refine ⟨a, List.mem_flatMap.mpr ⟨c, hc, ?_⟩, hqa⟩
      rwa [if_neg hmatch]

namespace IsOutermost

/-- No outermost match contains another one. -/
theorem eq_of_mem_subtree (ha : IsOutermost P top a) (hb : IsOutermost P top b)
    (h : a ∈ b.subtree) : a = b := by
  rcases mem_subtree.mp h with heq | hbelow
  · exact heq
  · exact absurd hb.holds (Bool.eq_false_iff.mp (ha.eq_false b hb.isBelow hbelow))

/-- The subtrees of the outermost matches are disjoint. -/
theorem eq_of_mem_subtrees (ha : IsOutermost P top a) (hb : IsOutermost P top b)
    (hqa : q ∈ a.subtree) (hqb : q ∈ b.subtree) : a = b := by
  rcases mem_subtree_or_mem_subtree hqa hqb with hab | hba
  · exact ha.eq_of_mem_subtree hb hab
  · exact (hb.eq_of_mem_subtree ha hba).symm

end IsOutermost

/-- **The outermost matches below a node.**  The search finds the positions strictly below the root
that satisfy `P` and that no other such position stands above: each of them once, and in pre-order.
Nothing that is found contains anything else that is found, and every match below the root lies in
the subtree of exactly one that is found.  For a test `p` that looks at nothing but the nodes, the
nodes at these positions are the outermost nodes that satisfy `p`. -/
theorem outermost_splits_matches (root : Node) (P : Position → Bool) :
    (∀ p : Node → Bool, (∀ q, P q = p q.node) →
      root.outermost p = (outermost P ⟨root, []⟩).map node) ∧
      (∀ q, q ∈ outermost P ⟨root, []⟩ ↔ IsOutermost P ⟨root, []⟩ q) ∧
        (outermost P ⟨root, []⟩).Sublist (all root) ∧ (outermost P ⟨root, []⟩).Nodup ∧
          (∀ a ∈ outermost P ⟨root, []⟩, ∀ b ∈ outermost P ⟨root, []⟩, a ∈ b.subtree → a = b) ∧
            ∀ q, q.IsBelow ⟨root, []⟩ → P q = true →
              ∃! a, a ∈ outermost P ⟨root, []⟩ ∧ q ∈ a.subtree := by
  have hsublist := outermost_sublist_subtree P ⟨root, []⟩
  refine ⟨fun p hp => ?_, fun q => mem_outermost, hsublist, (nodup_subtree _).sublist hsublist,
    fun a ha b hb => (mem_outermost.mp ha).eq_of_mem_subtree (mem_outermost.mp hb),
    fun q hq hP => ?_⟩
  · obtain rfl : P = fun q => p q.node := funext hp
    exact (map_node_outermost p ⟨root, []⟩).symm
  · obtain ⟨a, ha, hqa⟩ := exists_mem_outermost hq hP
    refine ⟨a, ⟨ha, hqa⟩, fun b hb => ?_⟩
    exact (mem_outermost.mp hb.1).eq_of_mem_subtrees (mem_outermost.mp ha) hb.2 hqa

/-- A record with a record inside. -/
def recordInRecord : Node :=
  .tree [] none .recordDeclaration 1 [.tree [] none .recordDeclaration 1 []]

/-- Two records that are told apart by their places only. -/
def equalRecords : Node :=
  .tree [] none .program 1 [recordInRecord, recordInRecord]

/-- The record inside the second of two equal records lies in the subtree of one record found. -/
theorem equalRecords_split_matches :
    equalRecords.outermost (fun n => n.is .recordDeclaration)
        = (outermost (fun q => q.node.is .recordDeclaration) ⟨equalRecords, []⟩).map node ∧
      ∃! a, a ∈ outermost (fun q => q.node.is .recordDeclaration) ⟨equalRecords, []⟩ ∧
        ⟨.tree [] none .recordDeclaration 1 [], [⟨recordInRecord, 0⟩, ⟨equalRecords, 1⟩]⟩
          ∈ a.subtree := by
  have houter : IsBelow ⟨recordInRecord, [⟨equalRecords, 1⟩]⟩ ⟨equalRecords, []⟩ :=
    .single (mem_children.mpr ⟨1, rfl, rfl⟩)
  have hinner : IsBelow
      ⟨.tree [] none .recordDeclaration 1 [], [⟨recordInRecord, 0⟩, ⟨equalRecords, 1⟩]⟩
      ⟨equalRecords, []⟩ :=
    .head (mem_children.mpr ⟨0, rfl, rfl⟩) houter
  have hsplit := outermost_splits_matches equalRecords fun q => q.node.is .recordDeclaration
  exact ⟨hsplit.1 _ fun _ => rfl, hsplit.2.2.2.2.2 _ hinner rfl⟩

end Position

end RpcBindings.Source
