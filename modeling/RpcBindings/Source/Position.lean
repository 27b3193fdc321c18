import RpcBindings.Source.Node

/-!
# Positions in a tree

A node together with the way to it from the root, so that the nodes above it can be asked for.

## Main definitions

* `Position` — a node and the nodes above it.
* `Position.all` — the positions of a tree, in pre-order.

## Main results

* `Position.map_node_all` — the nodes at the positions of a tree are the nodes of the tree.
-/

namespace RpcBindings.Source

/-- One step of the way from a node up to its parent: the parent and the place of the node among
its children. -/
structure Step where
  parent : Node
  index : Nat

/-- A node and the steps from it up to the root, the nearest first. -/
structure Position where
  node : Node
  above : List Step

namespace Position

mutual

/-- The positions in a tree that itself lies below the steps `above`. -/
def within (above : List Step) : Node → List Position
  | n@(.leaf ..) => [⟨n, above⟩]
  | n@(.tree _ _ _ _ cs) => ⟨n, above⟩ :: withins n above 0 cs

/-- The positions in the children of `parent` from the place `index` on. -/
def withins (parent : Node) (above : List Step) (index : Nat) : List Node → List Position
  | [] => []
  | c :: cs => within (⟨parent, index⟩ :: above) c ++ withins parent above (index + 1) cs

end

/-- The positions of a tree, in pre-order. -/
def all (root : Node) : List Position :=
  within [] root

/-- The first position whose node satisfies `p`. -/
def find? (p : Node → Bool) (root : Node) : Option Position :=
  (all root).find? fun q => p q.node

mutual

theorem map_node_within (above : List Step) :
    (n : Node) → (within above n).map Position.node = n.preorder
  | .leaf .. => by simp [within, Node.preorder]
  | .tree _ _ _ _ cs => by
    simp only [within, Node.preorder, List.map_cons, List.cons.injEq, true_and]
    exact map_node_withins _ above 0 cs

theorem map_node_withins (parent : Node) (above : List Step) (index : Nat) :
    (cs : List Node) → (withins parent above index cs).map Position.node = Node.preorders cs
  | [] => by simp [withins, Node.preorders]
  | c :: cs => by
    simp only [withins, Node.preorders, List.map_append]
    rw [map_node_within _ c, map_node_withins parent above (index + 1) cs]

end

/-- The nodes at the positions of a tree are the nodes of the tree, in the same order. -/
theorem map_node_all (root : Node) : (all root).map Position.node = root.preorder :=
  map_node_within [] root

end Position

end RpcBindings.Source
