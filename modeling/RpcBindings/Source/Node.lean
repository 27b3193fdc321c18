import RpcBindings.Source.Kind

/-!
# Syntax trees

A lossless syntax tree: every node keeps the blanks in front of it, and comments are nodes, so that
the text of a node is what its children spell.

## Main definitions

* `Node` — a leaf or a tree.
* `Node.text`, `Node.source` — the text of a node, without and with the blanks in front of it.
* `Node.branch` — the tree over a list of children.
* `Node.members`, `Node.child?` — the children that are not comments, and the child in a role.
* `Node.preorder`, `Node.find?`, `Node.outermost` — the nodes of a tree and searches in it.
-/

namespace RpcBindings.Source

/-- A syntax node.  A leaf without a kind is a word or a symbol of the grammar. -/
inductive Node
  | leaf (gap : List Char) (role : Option Role) (kind : Option Kind) (line : Nat)
      (text : List Char)
  | tree (gap : List Char) (role : Option Role) (kind : Kind) (line : Nat) (children : List Node)
  deriving Repr

namespace Node

/-- The blanks in front of a node, within its parent. -/
def gap : Node → List Char
  | leaf g .. => g
  | tree g .. => g

/-- The role of a node in its parent. -/
def role : Node → Option Role
  | leaf _ r .. => r
  | tree _ r .. => r

/-- The kind of a node that is more than a word or a symbol. -/
def kind? : Node → Option Kind
  | leaf _ _ k .. => k
  | tree _ _ k .. => some k

/-- The line on which a node starts, from one. -/
def line : Node → Nat
  | leaf _ _ _ n _ => n
  | tree _ _ _ n _ => n

/-- The children of a node, comments and symbols among them. -/
def children : Node → List Node
  | leaf .. => []
  | tree _ _ _ _ cs => cs

mutual

/-- The text that a node covers. -/
def text : Node → List Char
  | leaf _ _ _ _ t => t
  | tree _ _ _ _ cs => sources cs

/-- The texts of nodes one after another, each with the blanks in front of it. -/
def sources : List Node → List Char
  | [] => []
  | c :: cs => c.gap ++ text c ++ sources cs

end

/-- The text of a node with the blanks in front of it. -/
def source (n : Node) : List Char :=
  n.gap ++ n.text

theorem sources_eq_flatMap (ns : List Node) : sources ns = ns.flatMap source := by
  induction ns with
  | nil => simp [sources]
  | cons c cs ih => simp [sources, source, ih]

/-- The node with other blanks in front of it. -/
def withGap (g : List Char) : Node → Node
  | leaf _ r k n t => leaf g r k n t
  | tree _ r k n cs => tree g r k n cs

/-- The node in another role. -/
def withRole (r : Option Role) : Node → Node
  | leaf g _ k n t => leaf g r k n t
  | tree g _ k n cs => tree g r k n cs

@[simp] theorem gap_tree (g : List Char) (r : Option Role) (k : Kind) (n : Nat)
    (cs : List Node) : (tree g r k n cs).gap = g := rfl

@[simp] theorem text_withGap (g : List Char) (n : Node) : (n.withGap g).text = n.text := by
  cases n <;> simp [withGap, text]

@[simp] theorem gap_withGap (g : List Char) (n : Node) : (n.withGap g).gap = g := by
  cases n <;> rfl

/-- The tree over a list of children.  The blanks in front of the first child come to stand in
front of the tree. -/
def branch (kind : Kind) : List Node → Node
  | [] => tree [] none kind 1 []
  | c :: cs => tree c.gap none kind c.line (c.withGap [] :: cs)

/-- Whether the node has the kind `k`. -/
def is (n : Node) (k : Kind) : Bool :=
  n.kind? == some k

/-- Whether the node is a comment. -/
def isComment (n : Node) : Bool :=
  n.kind?.any Kind.isComment

/-- Whether the node has a kind. -/
def isNamed (n : Node) : Bool :=
  n.kind?.isSome

/-- The text of a node as a string. -/
def word (n : Node) : String :=
  String.ofList n.text

/-- The children that have a kind and are not comments. -/
def members (n : Node) : List Node :=
  n.children.filter fun c => c.isNamed && !c.isComment

/-- The first child in a role. -/
def child? (n : Node) (r : Role) : Option Node :=
  n.children.find? fun c => c.role == some r

/-- The text of the child that names the node. -/
def name? (n : Node) : Option String :=
  (n.child? .name).map word

mutual

/-- The node and all nodes below it, each before the nodes below it. -/
def preorder : Node → List Node
  | n@(leaf ..) => [n]
  | n@(tree _ _ _ _ cs) => n :: preorders cs

/-- The nodes of several trees, one tree after another. -/
def preorders : List Node → List Node
  | [] => []
  | c :: cs => preorder c ++ preorders cs

end

/-- The first node of a tree that satisfies `p`, the tree itself included. -/
def find? (p : Node → Bool) (n : Node) : Option Node :=
  n.preorder.find? p

mutual

/-- The nodes below a node that satisfy `p` and lie below no other such node. -/
def outermost (p : Node → Bool) : Node → List Node
  | leaf .. => []
  | tree _ _ _ _ cs => outermosts p cs

/-- The outermost nodes that satisfy `p` among some trees, the trees themselves included. -/
def outermosts (p : Node → Bool) : List Node → List Node
  | [] => []
  | c :: cs => (if p c then [c] else outermost p c) ++ outermosts p cs

end

end Node

end RpcBindings.Source
