import RpcBindings.Proofs.Parts
import RpcBindings.Proofs.Positions
import RpcBindings.Source.Call

/-!
# Calls that are chained

A call is chained onto another one that is its receiver.  The calls that are chained onto a node are
collected on the way up from it, for as long as each step leads from the receiver of a call to the
call.

## Main definitions

* `Position.child?` — the position of the first child in a role.
* `Position.IsReceiverOf` — a node is what a call is made on.
* `Position.IsCallChain` — calls that are chained onto a node, up to the last one.

## Main results

* `Position.fromReceiver_iff` — a step leads from the receiver of a call exactly if it says so.
* `Position.IsCallChain.isPrefix` — no other chain is longer.
* `Position.exists_isCallChain` — the calls that are collected form such a chain.
* `Position.chain_longest` — **the calls chained onto a node.**
-/

namespace RpcBindings.Source.Position

variable {p q : Position} {qs rs : List Position}

/-! ### Receivers -/

/-- The position of the first child in a role. -/
def child? (q : Position) (r : Role) : Option Position :=
  q.children.find? fun c => c.node.role == some r

theorem child?_eq_some_iff {r : Role} :
    q.child? r = some p ↔
      ∃ i, q.node.children.findIdx? (fun c => c.role == some r) = some i ∧
        q.node.children[i]? = some p.node ∧ p.above = ⟨q.node, i⟩ :: q.above := by
  rw [child?, List.find?_eq_bind_findIdx?_getElem?, Option.bind_eq_some_iff, ← map_node_children,
    List.findIdx?_map]
  simp only [getElem?_children, map_node_children]
  rfl

theorem map_node_child? (q : Position) (r : Role) :
    (q.child? r).map node = q.node.child? r := by
  rw [child?, Node.child?, ← map_node_children, List.find?_map]
  rfl

/-- The node at `p` is the receiver of the method call at `q`. -/
structure IsReceiverOf (p q : Position) : Prop where
  isCall : q.node.is .methodInvocation = true
  isObject : q.child? .object = some p

namespace IsReceiverOf

theorem isChildOf (h : p.IsReceiverOf q) : p.IsChildOf q :=
  List.mem_of_find?_eq_some h.isObject

/-- What the parts of the call tell is its receiver. -/
theorem receiver_eq (h : p.IsReceiverOf q) {call : Call} (hcall : Call.ofNode? q.node = some call) :
    call.receiver = some p.node := by
  rw [Call.ofNode?, if_pos h.isCall] at hcall
  obtain ⟨name, -, rfl⟩ := Option.map_eq_some_iff.mp hcall
  rw [← map_node_child?, h.isObject, Option.map_some]

end IsReceiverOf

/-- A step leads from the receiver of a call exactly if it says so. -/
theorem fromReceiver_iff {i : Nat} (hnode : q.node.children[i]? = some p.node)
    (habove : p.above = ⟨q.node, i⟩ :: q.above) :
    Step.fromReceiver ⟨q.node, i⟩ = true ↔ p.IsReceiverOf q := by
  rw [Step.fromReceiver, Bool.and_eq_true, beq_iff_eq]
  constructor
  · rintro ⟨hcall, hindex⟩
    exact ⟨hcall, child?_eq_some_iff.mpr ⟨i, hindex, hnode, habove⟩⟩
  · rintro ⟨hcall, hobject⟩
    obtain ⟨j, hindex, -, habove'⟩ := child?_eq_some_iff.mp hobject
    obtain ⟨hstep, -⟩ := List.cons_eq_cons.mp (habove.symm.trans habove')
    refine ⟨hcall, ?_⟩
    rw [hindex, ← (Step.mk.inj hstep).2]

/-! ### Chains -/

/-- Each call is chained onto the node or the call before it, and none is chained onto the last. -/
inductive IsCallChain : Position → List Position → Prop
  | ends {p : Position} (h : ∀ q, ¬p.IsReceiverOf q) : IsCallChain p []
  | calls {p q : Position} {qs : List Position} (h : p.IsReceiverOf q) (hqs : IsCallChain q qs) :
      IsCallChain p (q :: qs)

namespace IsCallChain

theorem isChain (h : IsCallChain p qs) : (p :: qs).IsChain IsReceiverOf := by
  induction h with
  | ends => exact .singleton _
  | calls h _ ih => exact .cons_cons h ih

theorem not_isReceiverOf_getLast (h : IsCallChain p qs) (q : Position) :
    ¬((p :: qs).getLast (List.cons_ne_nil p qs)).IsReceiverOf q := by
  induction h with
  | ends h => exact h q
  | calls _ _ ih => rwa [List.getLast_cons (List.cons_ne_nil _ _)]

/-- No other chain is longer. -/
theorem isPrefix (h : IsCallChain p qs) (hrs : (p :: rs).IsChain IsReceiverOf) : rs <+: qs := by
  induction h generalizing rs with
  | ends h =>
    cases rs with
    | nil => exact List.prefix_rfl
    | cons r rs => exact absurd (List.isChain_cons_cons.mp hrs).1 (h r)
  | calls h _ ih =>
    cases rs with
    | nil => exact List.nil_prefix
    | cons r rs =>
      obtain ⟨hr, hrs⟩ := List.isChain_cons_cons.mp hrs
      obtain rfl := eq_of_mem_children h.isChildOf hr.isChildOf
      exact List.cons_prefix_cons.mpr ⟨rfl, ih hrs⟩

end IsCallChain

/-! ### The way up -/

/-- The way up goes on from the receiver of a call. -/
theorem chain_eq_cons (h : p.IsReceiverOf q) {call : Call}
    (hcall : Call.ofNode? q.node = some call) : p.chain = call :: q.chain := by
  obtain ⟨i, hnode, habove⟩ := mem_children.mp h.isChildOf
  rw [chain, habove, chainAlong, if_pos ((fromReceiver_iff hnode habove).mpr h)]
  simp only [hcall]
  rfl

/-- The way up ends at a child that is no receiver. -/
theorem chain_eq_nil (h : p.IsChildOf q) (hnot : ¬p.IsReceiverOf q) : p.chain = [] := by
  obtain ⟨i, hnode, habove⟩ := mem_children.mp h
  rw [chain, habove, chainAlong, if_neg fun h => hnot ((fromReceiver_iff hnode habove).mp h)]

theorem length_chain_le (p : Position) : p.chain.length ≤ p.above.length := by
  rw [chain]
  fun_induction chainAlong p.above with
  | case1 => exact Nat.le_refl 0
  | case2 s ss hs call hcall ih => exact Nat.succ_le_succ ih
  | case3 => exact Nat.zero_le _
  | case4 => exact Nat.zero_le _

/-- The calls that are collected on the way up form a chain. -/
theorem exists_isCallChain {n : Node} (hn : n.Everywhere Node.HasParts) (hp : p ∈ all n) :
    ∃ qs, IsCallChain p qs ∧ (∀ q ∈ qs, q ∈ all n) ∧
      List.Forall₂ (fun q c => Call.ofNode? q.node = some c) qs p.chain := by
  have hway : Relation.ReflTransGen IsChildOf p ⟨n, []⟩ := mem_subtree_iff_reflTransGen.mp hp
  clear hp
  induction hway using Relation.ReflTransGen.head_induction_on with
  | refl =>
    refine ⟨[], .ends fun q hq => ?_, by simp, .nil⟩
    obtain ⟨i, -, habove⟩ := mem_children.mp hq.isChildOf
    cases habove
  | @head p q hchild hway ih =>
    by_cases hreceiver : p.IsReceiverOf q
    · obtain ⟨qs, hchain, hmem, hcalls⟩ := ih
      have hq : q ∈ all n := mem_subtree_iff_reflTransGen.mpr hway
      have hnode : q.node ∈ n.preorder := by
        rw [← map_node_all]
        exact List.mem_map_of_mem hq
      -- the grammar gives every call a name
      obtain ⟨name, hname⟩ := (hn q.node hnode).exists_name hreceiver.isCall List.mem_cons_self
      obtain ⟨call, hcall⟩ : ∃ call, Call.ofNode? q.node = some call := by
        rw [Call.ofNode?, if_pos hreceiver.isCall, hname]
        exact ⟨_, rfl⟩
      refine ⟨q :: qs, .calls hreceiver hchain, List.forall_mem_cons.mpr ⟨hq, hmem⟩, ?_⟩
      rw [chain_eq_cons hreceiver hcall]
      exact .cons hcall hcalls
    · refine ⟨[], .ends fun r hr => hreceiver ?_, by simp, ?_⟩
      · rwa [eq_of_mem_children hchild hr.isChildOf]
      · rw [chain_eq_nil hchild hreceiver]
        exact .nil

/-- **The calls chained onto a node.**  In the tree of a file, or in a part of it, the calls chained
onto a node are those of the method calls at some positions `qs` of the tree.  The node is the
receiver of the first of them and each is the receiver of the next one, the innermost first; every
other such chain is a beginning of this one, and the last call, or the node itself, is the receiver
of no call: it stands among arguments or in another expression, or at the root.  There are no more
calls in the chain than nodes above the node.  Each call has its receiver among its parts. -/
theorem chain_longest {path text : String} {file : File}
    (hfile : File.ofText? path text = some file) {n : Node} (hn : n ∈ file.root.preorder)
    (hp : p ∈ all n) :
    (∃ qs, List.Forall₂ (fun q c => Call.ofNode? q.node = some c) qs p.chain ∧
      (∀ q ∈ qs, q ∈ all n) ∧ (p :: qs).IsChain IsReceiverOf ∧
        (∀ rs, (p :: rs).IsChain IsReceiverOf → rs <+: qs) ∧
          ∀ q, ¬((p :: qs).getLast (List.cons_ne_nil p qs)).IsReceiverOf q) ∧
      p.chain.length ≤ p.above.length ∧
        ∀ q r : Position, q.IsReceiverOf r → ∀ c, Call.ofNode? r.node = some c →
          c.receiver = some q.node := by
  obtain ⟨qs, hchain, hmem, hcalls⟩ := exists_isCallChain ((File.hasParts hfile).of_mem hn) hp
  exact ⟨⟨qs, hcalls, hmem, hchain.isChain, fun _ => hchain.isPrefix,
    hchain.not_isReceiverOf_getLast⟩, p.length_chain_le, fun _ _ h _ => h.receiver_eq⟩

/-- Calls that are chained, with another call among their arguments. -/
def chainedCalls : String :=
  "class T \x7b void f(Subparser s) \x7b s.addArgument(\"--x\").type(A.f()).help(\"h\"); \x7d \x7d"

/-- Whether a tree has a call of the method with calls of these names chained onto it. -/
def hasChain (name : String) (names : List String) (root : Node) : Bool :=
  (all root).any fun p => p.node.isCallOf name && p.chain.map Call.name == names

theorem exists_of_hasChain {name : String} {names : List String} {root : Node}
    (h : hasChain name names root = true) :
    ∃ p ∈ all root, p.node.isCallOf name = true ∧ p.chain.map Call.name = names := by
  obtain ⟨p, hp, h⟩ := List.any_eq_true.mp h
  rw [Bool.and_eq_true, beq_iff_eq] at h
  exact ⟨p, hp, h⟩

theorem hasChain_chainedCalls :
    (Node.ofText? chainedCalls.toList).any (fun root =>
      hasChain "addArgument" ["type", "help"] root && hasChain "f" [] root) = true := by
  decide +kernel

/-- Two calls are chained onto the first one, and the one among the arguments is no receiver. -/
theorem chainedCalls_chain_longest :
    ∃ file, File.ofText? "T.java" chainedCalls = some file ∧
      (∃ p ∈ all file.root, p.node.isCallOf "addArgument" = true ∧
        p.chain.map Call.name = ["type", "help"] ∧ ∃ qs, (p :: qs).IsChain IsReceiverOf ∧
          List.Forall₂ (fun q c => Call.ofNode? q.node = some c) qs p.chain) ∧
        ∃ p ∈ all file.root, p.node.isCallOf "f" = true ∧ ∀ q, ¬p.IsReceiverOf q := by
  obtain ⟨root, hroot, h⟩ := (Option.any_eq_true _ _).mp hasChain_chainedCalls
  obtain ⟨hadd, hinner⟩ := Bool.and_eq_true_iff.mp h
  have hfile : File.ofText? "T.java" chainedCalls = some ⟨"T.java", chainedCalls, root⟩ := by
    rw [File.ofText?, hroot]
    rfl
  refine ⟨_, hfile, ?_, ?_⟩
  · obtain ⟨p, hp, hcall, hnames⟩ := exists_of_hasChain hadd
    obtain ⟨⟨qs, hcalls, -, hchain, -⟩, -⟩ := chain_longest hfile root.mem_preorder_self hp
    exact ⟨p, hp, hcall, hnames, qs, hchain, hcalls⟩
  · obtain ⟨p, hp, hcall, hnames⟩ := exists_of_hasChain hinner
    obtain ⟨⟨qs, hcalls, -, -, -, hlast⟩, -⟩ := chain_longest hfile root.mem_preorder_self hp
    rw [List.map_eq_nil_iff.mp hnames, List.forall₂_nil_right_iff] at hcalls
    subst hcalls
    exact ⟨p, hp, hcall, hlast⟩

end RpcBindings.Source.Position
