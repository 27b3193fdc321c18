import RpcBindings.Proofs.Yield
import RpcBindings.Source.File
import Mathlib.Data.List.TakeDrop
import Mathlib.Data.List.TakeWhile

/-!
# Properties of all nodes in a syntax tree

A property that all nodes in the tree of a file have comes from the rules of the grammar: the leaves
of tokens have it, a tree over nodes has it, and it is not lost when a node is put in a role or moves
its gap to the tree above it.  The first such property is that a comment is one token, so that
nothing stands below it in the tree of a file: what stands below a node stands below one of its
members.

## Main definitions

* `Node.Everywhere` — all nodes of a tree have a property.
* `Node.Kept` — a property that the rules do not take from nodes.
* `Rule.terminals`, `Rule.builds` — the terminals of a rule, and the kinds of the trees that it
  builds itself.
* `Node.LeafIfComment`, `Node.CommentsAreLeaves` — no comment in a tree has children.
* `File.hasNode` — a test for a node with a property in the tree of a text.

## Main results

* `Node.mem_preorder_trans` — what stands below a node below another one stands below that one.
* `Rule.yields_everywhere` — **a rule passes a property on** from the nodes that it reads to those
  that it builds.
* `Node.everywhere_of_ofText?` — a property of all nodes in the tree of a text.
* `File.commentsAreLeaves` — comments are leaves in the tree of a file.
-/

namespace RpcBindings.Source

/-! ### Nodes of a tree -/

namespace Node

theorem preorder_eq (n : Node) : n.preorder = n :: preorders n.children := by
  cases n with
  | leaf => simp [preorder, preorders, children]
  | tree => simp [preorder, children]

theorem preorders_eq_flatMap (ns : List Node) : preorders ns = ns.flatMap preorder := by
  induction ns with
  | nil => simp [preorders]
  | cons c cs ih => simp [preorders, ih]

theorem mem_preorder_self (n : Node) : n ∈ n.preorder := by
  rw [preorder_eq]
  exact List.mem_cons_self

/-- A node of a tree is the tree itself or a node of one of its children. -/
theorem mem_preorder {m n : Node} :
    m ∈ n.preorder ↔ m = n ∨ ∃ c ∈ n.children, m ∈ c.preorder := by
  rw [preorder_eq, List.mem_cons, preorders_eq_flatMap, List.mem_flatMap]

theorem mem_preorder_of_mem_children {c n : Node} (h : c ∈ n.children) : c ∈ n.preorder :=
  mem_preorder.mpr (.inr ⟨c, h, mem_preorder_self c⟩)

theorem sizeOf_lt_of_mem_children {c n : Node} (h : c ∈ n.children) : sizeOf c < sizeOf n := by
  cases n with
  | leaf => cases h
  | tree g r k l cs =>
    have hlt := List.sizeOf_lt_of_mem h
    rw [tree.sizeOf_spec]
    rw [children] at hlt
    omega

mutual

theorem mem_preorder_trans {l m : Node} (hm : m ∈ l.preorder) :
    (n : Node) → l ∈ n.preorder → m ∈ n.preorder
  | .leaf .., hl => by
    rw [preorder, List.mem_singleton] at hl
    rwa [← hl]
  | .tree _ _ _ _ cs, hl => by
    rw [preorder, List.mem_cons] at hl ⊢
    rcases hl with rfl | hl
    · rwa [preorder, List.mem_cons] at hm
    · exact .inr (mem_preorders_trans hm cs hl)

theorem mem_preorders_trans {l m : Node} (hm : m ∈ l.preorder) :
    (cs : List Node) → l ∈ preorders cs → m ∈ preorders cs
  | [], hl => by simp [preorders] at hl
  | c :: cs, hl => by
    rw [preorders, List.mem_append] at hl ⊢
    rcases hl with hl | hl
    · exact .inl (mem_preorder_trans hm c hl)
    · exact .inr (mem_preorders_trans hm cs hl)

end

theorem mem_preorder_of_find? {p : Node → Bool} {m n : Node} (h : n.find? p = some m) :
    m ∈ n.preorder :=
  List.mem_of_find?_eq_some h

theorem mem_preorder_of_child? {r : Role} {m n : Node} (h : n.child? r = some m) :
    m ∈ n.preorder :=
  mem_preorder_of_mem_children (List.mem_of_find?_eq_some h)

theorem mem_preorder_of_mem_members {m n : Node} (h : m ∈ n.members) : m ∈ n.preorder :=
  mem_preorder_of_mem_children (List.mem_filter.mp h).1

/-! ### Properties of all nodes -/

/-- All nodes of the tree have the property. -/
def Everywhere (p : Node → Prop) (n : Node) : Prop :=
  ∀ m ∈ n.preorder, p m

/-- All nodes of some trees have the property. -/
def AllHave (p : Node → Prop) (ns : List Node) : Prop :=
  ∀ n ∈ ns, n.Everywhere p

section Everywhere

variable {p : Node → Prop}

theorem Everywhere.of_mem {m n : Node} (h : n.Everywhere p) (hm : m ∈ n.preorder) :
    m.Everywhere p :=
  fun l hl => h l (mem_preorder_trans hl n hm)

theorem everywhere_iff {n : Node} :
    n.Everywhere p ↔ p n ∧ ∀ c ∈ n.children, c.Everywhere p := by
  constructor
  · intro h
    exact ⟨h n n.mem_preorder_self, fun c hc => h.of_mem (mem_preorder_of_mem_children hc)⟩
  · rintro ⟨hself, hbelow⟩ m hm
    rcases mem_preorder.mp hm with rfl | ⟨c, hc, hm⟩
    · exact hself
    · exact hbelow c hc m hm

theorem everywhere_leaf_iff {g : List Char} {r : Option Role} {k : Option Kind} {line : Nat}
    {text : List Char} : (leaf g r k line text).Everywhere p ↔ p (leaf g r k line text) := by
  rw [everywhere_iff]
  simp [children]

theorem allHave_nil : AllHave p [] := by
  simp [AllHave]

theorem allHave_append {ms ns : List Node} :
    AllHave p (ms ++ ns) ↔ AllHave p ms ∧ AllHave p ns :=
  List.forall_mem_append

theorem allHave_singleton {n : Node} : AllHave p [n] ↔ n.Everywhere p :=
  List.forall_mem_singleton

/-- A property that nodes keep when they come into a role or lose the blanks in front of them, and
that the leaves of comments have. -/
structure Kept (fit : Token → Prop) (p : Node → Prop) : Prop where
  withRole : ∀ r n, p n → p (n.withRole r)
  withGap : ∀ n, p n → p (n.withGap [])
  comment : ∀ t k, fit t → t.lexeme = .comment k → p (t.leaf (some k))

namespace Kept

variable {fit : Token → Prop} {n : Node} {ns : List Node}

theorem everywhere_withRole (hp : Kept fit p) (r : Option Role) (h : n.Everywhere p) :
    (n.withRole r).Everywhere p := by
  rw [everywhere_iff] at h ⊢
  have hchildren : (n.withRole r).children = n.children := by cases n <;> rfl
  rw [hchildren]
  exact ⟨hp.withRole r n h.1, h.2⟩

theorem everywhere_withGap (hp : Kept fit p) (h : n.Everywhere p) :
    (n.withGap []).Everywhere p := by
  rw [everywhere_iff] at h ⊢
  have hchildren : (n.withGap []).children = n.children := by cases n <;> rfl
  rw [hchildren]
  exact ⟨hp.withGap n h.1, h.2⟩

/-- The first node under a tree moves its gap to the tree. -/
theorem everywhere_branch (hp : Kept fit p) {k : Kind} (hns : AllHave p ns)
    (hk : p (branch k ns)) : (branch k ns).Everywhere p := by
  rw [everywhere_iff]
  refine ⟨hk, ?_⟩
  cases ns with
  | nil => simp [branch, children]
  | cons n ns =>
    obtain ⟨hn, hns⟩ := List.forall_mem_cons.mp hns
    exact List.forall_mem_cons.mpr ⟨hp.everywhere_withGap hn, hns⟩

theorem allHave_comments (hp : Kept fit p) {ts : List Token} (hts : ∀ t ∈ ts, fit t) :
    AllHave p (Terminal.comments ts).1 := by
  intro n hn
  obtain ⟨t, ht, k, hk, rfl⟩ := Terminal.exists_of_mem_comments hn
  exact everywhere_leaf_iff.mpr (hp.comment t k (hts t ht) hk)

end Kept

end Everywhere

end Node

open Node

/-! ### Literals and terminals -/

/-- A literal has a property everywhere that its node and all its parts have. -/
theorem Literal.everywhere_of_node? {p : Node → Prop} {fragment : Kind} {quote : List Char}
    {t : Token} {n : Node} (hself : ∀ cs, p (.tree t.gap none .stringLiteral t.line cs))
    (hpart : ∀ k line text, (∀ k', k = some k' → k' = fragment ∨ k' = .escapeSequence) →
      p (.leaf [] none k line text))
    (h : node? fragment quote t = some n) : n.Everywhere p := by
  obtain ⟨cs, rfl, hcs⟩ := exists_of_node? h
  refine everywhere_iff.mpr ⟨hself cs, fun c hc => ?_⟩
  obtain ⟨k, line, text, rfl, hk⟩ := hcs c hc
  exact everywhere_leaf_iff.mpr (hpart k line text hk)

namespace Terminal

/-- What the terminal reads of fit tokens has the property everywhere. -/
def Gives (fit : Token → Prop) (p : Node → Prop) (terminal : Terminal) : Prop :=
  ∀ ts n rest, (∀ t ∈ ts, fit t) → terminal.Reads ts n rest → n.Everywhere p

theorem Gives.allHave {fit : Token → Prop} {p : Node → Prop} {terminal : Terminal}
    (hp : Kept fit p) (hterminal : terminal.Gives fit p) {ts rest : List Token} {ns : List Node}
    (hts : ∀ t ∈ ts, fit t) (h : terminal.read? ts = some (ns, rest)) : AllHave p ns := by
  obtain ⟨n, rfl, hn⟩ := exists_of_read? h
  have hrest : ∀ t ∈ (comments ts).2, fit t := fun t ht => hts t ((suffix_comments ts).subset ht)
  exact allHave_append.mpr
    ⟨hp.allHave_comments hts, allHave_singleton.mpr (hterminal _ _ _ hrest hn)⟩

end Terminal

/-! ### Rules -/

namespace Rule

variable {α : Type} {grammar : α → Rule α}

/-- The terminals of a rule, without those of the rules that it names. -/
def terminals : Rule α → List Terminal
  | done | ref _ => []
  | token t => [t]
  | seq a b | alt a b | after a b => a.terminals ++ b.terminals
  | many a | label _ a | growing a | given _ a | node _ a | onto _ _ a => a.terminals

/-- The kinds of the trees that a rule builds itself, not by the rules it names. -/
def builds {α : Type} : Rule α → List Kind
  | done | token _ | ref _ => []
  | seq a b | alt a b | after a b => a.builds ++ b.builds
  | many a | label _ a | growing a | given _ a => a.builds
  | node k a | onto k _ a => k :: a.builds

theorem splitComments_append (ns : List Node) :
    (splitComments ns).1 ++ (splitComments ns).2 = ns := by
  rw [splitComments, List.span_eq_takeWhile_dropWhile, List.takeWhile_append_dropWhile]

theorem isComment_of_mem_splitComments {n : Node} {ns : List Node}
    (hn : n ∈ (splitComments ns).1) : n.isComment = true := by
  rw [splitComments, List.span_eq_takeWhile_dropWhile] at hn
  exact List.mem_takeWhile_imp hn

theorem mem_splitComments {n : Node} {ns : List Node} (hn : n ∈ ns) (hnot : n.isComment = false) :
    n ∈ (splitComments ns).2 := by
  rw [← splitComments_append ns, List.mem_append] at hn
  rcases hn with hn | hn
  · rw [isComment_of_mem_splitComments hn] at hnot
    cases hnot
  · exact hn

/-- The nodes that come under the tree of a step besides those that it reads. -/
def grafted (r : Option Role) (held : List Node) : List Node :=
  match r with
  | some r => inRole r held
  | none => held

theorem graft_eq (k : Kind) (r : Option Role) (held ns : List Node) :
    graft k r held ns = (splitComments (grafted r held)).1 ++
      [Node.branch k ((splitComments (grafted r held)).2 ++ ns)] :=
  rfl

section Everywhere

variable {p : Node → Prop} {fit : Token → Prop} {held ns : List Node} {k : Kind}

theorem allHave_inRole (hp : Kept fit p) {r : Role} (h : AllHave p ns) :
    AllHave p (inRole r ns) := by
  intro n hn
  obtain ⟨m, hm, rfl⟩ := List.mem_map.mp hn
  split
  · exact h m hm
  · exact hp.everywhere_withRole _ (h m hm)

/-- A tree over the later ones of some nodes and over further nodes. -/
theorem allHave_graft (hp : Kept fit p) {r : Option Role} (hheld : AllHave p held)
    (hns : AllHave p ns)
    (hk : AllHave p ((splitComments (grafted r held)).2 ++ ns) →
      p (Node.branch k ((splitComments (grafted r held)).2 ++ ns))) :
    AllHave p (graft k r held ns) := by
  have hgrafted : AllHave p (grafted r held) := by
    cases r with
    | none => exact hheld
    | some r => exact allHave_inRole hp hheld
  rw [← splitComments_append (grafted r held), allHave_append] at hgrafted
  have hinner := allHave_append.mpr ⟨hgrafted.2, hns⟩
  rw [graft_eq, allHave_append]
  exact ⟨hgrafted.1, allHave_singleton.mpr (hp.everywhere_branch hinner (hk hinner))⟩

theorem allHave_wrap (hp : Kept fit p) (hns : AllHave p ns)
    (hk : AllHave p (splitComments ns).2 → p (Node.branch k (splitComments ns).2)) :
    AllHave p (wrap k ns) := by
  rw [← splitComments_append ns, allHave_append] at hns
  exact allHave_append.mpr
    ⟨hns.1, allHave_singleton.mpr (hp.everywhere_branch hns.2 (hk hns.2))⟩

theorem Yields.fresh {depth : Nat} {a : Rule α} {post : List Node → Prop}
    (h : Yields grammar fit depth (AllHave p) a post) : Yields grammar fit depth Fresh a post := by
  refine h.imp (fun held hheld => ?_) fun _ h => h
  cases hheld
  exact allHave_nil

/-- **A rule passes a property on** from the nodes that it reads to those that it builds. -/
theorem yields_everywhere {depth : Nat} (hp : Kept fit p)
    (hrefs : ∀ s, Yields grammar fit depth (AllHave p) (ref s) (AllHave p)) {rule : Rule α}
    (hterminals : ∀ t ∈ rule.terminals, t.Gives fit p)
    (hbuilds : ∀ k ∈ rule.builds, ∀ ns, AllHave p ns → p (Node.branch k ns)) :
    Yields grammar fit depth (AllHave p) rule (AllHave p) := by
  have happend : ∀ x y, AllHave p x → AllHave p y → AllHave p (x ++ y) :=
    fun _ _ hx hy => allHave_append.mpr ⟨hx, hy⟩
  -- one law of the triple for each construct; the recursion of the grammar is all in `hrefs`
  induction rule with
  | done => exact .done allHave_nil
  | token t =>
    exact .token fun ts ns rest hts h => (hterminals t List.mem_cons_self).allHave hp hts h
  | ref s => exact hrefs s
  | seq a b iha ihb =>
    obtain ⟨hta, htb⟩ := List.forall_mem_append.mp hterminals
    obtain ⟨hba, hbb⟩ := List.forall_mem_append.mp hbuilds
    exact .seq (iha hta hba).fresh (ihb htb hbb).fresh happend
  | alt a b iha ihb =>
    obtain ⟨hta, htb⟩ := List.forall_mem_append.mp hterminals
    obtain ⟨hba, hbb⟩ := List.forall_mem_append.mp hbuilds
    exact .alt (iha hta hba) (ihb htb hbb)
  | many a ih => exact .many (ih hterminals hbuilds).fresh allHave_nil happend
  | label r a ih => exact .label (ih hterminals hbuilds).fresh fun x hx => allHave_inRole hp hx
  | node k a ih =>
    obtain ⟨hk, ha⟩ := List.forall_mem_cons.mp hbuilds
    exact .node (ih hterminals ha).fresh fun x hx => allHave_wrap hp hx (hk _)
  | after a b iha ihb =>
    obtain ⟨hta, htb⟩ := List.forall_mem_append.mp hterminals
    obtain ⟨hba, hbb⟩ := List.forall_mem_append.mp hbuilds
    exact .after (iha hta hba).fresh (ihb htb hbb)
  | growing a ih => exact .growing (ih hterminals hbuilds)
  | given ks a ih => exact .given (ih hterminals hbuilds)
  | onto k r a ih =>
    obtain ⟨hk, ha⟩ := List.forall_mem_cons.mp hbuilds
    exact .onto (ih hterminals ha).fresh fun held x hheld hx => allHave_graft hp hheld hx (hk _)

end Everywhere

end Rule

/-! ### Files -/

/-- A property of all nodes in the tree of a text: of the declarations, of the comments behind them,
of the leaf that ends the text and of the root over them. -/
theorem Node.everywhere_of_ofText? {p : Node → Prop} {fit : Token → Prop} (hp : Kept fit p)
    (hfit : ∀ cs tokens, Token.scan? cs = some tokens → ∀ t ∈ tokens, fit t)
    (htop : ∀ depth, Rule.Yields grammar fit depth (AllHave p) (.many (.ref .topLevel)) (AllHave p))
    (hfinish : ∀ t, fit t → p (t.leaf none))
    (hroot : ∀ ns, AllHave p ns → p (Node.branch .program ns)) {cs : List Char} {root : Node}
    (h : Node.ofText? cs = some root) : root.Everywhere p := by
  simp only [Node.ofText?, Option.bind_eq_bind, Option.bind_eq_some_iff] at h
  obtain ⟨tokens, htokens, ⟨nodes, rest⟩, hrun, h⟩ := h
  have hts := hfit cs tokens htokens
  have hrest : ∀ t ∈ rest, fit t := Rule.forall_of_run? hts hrun
  have hnodes := htop _ _ (Nat.le_refl _) [] tokens nodes rest allHave_nil hts hrun
  split at h
  · next t ht =>
    split at h
    · cases h
      have hmem : t ∈ rest :=
        (Terminal.suffix_comments rest).subset (by rw [ht]; exact List.mem_cons_self)
      have hlast := everywhere_leaf_iff.mpr (hfinish t (hrest t hmem))
      have hall := allHave_append.mpr ⟨allHave_append.mpr ⟨hnodes, hp.allHave_comments hrest⟩,
        allHave_singleton.mpr hlast⟩
      exact hp.everywhere_branch hall (hroot _ hall)
    · cases h
  · cases h

/-! ### Comments as leaves -/

namespace Node

/-- The node is no comment, or has no children. -/
def LeafIfComment (n : Node) : Prop :=
  n.isComment → n.children = []

/-- No comment in the tree has children. -/
def CommentsAreLeaves (n : Node) : Prop :=
  ∀ m ∈ n.preorder, m.isComment → m.children = []

theorem CommentsAreLeaves.of_mem {m n : Node} (h : n.CommentsAreLeaves) (hm : m ∈ n.preorder) :
    m.CommentsAreLeaves :=
  Everywhere.of_mem (p := LeafIfComment) h hm

theorem kept_leafIfComment : Kept (fun _ => True) LeafIfComment where
  withRole r n h := by cases n <;> exact h
  withGap n h := by cases n <;> exact h
  comment _ _ _ _ _ := rfl

theorem leafIfComment_branch {k : Kind} (hk : k.isComment = false) (ns : List Node) :
    (branch k ns).LeafIfComment := by
  intro hcomment
  cases ns <;> simp [branch, isComment, kind?, hk] at hcomment

/-- Every terminal reads a leaf or a literal. -/
theorem gives_leafIfComment (terminal : Terminal) :
    terminal.Gives (fun _ => True) LeafIfComment := by
  have hliteral : ∀ {fragment : Kind} {quote : List Char} {t : Token} {n : Node},
      Literal.node? fragment quote t = some n → n.Everywhere LeafIfComment := by
    intro fragment quote t n h
    refine Literal.everywhere_of_node? (fun cs hcomment => ?_) (fun k line text _ _ => rfl) h
    cases hcomment
  intro ts n rest _ h
  cases h with
  | string _ _ hn => exact hliteral hn
  | textBlock _ _ hn => exact hliteral hn
  | _ => exact everywhere_leaf_iff.mpr fun _ => rfl

/-- Only members of a node have nodes of their own that are neither words nor comments. -/
theorem preorder_of_notMem_members {c n : Node} (h : n.CommentsAreLeaves) (hc : c ∈ n.children)
    (hnot : c ∉ n.members) : c.preorder = [c] ∧ (c.kind? = none ∨ c.isComment) := by
  have hcases : c.isNamed = false ∨ c.isComment := by
    cases hnamed : c.isNamed with
    | false => exact .inl rfl
    | true =>
      cases hcomment : c.isComment with
      | false => exact absurd (List.mem_filter.mpr ⟨hc, by rw [hnamed, hcomment]; rfl⟩) hnot
      | true => exact .inr rfl
  rcases hcases with hnamed | hcomment
  · cases c with
    | leaf g r k =>
      refine ⟨by rw [preorder], .inl ?_⟩
      simpa [isNamed] using hnamed
    | tree => simp [isNamed, kind?] at hnamed
  · refine ⟨?_, .inr hcomment⟩
    rw [preorder_eq, h c (mem_preorder_of_mem_children hc) hcomment, preorders]

end Node

namespace Rule

/-- No rule puts nodes below a comment, if it builds no comment itself. -/
theorem yields_leafIfComment {α : Type} {grammar : α → Rule α} {depth : Nat}
    (hrefs : ∀ s, Yields grammar (fun _ => True) depth (AllHave LeafIfComment) (ref s)
      (AllHave LeafIfComment))
    {rule : Rule α} (hrule : ∀ k ∈ rule.builds, k.isComment = false) :
    Yields grammar (fun _ => True) depth (AllHave LeafIfComment) rule (AllHave LeafIfComment) :=
  yields_everywhere kept_leafIfComment hrefs (fun t _ => gives_leafIfComment t)
    fun k hk ns _ => leafIfComment_branch (hrule k hk) ns

/-- No rule of the grammar builds a comment. -/
theorem isComment_of_mem_builds_grammar (s : Symbol) :
    ∀ k ∈ (grammar s).builds, k.isComment = false := by
  cases s <;> decide

theorem leafIfComment_ref (depth : Nat) (s : Symbol) :
    Yields grammar (fun _ => True) depth (AllHave LeafIfComment) (ref s) (AllHave LeafIfComment) :=
  yields_ref (fun _ hrefs s => yields_leafIfComment hrefs (isComment_of_mem_builds_grammar s))
    depth s

end Rule

theorem Node.commentsAreLeaves_of_ofText? {cs : List Char} {root : Node}
    (h : Node.ofText? cs = some root) : root.CommentsAreLeaves := by
  refine Node.everywhere_of_ofText? kept_leafIfComment (fun _ _ _ _ _ => trivial)
    (fun depth => ?_) (fun _ _ _ => rfl) (fun ns _ => leafIfComment_branch rfl ns) h
  exact Rule.yields_leafIfComment (Rule.leafIfComment_ref depth) (by simp [Rule.builds])

/-- Comments are leaves in the tree of a file. -/
theorem File.commentsAreLeaves {path text : String} {file : File}
    (h : File.ofText? path text = some file) : file.root.CommentsAreLeaves := by
  obtain ⟨root, hroot, rfl⟩ := Option.map_eq_some_iff.mp h
  exact Node.commentsAreLeaves_of_ofText? hroot

/-- Whether a node in the tree of a text has the property. -/
def File.hasNode (text : String) (p : Node → Bool) : Bool :=
  (Node.ofText? text.toList).any fun root => root.preorder.any p

theorem File.exists_of_hasNode {text : String} {p : Node → Bool} (h : hasNode text p = true)
    (path : String) :
    ∃ file n, File.ofText? path text = some file ∧ n ∈ file.root.preorder ∧ p n = true := by
  obtain ⟨root, hroot, h⟩ := (Option.any_eq_true _ _).mp h
  obtain ⟨n, hn, hp⟩ := List.any_eq_true.mp h
  refine ⟨⟨path, text, root⟩, n, ?_, hn, hp⟩
  rw [File.ofText?, hroot]
  rfl

end RpcBindings.Source
