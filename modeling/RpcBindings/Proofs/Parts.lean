import RpcBindings.Proofs.TypeSyntax

/-!
# Parts of declarations

What the grammar demands of a declaration, the tree of a file has: a record has a name and
parameters, and enums, their constants and parameters have names, as method calls do.  Which rules
surely read a node, and in which role, is computed from the rules; named rules are looked up in two
short tables that the rules themselves bear out.

## Main definitions

* `Kind.parts` — the roles in which each node of a kind has a child.
* `Rule.reads`, `Rule.fills` — whether a rule surely reads a node, and one in a role.
* `Rule.isWhole` — whether each tree that a rule builds has its parts.

## Main results

* `Rule.yields_whole` — a whole rule builds nodes with their parts.
* `File.hasParts` — **all nodes in the tree of a file have their parts.**
-/

namespace RpcBindings.Source

/-- The roles in which each node of a kind has a child. -/
def Kind.parts : Kind → List Role
  | .recordDeclaration => [.name, .parameters]
  | .enumDeclaration | .enumConstant | .formalParameter | .methodInvocation => [.name]
  | _ => []

namespace Node

/-- The node has a child in each role in which nodes of its kind have one. -/
def HasParts (n : Node) : Prop :=
  ∀ k, n.kind? = some k → ∀ r ∈ k.parts, ∃ c ∈ n.children, c.role = some r

theorem is_iff {n : Node} {k : Kind} : n.is k = true ↔ n.kind? = some k := by
  rw [is, beq_iff_eq]

theorem isSome_child?_iff {n : Node} {r : Role} :
    (n.child? r).isSome = true ↔ ∃ c ∈ n.children, c.role = some r := by
  simp [child?, List.find?_isSome]

/-- A node of a kind that demands a name has one. -/
theorem HasParts.exists_name {n : Node} {k : Kind} (h : n.HasParts) (hk : n.is k = true)
    (hname : Role.name ∈ k.parts) : ∃ w, n.name? = some w := by
  obtain ⟨c, hc⟩ := Option.isSome_iff_exists.mp
    (isSome_child?_iff.mpr (h k (is_iff.mp hk) .name hname))
  exact ⟨c.word, by rw [name?, hc]; rfl⟩

/-- All nodes of some trees have their parts. -/
def AllWhole (ns : List Node) : Prop :=
  ∀ n ∈ ns, n.Everywhere HasParts

/-- Some node is no comment. -/
def Substantial (ns : List Node) : Prop :=
  ∃ n ∈ ns, n.isComment = false

/-- Some node that is no comment stands in the role. -/
def Serves (r : Role) (ns : List Node) : Prop :=
  ∃ n ∈ ns, n.isComment = false ∧ n.role = some r

theorem allWhole_nil : AllWhole [] := by
  simp [AllWhole]

theorem allWhole_append {ms ns : List Node} : AllWhole (ms ++ ns) ↔ AllWhole ms ∧ AllWhole ns :=
  List.forall_mem_append

/-- A leaf whose kind has no parts. -/
theorem hasParts_leaf {g : List Char} {r : Option Role} {k : Option Kind} {line : Nat}
    {t : List Char} (hk : ∀ k', k = some k' → k'.parts = []) : (leaf g r k line t).HasParts := by
  intro k' hk' r' hr'
  rw [hk k' hk'] at hr'
  cases hr'

theorem parts_of_isComment {k : Kind} (h : k.isComment = true) : k.parts = [] := by
  rw [Kind.isComment, Bool.or_eq_true, beq_iff_eq, beq_iff_eq] at h
  rcases h with rfl | rfl
  · rfl
  · rfl

theorem kept_hasParts : Kept Token.IsFit HasParts where
  withRole r n h := by cases n <;> exact h
  withGap n h := by cases n <;> exact h
  comment t k ht hk := by
    refine hasParts_leaf ?_
    rintro k' ⟨⟩
    exact parts_of_isComment (ht.comment k hk).1

/-- The node is whole and no comment. -/
structure IsSound (n : Node) : Prop where
  whole : n.Everywhere HasParts
  noComment : n.isComment = false

theorem isSound_leaf {g : List Char} {r : Option Role} {k : Option Kind} {line : Nat}
    {t : List Char} (hk : ∀ k', k = some k' → k'.parts = [] ∧ k'.isComment = false) :
    (leaf g r k line t).IsSound := by
  refine ⟨everywhere_leaf_iff.mpr (hasParts_leaf fun k' hk' => (hk k' hk').1), ?_⟩
  cases k with
  | none => rfl
  | some k => exact (hk k rfl).2

theorem role_withGap (g : List Char) (n : Node) : (n.withGap g).role = n.role := by
  cases n <;> rfl

/-- A tree has its parts if they are among the nodes under it. -/
theorem hasParts_branch {k : Kind} {ns : List Node}
    (hk : ∀ r ∈ k.parts, ∃ n ∈ ns, n.role = some r) : (branch k ns).HasParts := by
  intro k' hk' r hr
  obtain rfl := eq_of_kind?_branch hk'
  obtain ⟨n, hn, hrole⟩ := hk r hr
  -- the first child moves its gap to the tree and stays in its role
  cases ns with
  | nil => cases hn
  | cons m ms =>
    rcases List.mem_cons.mp hn with rfl | hn
    · exact ⟨n.withGap [], List.mem_cons_self, (role_withGap [] n).trans hrole⟩
    · exact ⟨n, List.mem_cons_of_mem _ hn, hrole⟩

end Node

open Node

/-! ### Terminals -/

/-- No literal has parts. -/
theorem parts_of_mem_literalKinds : ∀ k ∈ Token.literalKinds, k.parts = [] := by
  decide

/-- A literal is a tree over leaves. -/
theorem Literal.isSound_of_node? {fragment : Kind} (hfragment : fragment.parts = [])
    {quote : List Char} {t : Token} {n : Node} (h : node? fragment quote t = some n) :
    n.IsSound := by
  constructor
  · refine everywhere_of_node? (fun cs => ?_) (fun k line text hk => ?_) h
    · rintro k ⟨⟩ r hr
      cases hr
    · refine hasParts_leaf fun k' hk' => ?_
      rcases hk k' hk' with rfl | rfl
      · exact hfragment
      · rfl
  · obtain ⟨cs, rfl, -⟩ := exists_of_node? h
    rfl

namespace Terminal

/-- Whether the terminal reads a node that is no comment and of a kind without parts. -/
def isWhole : Terminal → Bool
  | identifier k | wordNode _ k | symbolNode _ k => !k.isComment && k.parts.isEmpty
  | _ => true

theorem Reads.isSound {terminal : Terminal} (hterminal : terminal.isWhole = true)
    {ts rest : List Token} (hts : ∀ t ∈ ts, t.IsFit) {n : Node} (h : terminal.Reads ts n rest) :
    n.IsSound := by
  have hnamed : ∀ {t : Token} {k : Kind}, (!k.isComment && k.parts.isEmpty) = true →
      (t.leaf (some k)).IsSound := by
    intro t k hk
    simp only [Bool.and_eq_true, Bool.not_eq_true', List.isEmpty_iff] at hk
    refine isSound_leaf ?_
    rintro k' ⟨⟩
    exact hk.symm
  cases h with
  | keyword | symbol | joined => exact isSound_leaf (by simp)
  | identifier | wordNode | symbolNode => exact hnamed hterminal
  | literal hk =>
    have hliteral := (hts _ List.mem_cons_self).literal _ hk
    have hcomment : ∀ k ∈ Token.literalKinds, k.isComment = false := by decide
    refine isSound_leaf ?_
    rintro k' ⟨⟩
    exact ⟨parts_of_mem_literalKinds _ hliteral, hcomment _ hliteral⟩
  | string _ _ hn => exact Literal.isSound_of_node? rfl hn
  | textBlock _ _ hn => exact Literal.isSound_of_node? rfl hn

theorem whole_of_read? {terminal : Terminal} (hterminal : terminal.isWhole = true)
    {ts rest : List Token} (hts : ∀ t ∈ ts, t.IsFit) {ns : List Node}
    (h : terminal.read? ts = some (ns, rest)) : AllWhole ns ∧ Substantial ns := by
  have hgives : terminal.Gives Token.IsFit HasParts :=
    fun _ _ _ hts hn => (hn.isSound hterminal hts).whole
  refine ⟨hgives.allHave kept_hasParts hts h, ?_⟩
  obtain ⟨n, rfl, hn⟩ := exists_of_read? h
  have hrest : ∀ t ∈ (comments ts).2, t.IsFit := fun t ht => hts t ((suffix_comments ts).subset ht)
  exact ⟨n, by simp, (hn.isSound hterminal hrest).noComment⟩

end Terminal

/-! ### Rules -/

namespace Rule

/-- The named rules that are looked up when it is computed what a rule surely reads. -/
def isSure (s : Symbol) : Bool :=
  s == .parameters

/-- The named rules that surely read a node in the role. -/
def isSureIn (r : Role) (s : Symbol) : Bool :=
  s == .declaratorName && r == .name

/-- Whether a rule surely reads a node that is no comment. -/
def reads : Rule Symbol → Bool
  | token _ => true
  | ref s => isSure s
  | seq a b => a.reads || b.reads
  | alt a b => a.reads && b.reads
  | label _ a => a.reads
  | node k _ => !k.isComment
  | _ => false

/-- Whether a rule surely reads a node in the role. -/
def fills (r : Role) : Rule Symbol → Bool
  | ref s => isSureIn r s
  | seq a b => a.fills r || b.fills r
  | alt a b => a.fills r && b.fills r
  | label r' a => r' == r && a.reads
  | _ => false

/-- Whether each tree that the rule builds itself has its parts. -/
def isWhole : Rule Symbol → Bool
  | done | ref _ => true
  | token t => t.isWhole
  | seq a b | alt a b | after a b => a.isWhole && b.isWhole
  | many a | label _ a | growing a | given _ a => a.isWhole
  | node k a | onto k _ a => k.parts.all (fun r => a.fills r) && a.isWhole

/-- What a whole rule reads. -/
structure Reads (rule : Rule Symbol) (ns : List Node) : Prop where
  whole : AllWhole ns
  substantial : rule.reads = true → Substantial ns
  serves : ∀ r, rule.fills r = true → Serves r ns

theorem Reads.of_whole {rule : Rule Symbol} {ns : List Node} (h : AllWhole ns)
    (hreads : rule.reads = false) (hfills : ∀ r, rule.fills r = false) : Reads rule ns :=
  ⟨h, fun hr => absurd hr (by simp [hreads]), fun r hr => absurd hr (by simp [hfills r])⟩

theorem Reads.seq {a b : Rule Symbol} {x y : List Node} (hx : Reads a x) (hy : Reads b y) :
    Reads (seq a b) (x ++ y) where
  whole := allWhole_append.mpr ⟨hx.whole, hy.whole⟩
  substantial h := by
    rcases Bool.or_eq_true_iff.mp h with h | h
    · obtain ⟨n, hn, hcomment⟩ := hx.substantial h
      exact ⟨n, List.mem_append_left y hn, hcomment⟩
    · obtain ⟨n, hn, hcomment⟩ := hy.substantial h
      exact ⟨n, List.mem_append_right x hn, hcomment⟩
  serves r h := by
    rcases Bool.or_eq_true_iff.mp h with h | h
    · obtain ⟨n, hn, hserves⟩ := hx.serves r h
      exact ⟨n, List.mem_append_left y hn, hserves⟩
    · obtain ⟨n, hn, hserves⟩ := hy.serves r h
      exact ⟨n, List.mem_append_right x hn, hserves⟩

/-- The nodes that come under a role serve in it. -/
theorem serves_inRole {r : Role} {ns : List Node} (h : Substantial ns) :
    Serves r (inRole r ns) := by
  obtain ⟨n, hn, hcomment⟩ := h
  refine ⟨n.withRole (some r), List.mem_map.mpr ⟨n, hn, by simp [hcomment]⟩, ?_, ?_⟩
  · cases n <;> exact hcomment
  · cases n <;> rfl

theorem Reads.label {a : Rule Symbol} {x : List Node} (r : Role) (hx : Reads a x) :
    Reads (label r a) (inRole r x) where
  whole := allHave_inRole kept_hasParts hx.whole
  substantial h := by
    obtain ⟨n, hn, hcomment, -⟩ := serves_inRole (r := r) (hx.substantial h)
    exact ⟨n, hn, hcomment⟩
  serves r' h := by
    obtain ⟨hr, h⟩ := Bool.and_eq_true_iff.mp h
    rw [← beq_iff_eq.mp hr]
    exact serves_inRole (hx.substantial h)

theorem Reads.node {k : Kind} {a : Rule Symbol} {x : List Node} (hx : Reads a x)
    (hk : k.parts.all (fun r => a.fills r) = true) : Reads (node k a) (wrap k x) where
  whole := by
    refine allHave_wrap kept_hasParts hx.whole fun _ => hasParts_branch fun r hr => ?_
    obtain ⟨n, hn, hcomment, hrole⟩ := hx.serves r (List.all_eq_true.mp hk r hr)
    exact ⟨n, mem_splitComments hn hcomment, hrole⟩
  substantial h := by
    refine ⟨Node.branch k (splitComments x).2, List.mem_append_right _ List.mem_cons_self, ?_⟩
    rw [isComment, kind?_branch]
    exact Bool.not_eq_true' _ ▸ h
  serves r h := by cases h

/-- The parts of a tree that grows out of what has been read are in what the step reads. -/
theorem allWhole_graft {k : Kind} {a : Rule Symbol} {r : Option Role} {held x : List Node}
    (hheld : AllWhole held) (hx : Reads a x) (hk : k.parts.all (fun r => a.fills r) = true) :
    AllWhole (graft k r held x) := by
  refine allHave_graft kept_hasParts hheld hx.whole fun _ => hasParts_branch fun r hr => ?_
  obtain ⟨n, hn, -, hrole⟩ := hx.serves r (List.all_eq_true.mp hk r hr)
  exact ⟨n, List.mem_append_right _ hn, hrole⟩

/-- A whole rule builds nodes with their parts, from nodes with theirs. -/
theorem yields_whole {depth : Nat}
    (hrefs : ∀ s, Yields grammar Token.IsFit depth AllWhole (ref s) (Reads (ref s)))
    {rule : Rule Symbol} (hrule : rule.isWhole = true) :
    Yields grammar Token.IsFit depth AllWhole rule (Reads rule) := by
  -- as for conforming nodes, one law of the triple for each construct
  induction rule with
  | done => exact .done (.of_whole allWhole_nil rfl fun _ => rfl)
  | token t =>
    refine .token fun ts ns rest hts h => ?_
    obtain ⟨hwhole, hsubstantial⟩ := Terminal.whole_of_read? hrule hts h
    exact ⟨hwhole, fun _ => hsubstantial, fun r hr => by cases hr⟩
  | ref s => exact hrefs s
  | seq a b iha ihb =>
    obtain ⟨ha, hb⟩ := Bool.and_eq_true_iff.mp hrule
    exact .seq (iha ha).fresh (ihb hb).fresh fun x y hx hy => hx.seq hy
  | alt a b iha ihb =>
    obtain ⟨ha, hb⟩ := Bool.and_eq_true_iff.mp hrule
    refine .alt ((iha ha).imp (fun _ h => h) fun ns h => ?_)
      ((ihb hb).imp (fun _ h => h) fun ns h => ?_)
    · exact ⟨h.whole, fun hr => h.substantial (Bool.and_eq_true_iff.mp hr).1,
        fun r hr => h.serves r (Bool.and_eq_true_iff.mp hr).1⟩
    · exact ⟨h.whole, fun hr => h.substantial (Bool.and_eq_true_iff.mp hr).2,
        fun r hr => h.serves r (Bool.and_eq_true_iff.mp hr).2⟩
  | many a ih =>
    refine .many (ih hrule).fresh (.of_whole allWhole_nil rfl fun _ => rfl) fun x y hx hy => ?_
    exact .of_whole (allWhole_append.mpr ⟨hx.whole, hy.whole⟩) rfl fun _ => rfl
  | label r a ih => exact .label (ih hrule).fresh fun x hx => hx.label r
  | node k a ih =>
    obtain ⟨hk, ha⟩ := Bool.and_eq_true_iff.mp hrule
    exact .node (ih ha).fresh fun x hx => hx.node hk
  | after a b iha ihb =>
    obtain ⟨ha, hb⟩ := Bool.and_eq_true_iff.mp hrule
    refine .after ((iha ha).fresh.imp (fun _ h => h) fun _ h => h.whole)
      ((ihb hb).imp (fun _ h => h) fun ns h => ?_)
    exact .of_whole h.whole rfl fun _ => rfl
  | growing a ih =>
    refine (Yields.growing ((ih hrule).imp (fun _ h => h) fun _ h => h.whole)).imp
      (fun _ h => h) fun ns h => ?_
    exact .of_whole h rfl fun _ => rfl
  | given ks a ih =>
    exact .given ((ih hrule).imp (fun _ h => h) fun ns h => .of_whole h.whole rfl fun _ => rfl)
  | onto k r a ih =>
    obtain ⟨hk, ha⟩ := Bool.and_eq_true_iff.mp hrule
    refine .onto (ih ha).fresh fun held x hheld hx => ?_
    exact .of_whole (allWhole_graft hheld hx hk) rfl fun _ => rfl

/-- Every rule of the grammar is whole. -/
theorem isWhole_grammar (s : Symbol) : (grammar s).isWhole = true := by
  cases s <;> decide

/-- The rules of the grammar bear out the tables of what named rules surely read. -/
theorem reads_grammar (s : Symbol) :
    (isSure s = true → (grammar s).reads = true) ∧
      ∀ r, isSureIn r s = true → (grammar s).fills r = true := by
  constructor
  · intro h
    rw [isSure, beq_iff_eq] at h
    subst h
    decide
  · intro r h
    rw [isSureIn, Bool.and_eq_true, beq_iff_eq, beq_iff_eq] at h
    obtain ⟨rfl, rfl⟩ := h
    decide

end Rule

open Rule

/-- **Every rule of the grammar builds nodes with their parts.** -/
theorem whole_ref (depth : Nat) (s : Symbol) :
    Yields grammar Token.IsFit depth AllWhole (.ref s) (Reads (.ref s)) := by
  have hstep : ∀ depth,
      (∀ s, Yields grammar Token.IsFit depth AllWhole (.ref s) (Reads (.ref s))) →
        ∀ s, Yields grammar Token.IsFit depth AllWhole (grammar s) (Reads (.ref s)) := by
    intro depth hrefs s
    refine (yields_whole hrefs (isWhole_grammar s)).imp (fun _ h => h) fun ns h => ?_
    obtain ⟨hreads, hfills⟩ := reads_grammar s
    exact ⟨h.whole, fun hr => h.substantial (hreads hr), fun r hr => h.serves r (hfills r hr)⟩
  exact yields_ref hstep depth s

/-! ### Files -/

theorem Node.whole_of_ofText? {cs : List Char} {root : Node}
    (h : Node.ofText? cs = some root) : root.Everywhere HasParts := by
  refine Node.everywhere_of_ofText? kept_hasParts (fun _ _ => Token.isFit_of_scan?)
    (fun depth => ?_) (fun _ _ => hasParts_leaf (by simp))
    (fun ns _ => hasParts_branch (by simp [Kind.parts])) h
  exact (yields_whole (whole_ref depth) rfl).imp (fun _ h => h) fun _ h => h.whole

/-- **All nodes in the tree of a file have their parts.** -/
theorem File.hasParts {path text : String} {file : File}
    (h : File.ofText? path text = some file) : file.root.Everywhere HasParts := by
  obtain ⟨root, hroot, rfl⟩ := Option.map_eq_some_iff.mp h
  exact Node.whole_of_ofText? hroot

end RpcBindings.Source
