import RpcBindings.Proofs.Lexical
import RpcBindings.Proofs.Tree

/-!
# Types in a syntax tree

What the tree of a file guarantees about the nodes of its types: simple names are words, comments,
annotations and type arguments show a character that occurs in no word, and a dotted type consists
of a type, a dot and a name, with nothing but comments and annotations between them.

## Main definitions

* `Node.Conforms` — what the tree guarantees about one node.
* `Node.IsDotted` — the children of a dotted type.
* `Rule.isOrdinary` — no part of the rule builds a node about which more than its gap is known.

## Main results

* `Rule.yields_ordinary` — ordinary rules build conforming nodes from conforming ones.
* `conform_ref` — **every rule of the grammar builds conforming nodes.**
* `File.conforms` — all nodes in the tree of a file conform.
-/

namespace RpcBindings.Source

/-- A character that the text of every node of a kind has. -/
def Kind.sign? : Kind → Option Char
  | .lineComment | .blockComment => some '/'
  | .bareAnnotated | .fullAnnotated => some '@'
  | .typeArguments | .genericType => some '<'
  | _ => none

/-- Whether nodes of a kind are words. -/
def Kind.isWord : Kind → Bool
  | .typeIdentifier | .integralType | .floatingPointType | .booleanType => true
  | _ => false

theorem Kind.sign?_of_isWord {k : Kind} (h : k.isWord = true) : k.sign? = none := by
  unfold Kind.isWord at h
  split at h
  · rfl
  · rfl
  · rfl
  · rfl
  · cases h

theorem Kind.spec_of_isComment {k : Kind} (h : k.isComment = true) :
    k.sign? = some '/' ∧ k.isWord = false := by
  rw [Kind.isComment, Bool.or_eq_true, beq_iff_eq, beq_iff_eq] at h
  rcases h with rfl | rfl
  · exact ⟨rfl, rfl⟩
  · exact ⟨rfl, rfl⟩

theorem Kind.sign?_cases {k : Kind} {c : Char} (h : k.sign? = some c) :
    c = '/' ∨ c = '@' ∨ c = '<' := by
  unfold Kind.sign? at h
  split at h
  case h_7 => cases h
  all_goals
    cases h
    decide

/-- Whether nothing is known about the text and the children of nodes of a kind. -/
def Kind.isFree (k : Kind) : Bool :=
  k.sign?.isNone && !k.isWord && k != .scopedTypeIdentifier

namespace Node

/-! ### Characters of nodes -/

theorem mem_text_of_mem_children {c : Char} {m n : Node} (hm : m ∈ n.children)
    (hc : c ∈ m.text) : c ∈ n.text := by
  cases n with
  | leaf => cases hm
  | tree g r k l cs =>
    rw [text, sources_eq_flatMap, List.mem_flatMap]
    exact ⟨m, hm, List.mem_append_right _ hc⟩

theorem mem_text_of_mem_gap {c : Char} {m n : Node} (hm : m ∈ n.children) (hc : c ∈ m.gap) :
    c ∈ n.text := by
  cases n with
  | leaf => cases hm
  | tree g r k l cs =>
    rw [text, sources_eq_flatMap, List.mem_flatMap]
    exact ⟨m, hm, List.mem_append_left _ hc⟩

mutual

/-- A character of a node is a character of each node above it. -/
theorem mem_text_of_mem_preorder {c : Char} {m : Node} (hc : c ∈ m.text) :
    (n : Node) → m ∈ n.preorder → c ∈ n.text
  | .leaf .., hm => by
    rw [preorder, List.mem_singleton] at hm
    rwa [← hm]
  | .tree _ _ _ _ cs, hm => by
    rw [preorder, List.mem_cons] at hm
    rcases hm with rfl | hm
    · exact hc
    · rw [text]
      exact mem_sources_of_mem_preorders hc cs hm

theorem mem_sources_of_mem_preorders {c : Char} {m : Node} (hc : c ∈ m.text) :
    (ns : List Node) → m ∈ preorders ns → c ∈ sources ns
  | [], hm => by simp [preorders] at hm
  | n :: ns, hm => by
    rw [preorders, List.mem_append] at hm
    rw [sources, List.mem_append, List.mem_append]
    rcases hm with hm | hm
    · exact .inl (.inr (mem_text_of_mem_preorder hc n hm))
    · exact .inr (mem_sources_of_mem_preorders hc ns hm)

end

theorem mem_text_branch {c : Char} {k : Kind} {n : Node} {ns : List Node} (hn : n ∈ ns)
    (hc : c ∈ n.text) : c ∈ (branch k ns).text := by
  cases ns with
  | nil => cases hn
  | cons m ms =>
    rcases List.mem_cons.mp hn with rfl | hn
    · exact mem_text_of_mem_children List.mem_cons_self (by rwa [text_withGap])
    · exact mem_text_of_mem_children (List.mem_cons_of_mem _ hn) hc

/-! ### Conforming nodes -/

/-- A name of a type, with or without type arguments. -/
def IsTypeName (n : Node) : Prop :=
  n.kind? = some .typeIdentifier ∨ n.kind? = some .genericType ∨
    n.kind? = some .scopedTypeIdentifier

/-- A comment or an annotation. -/
def IsAside (n : Node) : Prop :=
  ∃ k, n.kind? = some k ∧ (k.sign? = some '/' ∨ k.sign? = some '@')

/-- The children of a dotted type: what stands in front of the last dot, the dot, and a name. -/
inductive IsDotted : List Node → Prop
  | parts {q dot name : Node} {before between : List Node} (hq : q.IsTypeName)
    (hbefore : ∀ c ∈ before, c.isComment = true) (hdot : dot.kind? = none)
    (htext : dot.text = ['.']) (hbetween : ∀ c ∈ between, c.IsAside)
    (hname : name.kind? = some .typeIdentifier) :
    IsDotted (q :: (before ++ dot :: (between ++ [name])))

/-- What the tree of a file guarantees about one node. -/
structure Conforms (n : Node) : Prop where
  gap : ∀ c ∈ n.gap, Token.isGap c = true ∨ c = Token.byteOrderMark
  word : ∀ k, n.kind? = some k → k.isWord = true → Token.IsWord n.text ∧ n.children = []
  sign : ∀ k c, n.kind? = some k → k.sign? = some c → c ∈ n.text
  dotted : n.kind? = some .scopedTypeIdentifier → IsDotted n.children

theorem Conforms.of_free {n : Node}
    (hgap : ∀ c ∈ n.gap, Token.isGap c = true ∨ c = Token.byteOrderMark)
    (hfree : ∀ k, n.kind? = some k → k.isFree = true) : n.Conforms := by
  have hparts : ∀ k, n.kind? = some k → k.sign? = none ∧ k.isWord = false ∧
      k ≠ .scopedTypeIdentifier := by
    intro k hk
    have h := hfree k hk
    simpa [Kind.isFree, and_assoc] using h
  refine ⟨hgap, fun k hk h => ?_, fun k c hk h => ?_, fun hk => ?_⟩
  · rw [(hparts k hk).2.1] at h
    cases h
  · rw [(hparts k hk).1] at h
    cases h
  · exact absurd rfl (hparts _ hk).2.2

/-- A node conforms by its kind, its text and its children. -/
theorem Conforms.congr {m n : Node} (h : n.Conforms)
    (hgap : ∀ c ∈ m.gap, Token.isGap c = true ∨ c = Token.byteOrderMark)
    (hkind : m.kind? = n.kind?) (htext : m.text = n.text) (hchildren : m.children = n.children) :
    m.Conforms where
  gap := hgap
  word := by rw [hkind, htext, hchildren]; exact h.word
  sign := by rw [hkind, htext]; exact h.sign
  dotted := by rw [hkind, hchildren]; exact h.dotted

theorem kept_conforms : Kept Token.IsFit Conforms where
  withRole r n h := by
    cases n with
    | leaf => exact h.congr h.gap rfl (by simp [withRole, text]) rfl
    | tree => exact h.congr h.gap rfl (by simp [withRole, text]) rfl
  withGap n h := by
    refine h.congr (by simp) ?_ (text_withGap [] n) ?_
    · cases n <;> rfl
    · cases n <;> rfl
  comment t k ht hk := by
    obtain ⟨hcomment, hslash⟩ := ht.comment k hk
    obtain ⟨hsign, hnot⟩ := Kind.spec_of_isComment hcomment
    refine ⟨ht.gap, ?_, ?_, ?_⟩
    · rintro k' ⟨⟩ hword
      rw [hnot] at hword
      cases hword
    · rintro k' c ⟨⟩ hc
      rw [hsign] at hc
      cases hc
      exact hslash
    · rintro ⟨⟩
      cases hcomment

/-- All nodes of some trees conform. -/
def AllConform (ns : List Node) : Prop :=
  ∀ n ∈ ns, n.Everywhere Conforms

theorem allConform_append {ms ns : List Node} :
    AllConform (ms ++ ns) ↔ AllConform ms ∧ AllConform ns :=
  List.forall_mem_append

theorem gap_branch {k : Kind} {ns : List Node} (hns : AllConform ns) :
    ∀ c ∈ (branch k ns).gap, Token.isGap c = true ∨ c = Token.byteOrderMark := by
  cases ns with
  | nil => simp [branch]
  | cons n ns => exact (hns n List.mem_cons_self n n.mem_preorder_self).gap

theorem kind?_branch (k : Kind) (ns : List Node) : (branch k ns).kind? = some k := by
  cases ns <;> rfl

theorem eq_of_kind?_branch {k k' : Kind} {ns : List Node} (h : (branch k ns).kind? = some k') :
    k = k' := by
  rwa [kind?_branch, Option.some.injEq] at h

theorem conforms_branch_of_free {k : Kind} {ns : List Node} (hk : k.isFree = true)
    (hns : AllConform ns) : (branch k ns).Conforms := by
  refine .of_free (gap_branch hns) fun k' hk' => ?_
  rwa [← eq_of_kind?_branch hk']

/-- A tree conforms if one of its children has the character of its kind. -/
theorem conforms_branch_of_sign {k : Kind} {c : Char} {n : Node} {ns : List Node}
    (hk : k.sign? = some c) (hns : AllConform ns) (hn : n ∈ ns) (hc : c ∈ n.text) :
    (branch k ns).Conforms where
  gap := gap_branch hns
  word := by
    intro k' hk' hword
    obtain rfl := eq_of_kind?_branch hk'
    rw [Kind.sign?_of_isWord hword] at hk
    cases hk
  sign := by
    intro k' c' hk' hc'
    obtain rfl := eq_of_kind?_branch hk'
    rw [hk, Option.some.injEq] at hc'
    exact mem_text_branch hn (hc' ▸ hc)
  dotted := by
    intro hk'
    obtain rfl := eq_of_kind?_branch hk'
    cases hk

theorem conforms_branch_of_dotted {q : Node} {ns : List Node} (hns : AllConform (q :: ns))
    (hdotted : IsDotted (q.withGap [] :: ns)) :
    (branch .scopedTypeIdentifier (q :: ns)).Conforms where
  gap := gap_branch hns
  word := by rintro k ⟨⟩ hword; cases hword
  sign := by rintro k c ⟨⟩ hc; cases hc
  dotted := fun _ => hdotted

/-- Comments, and then one node with the property. -/
def Ends (p : Node → Prop) (ns : List Node) : Prop :=
  ∃ cs n, ns = cs ++ [n] ∧ (∀ c ∈ cs, c.isComment = true) ∧ p n

/-- Some node that is no comment has the character. -/
def Signed (c : Char) (ns : List Node) : Prop :=
  ∃ n ∈ ns, n.isComment = false ∧ c ∈ n.text

end Node

open Node

/-! ### Terminals -/

theorem Token.IsFit.leaf_of_word {t : Token} (ht : t.IsFit) (hword : t.lexeme = .word) {k : Kind}
    (hk : (k.isFree || k.isWord) = true) : (t.leaf (some k)).Conforms := by
  rw [Bool.or_eq_true] at hk
  rcases hk with hk | hk
  · refine .of_free ht.gap ?_
    rintro k' ⟨⟩
    exact hk
  · refine ⟨ht.gap, fun _ _ _ => ⟨ht.word hword, rfl⟩, ?_, ?_⟩
    · rintro k' c ⟨⟩ hc
      rw [Kind.sign?_of_isWord hk] at hc
      cases hc
    · rintro ⟨⟩
      cases hk

theorem Literal.conform_of_node? {fragment : Kind} (hfragment : fragment.isFree = true)
    {quote : List Char} {t : Token} (ht : t.IsFit) {n : Node}
    (h : node? fragment quote t = some n) : n.Everywhere Conforms := by
  refine everywhere_of_node? (fun cs => .of_free ht.gap ?_) (fun k line text hk => ?_) h
  · rintro k ⟨⟩
    rfl
  · refine .of_free (by simp [gap]) fun k' hk' => ?_
    rcases hk k' hk' with rfl | rfl
    · exact hfragment
    · rfl

namespace Terminal

/-- Whether the terminal reads nodes about which nothing is known but that they may be words. -/
def isOrdinary : Terminal → Bool
  | identifier k | wordNode _ k => k.isFree || k.isWord
  | symbolNode _ k => k.isFree
  | _ => true

theorem gives_conforms {terminal : Terminal} (hterminal : terminal.isOrdinary = true) :
    terminal.Gives Token.IsFit Conforms := by
  intro ts n rest hts h
  have hleaf : ∀ {t : Token} {ts : List Token} {k : Option Kind}, (∀ t' ∈ t :: ts, t'.IsFit) →
      (∀ k', k = some k' → k'.isFree = true) → (t.leaf k).Everywhere Conforms := fun hts hk =>
    everywhere_leaf_iff.mpr (.of_free (hts _ List.mem_cons_self).gap hk)
  cases h with
  | keyword | symbol => exact hleaf hts (by simp)
  | joined =>
    exact everywhere_leaf_iff.mpr (.of_free (hts _ List.mem_cons_self).gap (by simp [kind?]))
  | identifier hword =>
    exact everywhere_leaf_iff.mpr ((hts _ List.mem_cons_self).leaf_of_word hword hterminal)
  | wordNode hword =>
    simp only [Token.isWord, Bool.and_eq_true, beq_iff_eq] at hword
    exact everywhere_leaf_iff.mpr ((hts _ List.mem_cons_self).leaf_of_word hword.1 hterminal)
  | symbolNode =>
    refine hleaf hts ?_
    rintro k' ⟨⟩
    exact hterminal
  | literal hk =>
    have hkinds : ∀ k ∈ Token.literalKinds, k.isFree = true := by decide
    refine hleaf hts ?_
    rintro k' ⟨⟩
    exact hkinds _ ((hts _ List.mem_cons_self).literal _ hk)
  | string _ _ hn => exact Literal.conform_of_node? rfl (hts _ List.mem_cons_self) hn
  | textBlock _ _ hn => exact Literal.conform_of_node? rfl (hts _ List.mem_cons_self) hn

/-- What an ordinary terminal reads: comments, and then the node of its token. -/
theorem conform_of_read? {terminal : Terminal} (hterminal : terminal.isOrdinary = true)
    {ts rest : List Token} (hts : ∀ t ∈ ts, t.IsFit) {ns : List Node}
    (h : terminal.read? ts = some (ns, rest)) :
    AllConform ns ∧ ∃ cs n ts', ns = cs ++ [n] ∧ (∀ c ∈ cs, c.isComment = true) ∧
      terminal.Reads ts' n rest := by
  obtain ⟨n, hns, hn⟩ := exists_of_read? h
  refine ⟨(gives_conforms hterminal).allHave kept_conforms hts h, _, n, _, hns, fun c hc => ?_, hn⟩
  obtain ⟨t, ht, k, hk, rfl⟩ := exists_of_mem_comments hc
  exact ((hts t ht).comment k hk).1

end Terminal

/-! ### Rules -/

namespace Rule

variable {α : Type} {grammar : α → Rule α}

/-- Whether no part of the rule builds a node about which more than its gap is known. -/
def isOrdinary : Rule α → Bool
  | done | ref _ => true
  | token t => t.isOrdinary
  | seq a b | alt a b | after a b => a.isOrdinary && b.isOrdinary
  | many a | label _ a | growing a | given _ a => a.isOrdinary
  | node k a | onto k _ a => k.isFree && a.isOrdinary

theorem spec_of_isOrdinary {rule : Rule α} (h : rule.isOrdinary = true) :
    (∀ t ∈ rule.terminals, t.isOrdinary = true) ∧ ∀ k ∈ rule.builds, k.isFree = true := by
  induction rule with
  | done | ref => simp [terminals, builds]
  | token t => exact ⟨List.forall_mem_singleton.mpr h, by simp [builds]⟩
  | seq a b iha ihb | alt a b iha ihb | after a b iha ihb =>
    obtain ⟨ha, hb⟩ := Bool.and_eq_true_iff.mp h
    exact ⟨List.forall_mem_append.mpr ⟨(iha ha).1, (ihb hb).1⟩,
      List.forall_mem_append.mpr ⟨(iha ha).2, (ihb hb).2⟩⟩
  | many a ih | label r a ih | growing a ih | given ks a ih => exact ih h
  | node k a ih | onto k r a ih =>
    obtain ⟨hk, ha⟩ := Bool.and_eq_true_iff.mp h
    exact ⟨(ih ha).1, List.forall_mem_cons.mpr ⟨hk, (ih ha).2⟩⟩

/-- An ordinary rule builds conforming nodes from conforming ones. -/
theorem yields_ordinary {depth : Nat}
    (hrefs : ∀ s, Yields grammar Token.IsFit depth AllConform (ref s) AllConform) {rule : Rule α}
    (hrule : rule.isOrdinary = true) :
    Yields grammar Token.IsFit depth AllConform rule AllConform := by
  obtain ⟨hterminals, hbuilds⟩ := spec_of_isOrdinary hrule
  exact yields_everywhere kept_conforms hrefs
    (fun t ht => Terminal.gives_conforms (hterminals t ht))
    fun k hk ns hns => conforms_branch_of_free (hbuilds k hk) hns

end Rule

/-! ### The grammar of types -/

open Rule

/-- The rules that build annotations, type arguments, generic types and dotted types. -/
def typeSymbols : List Symbol :=
  [.mark, .typeArguments, .namedType, .genericName]

theorem isOrdinary_grammar (s : Symbol) (hs : s ∉ typeSymbols) : (grammar s).isOrdinary = true := by
  cases s <;> first | rfl | exact absurd (by decide) hs

section Types

variable {depth : Nat} {pre : List Node → Prop}

theorem ends_wrap (k : Kind) (ns : List Node) : Ends (fun n => n.kind? = some k) (wrap k ns) := by
  exact ⟨_, _, rfl, fun c hc => isComment_of_mem_splitComments hc, kind?_branch k _⟩

theorem yields_wrapped (k : Kind) (a : Rule Symbol) :
    Yields grammar Token.IsFit depth pre (.node k a) (Ends fun n => n.kind? = some k) :=
  .node (fun _ _ _ _ _ _ _ _ _ => trivial) fun x _ => ends_wrap k x

theorem yields_symbol (s : String) :
    Yields grammar Token.IsFit depth pre (symbol s)
      fun ns => AllConform ns ∧ Ends (fun n => n.kind? = none ∧ n.text = s.toList) ns := by
  refine .token fun ts ns rest hts h => ?_
  obtain ⟨hconform, cs, n, ts', hns, hcs, hn⟩ := Terminal.conform_of_read? rfl hts h
  refine ⟨hconform, cs, n, hns, hcs, ?_⟩
  cases hn with
  | symbol hsymbol =>
    simp only [Token.isSymbol, Bool.and_eq_true, beq_iff_eq] at hsymbol
    exact ⟨rfl, hsymbol.2⟩
  | string hterminal | textBlock hterminal => simp at hterminal

theorem yields_typeName :
    Yields grammar Token.IsFit depth pre (.token (.identifier .typeIdentifier))
      fun ns => AllConform ns ∧ Ends (fun n => n.kind? = some .typeIdentifier) ns := by
  refine .token fun ts ns rest hts h => ?_
  obtain ⟨hconform, cs, n, ts', hns, hcs, hn⟩ := Terminal.conform_of_read? rfl hts h
  refine ⟨hconform, cs, n, hns, hcs, ?_⟩
  cases hn with
  | identifier => rfl
  | string hterminal | textBlock hterminal => simp at hterminal

/-- A tree over nodes of which one shows the sign of its kind. -/
theorem yields_signed {k : Kind} {c : Char} {a : Rule Symbol} (hk : k.sign? = some c)
    (ha : Yields grammar Token.IsFit depth Fresh a fun ns => AllConform ns ∧ Signed c ns) :
    Yields grammar Token.IsFit depth pre (.node k a) AllConform := by
  refine .node ha fun x hx => ?_
  obtain ⟨hconform, n, hn, hcomment, hc⟩ := hx
  exact allHave_wrap kept_conforms hconform fun hinner =>
    conforms_branch_of_sign hk hinner (mem_splitComments hn hcomment) hc

/-- What follows a symbol does not hide it. -/
theorem yields_symbol_seq {s : String} {c : Char} (hc : c ∈ s.toList) {b : Rule Symbol}
    (hb : Yields grammar Token.IsFit depth Fresh b AllConform) :
    Yields grammar Token.IsFit depth pre (.seq (symbol s) b)
      fun ns => AllConform ns ∧ Signed c ns := by
  refine .seq (yields_symbol s) hb fun x y hx hy => ?_
  obtain ⟨hconform, cs, n, rfl, -, hkind, htext⟩ := hx
  refine ⟨allConform_append.mpr ⟨hconform, hy⟩, n, by simp, ?_, by rwa [htext]⟩
  rw [isComment, hkind]
  rfl

/-- An annotation. -/
theorem yields_mark :
    Yields grammar Token.IsFit depth pre (.ref .mark) (Ends IsAside) := by
  -- the kind of an annotation shows in its own rule, whatever the rules inside of it read
  have hmark : Yields grammar Token.IsFit (depth + 1) pre (.ref .mark) (Ends IsAside) := by
    refine .ref (.alt ((yields_wrapped .fullAnnotated _).imp (fun _ h => h) ?_)
      ((yields_wrapped .bareAnnotated _).imp (fun _ h => h) ?_))
    · rintro ns ⟨cs, n, rfl, hcs, hn⟩
      exact ⟨cs, n, rfl, hcs, _, hn, .inr rfl⟩
    · rintro ns ⟨cs, n, rfl, hcs, hn⟩
      exact ⟨cs, n, rfl, hcs, _, hn, .inr rfl⟩
  exact hmark.of_le depth.le_succ

theorem isAside_of_isComment {n : Node} (h : n.isComment = true) : n.IsAside := by
  rw [isComment, Option.any_eq_true] at h
  obtain ⟨k, hk, hcomment⟩ := h
  exact ⟨k, hk, .inl (Kind.spec_of_isComment hcomment).1⟩

/-- The part of a dotted type behind its first name. -/
theorem yields_dotted :
    Yields grammar Token.IsFit depth pre
      (seqs [symbol ".", .many (.ref .mark), .token (.identifier .typeIdentifier)])
      fun ns => ∀ q : Node, q.IsTypeName → IsDotted (q :: ns) := by
  have hmarks : Yields grammar Token.IsFit depth Fresh (.many (.ref .mark))
      fun ns => ∀ n ∈ ns, n.IsAside := by
    refine .many yields_mark (by simp) fun x y hx hy => ?_
    obtain ⟨cs, n, rfl, hcs, hn⟩ := hx
    simp only [List.forall_mem_append, List.forall_mem_singleton]
    exact ⟨⟨fun c hc => isAside_of_isComment (hcs c hc), hn⟩, hy⟩
  have hname : Yields grammar Token.IsFit depth Fresh
      (.seq (.many (.ref .mark)) (.token (.identifier .typeIdentifier)))
      fun ns => ∃ between n, ns = between ++ [n] ∧ (∀ c ∈ between, c.IsAside) ∧
        n.kind? = some .typeIdentifier := by
    refine .seq hmarks yields_typeName fun x y hx hy => ?_
    obtain ⟨-, cs, n, rfl, hcs, hn⟩ := hy
    refine ⟨x ++ cs, n, by simp, ?_, hn⟩
    exact List.forall_mem_append.mpr ⟨hx, fun c hc => isAside_of_isComment (hcs c hc)⟩
  refine .seq (yields_symbol ".") hname fun x y hx hy q hq => ?_
  obtain ⟨-, before, dot, rfl, hbefore, hdot, htext⟩ := hx
  obtain ⟨between, n, rfl, hbetween, hn⟩ := hy
  have hparts := IsDotted.parts hq hbefore hdot htext hbetween hn
  simpa using hparts

/-- A type name that has been read, with comments in front of it. -/
def IsHeldName (ns : List Node) : Prop :=
  AllConform ns ∧ Ends IsTypeName ns

theorem graft_heldName {k : Kind} {cs : List Node} {q : Node} (hcs : ∀ c ∈ cs, c.isComment = true)
    (hq : q.IsTypeName) (ns : List Node) :
    graft k none (cs ++ [q]) ns = cs ++ [Node.branch k (q :: ns)] := by
  have hnot : q.isComment = false := by
    rcases hq with hq | hq | hq
    all_goals
      rw [isComment, hq]
      rfl
  have hsplit : splitComments (cs ++ [q]) = (cs, [q]) := by
    rw [splitComments, List.span_eq_takeWhile_dropWhile, List.takeWhile_append_of_pos hcs,
      List.dropWhile_append_of_pos hcs]
    simp [hnot]
  rw [graft_eq, grafted, hsplit]
  rfl

/-- A step from a type name to a longer one. -/
theorem isHeldName_graft {k : Kind} {held ns : List Node} (hheld : IsHeldName held)
    (hns : AllConform ns) (hk : k = .genericType ∨ k = .scopedTypeIdentifier)
    (hconforms : ∀ q : Node, q.IsTypeName → AllConform (q :: ns) →
      (Node.branch k (q :: ns)).Conforms) : IsHeldName (graft k none held ns) := by
  obtain ⟨hheld, cs, q, rfl, hcs, hq⟩ := hheld
  rw [allConform_append] at hheld
  have hinner : AllConform (q :: ns) :=
    List.forall_mem_cons.mpr ⟨hheld.2 q (List.mem_singleton.mpr rfl), hns⟩
  rw [graft_heldName hcs hq]
  refine ⟨allConform_append.mpr ⟨hheld.1, List.forall_mem_singleton.mpr ?_⟩, cs, _, rfl, hcs, ?_⟩
  · exact kept_conforms.everywhere_branch hinner (hconforms q hq hinner)
  · rw [IsTypeName, kind?_branch]
    rcases hk with rfl | rfl
    · exact .inr (.inl rfl)
    · exact .inr (.inr rfl)

theorem yields_simpleName :
    Yields grammar Token.IsFit depth Fresh (.token (.identifier .typeIdentifier)) IsHeldName := by
  refine yields_typeName.imp (fun _ h => h) ?_
  rintro ns ⟨hns, cs, n, rfl, hcs, hn⟩
  exact ⟨hns, cs, n, rfl, hcs, .inl hn⟩

variable (hrefs : ∀ s, Yields grammar Token.IsFit depth AllConform (.ref s) AllConform)

include hrefs

/-- A type name with type arguments. -/
theorem yields_generic :
    Yields grammar Token.IsFit depth IsHeldName (.onto .genericType none (.ref .typeArguments))
      IsHeldName := by
  have harguments : Yields grammar Token.IsFit (depth + 1) Fresh (.ref .typeArguments)
      (Ends fun n => n.kind? = some .typeArguments) := .ref (yields_wrapped .typeArguments _)
  refine .onto ((hrefs _).fresh.and (harguments.of_le depth.le_succ))
    fun held x hheld hx => ?_
  obtain ⟨hx, cs, n, rfl, -, hn⟩ := hx
  refine isHeldName_graft hheld hx (.inl rfl) fun q _ hinner => ?_
  have hmem : n ∈ cs ++ [n] := by simp
  have hsign := (hx n hmem n n.mem_preorder_self).sign .typeArguments '<' hn rfl
  exact conforms_branch_of_sign rfl hinner (List.mem_cons_of_mem q hmem) hsign

/-- A type name with a dot and another name. -/
theorem yields_scoped :
    Yields grammar Token.IsFit depth IsHeldName
      (.onto .scopedTypeIdentifier none
        (seqs [symbol ".", .many (.ref .mark), .token (.identifier .typeIdentifier)]))
      IsHeldName := by
  refine .onto ((yields_ordinary hrefs rfl).fresh.and yields_dotted)
    fun held x hheld hx => ?_
  obtain ⟨hx, hdotted⟩ := hx
  refine isHeldName_graft hheld hx (.inr rfl) fun q hq hinner => ?_
  refine conforms_branch_of_dotted hinner (hdotted _ ?_)
  -- the gap in front of a tree moves out of its first child, which changes no kind
  cases q with
  | leaf => exact hq
  | tree => exact hq

/-- The body of every rule builds conforming nodes if all named rules do. -/
theorem yields_grammar (s : Symbol) :
    Yields grammar Token.IsFit depth AllConform (grammar s) AllConform := by
  have hordinary : ∀ {rule : Rule Symbol}, rule.isOrdinary = true →
      Yields grammar Token.IsFit depth Fresh rule AllConform :=
    fun h => (yields_ordinary hrefs h).fresh
  -- a type name grows from a simple name, and each step keeps it a type name
  have hname : ∀ {pre : List Node → Prop} {step : Rule Symbol},
      Yields grammar Token.IsFit depth IsHeldName step IsHeldName →
        Yields grammar Token.IsFit depth pre
          (.after (.token (.identifier .typeIdentifier)) (.growing step)) IsHeldName :=
    fun h => .after yields_simpleName (.growing h)
  by_cases hs : s ∈ typeSymbols
  · simp only [typeSymbols, List.mem_cons, List.not_mem_nil, or_false] at hs
    rcases hs with rfl | rfl | rfl | rfl
    · have hhead : Yields grammar Token.IsFit depth Fresh
          (.seq (symbol "@") (.label .name (.ref .name))) fun ns => AllConform ns ∧ Signed '@' ns :=
        yields_symbol_seq (by decide) (hordinary rfl)
      refine .alt (yields_signed rfl (.seq hhead (hordinary rfl) fun x y hx hy => ?_))
        (yields_signed rfl hhead)
      obtain ⟨hx, n, hn, hrest⟩ := hx
      exact ⟨allConform_append.mpr ⟨hx, hy⟩, n, List.mem_append_left y hn, hrest⟩
    · exact yields_signed rfl (yields_symbol_seq (by decide) (hordinary rfl))
    · exact (hname (.alt (yields_generic hrefs) (yields_scoped hrefs))).imp (fun _ h => h)
        fun _ h => h.1
    · exact (Yields.after (hname (yields_scoped hrefs)) (yields_generic hrefs)).imp
        (fun _ h => h) fun _ h => h.1
  · exact yields_ordinary hrefs (isOrdinary_grammar s hs)

end Types

/-- **Every rule of the grammar builds conforming nodes.** -/
theorem conform_ref (depth : Nat) (s : Symbol) :
    Yields grammar Token.IsFit depth AllConform (.ref s) AllConform :=
  yields_ref (fun _ hrefs s => yields_grammar hrefs s) depth s

/-! ### Files -/

theorem Node.conforms_of_ofText? {cs : List Char} {root : Node}
    (h : Node.ofText? cs = some root) : root.Everywhere Conforms :=
  Node.everywhere_of_ofText? kept_conforms (fun _ _ => Token.isFit_of_scan?)
    (fun depth => yields_ordinary (conform_ref depth) rfl)
    (fun _ ht => .of_free ht.gap (by simp [Token.leaf, kind?]))
    (fun _ hns => conforms_branch_of_free rfl hns) h

/-- All nodes in the tree of a file conform. -/
theorem File.conforms {path text : String} {file : File}
    (h : File.ofText? path text = some file) : file.root.Everywhere Conforms := by
  obtain ⟨root, hroot, rfl⟩ := Option.map_eq_some_iff.mp h
  exact Node.conforms_of_ofText? hroot

end RpcBindings.Source
