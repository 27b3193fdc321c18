import RpcBindings.Source.Rule

/-!
# What rules read

A terminal reads its token in one of a few ways, and a rule reads what its parts read.  For rules
there is a triple: from held nodes with one property a rule reads nodes with another one, as long as
all tokens are fit in some sense.  There is one law for each way to build a rule, so that what a rule
reads follows from what its parts read, and named rules are the only place where the depth of the
descent counts.

## Main definitions

* `Literal.IsPart` — the delimiters and the pieces of a literal.
* `Terminal.Reads` — what a terminal reads behind the comments.
* `Rule.Yields` — the triple, for descents up to some depth.

## Main results

* `Terminal.readHere?_eq_some_iff` — **a terminal reads a node in just these ways.**
* `Rule.suffix_of_run?` — a rule reads tokens from the front.
* `Rule.Yields.seq`, `Rule.Yields.many`, `Rule.Yields.growing`, … — the laws of the triple.
* `Rule.yields_ref` — **what the rules of a grammar read**, if each body reads it when all named
  rules do so less deep.
-/

namespace RpcBindings.Source

/-! ### Literals -/

namespace Literal

/-- A delimiter or a piece of a literal: a leaf that is without a kind, or a run of characters, or
an escape. -/
def IsPart (fragment : Kind) (n : Node) : Prop :=
  ∃ k line text, n = .leaf [] none k line text ∧
    ∀ k', k = some k' → k' = fragment ∨ k' = .escapeSequence

theorem isPart_leaf {fragment k : Kind} (hk : k = fragment ∨ k = .escapeSequence) (line : Nat)
    (text : List Char) : IsPart fragment (.leaf [] none (some k) line text) := by
  refine ⟨some k, line, text, rfl, ?_⟩
  rintro k' ⟨⟩
  exact hk

theorem isPart_of_pieces? {fragment : Kind} {fuel line : Nat} {cs : List Char} {ns : List Node}
    (h : pieces? fragment fuel line cs = some ns) : ∀ n ∈ ns, IsPart fragment n := by
  fun_induction pieces? fragment fuel line cs generalizing ns with
  | case1 => cases h; simp
  | case2 => cases h
  | case3 fuel line cs ih =>
    simp only [Option.bind_eq_bind, Option.bind_eq_some_iff, Option.pure_def, Option.some.injEq]
      at h
    obtain ⟨size, _, rest, hrest, rfl⟩ := h
    exact List.forall_mem_cons.mpr ⟨isPart_leaf (.inr rfl) _ _, ih size hrest⟩
  | case4 fuel line cs _ _ text =>
    rename_i ih
    simp only [Option.bind_eq_bind, Option.bind_eq_some_iff, Option.pure_def, Option.some.injEq]
      at h
    obtain ⟨rest, hrest, rfl⟩ := h
    exact List.forall_mem_cons.mpr ⟨isPart_leaf (.inl rfl) _ _, ih hrest⟩

/-- The node of a literal is a tree over its delimiters and pieces. -/
theorem exists_of_node? {fragment : Kind} {quote : List Char} {t : Token} {n : Node}
    (h : node? fragment quote t = some n) :
    ∃ cs, n = .tree t.gap none .stringLiteral t.line cs ∧ ∀ c ∈ cs, IsPart fragment c := by
  simp only [node?, Option.bind_eq_bind, Option.bind_eq_some_iff, Option.pure_def,
    Option.some.injEq] at h
  obtain ⟨inner, hinner, rfl⟩ := h
  have hquote : ∀ line, IsPart fragment (.leaf [] none none line quote) := fun line =>
    ⟨none, line, quote, rfl, by simp⟩
  refine ⟨_, rfl, List.forall_mem_append.mpr ⟨List.forall_mem_cons.mpr ⟨hquote _, ?_⟩, ?_⟩⟩
  · exact isPart_of_pieces? hinner
  · exact List.forall_mem_singleton.mpr (hquote _)

end Literal

/-! ### Terminals -/

namespace Terminal

/-- What a terminal reads, if the first token is no comment: a node, and the tokens behind it. -/
inductive Reads : Terminal → List Token → Node → List Token → Prop
  | keyword {w : String} {t : Token} {ts : List Token} (h : t.isWord w = true) :
    Reads (.keyword w) (t :: ts) (t.leaf none) ts
  | symbol {s : String} {t : Token} {ts : List Token} (h : t.isSymbol s = true) :
    Reads (.symbol s) (t :: ts) (t.leaf none) ts
  | joined {s : String} {ss : List String} {t : Token} {ts rest : List Token} {text : List Char}
    (h : t.isSymbol s = true) (htext : touching? ss ts = some (text, rest)) :
    Reads (.joined (s :: ss)) (t :: ts) (.leaf t.gap none none t.line (t.text ++ text)) rest
  | identifier {k : Kind} {t : Token} {ts : List Token} (h : t.lexeme = .word)
    (htext : isIdentifier t.text = true) : Reads (.identifier k) (t :: ts) (t.leaf (some k)) ts
  | wordNode {w : String} {k : Kind} {t : Token} {ts : List Token} (h : t.isWord w = true) :
    Reads (.wordNode w k) (t :: ts) (t.leaf (some k)) ts
  | symbolNode {s : String} {k : Kind} {t : Token} {ts : List Token} (h : t.isSymbol s = true) :
    Reads (.symbolNode s k) (t :: ts) (t.leaf (some k)) ts
  | literal {k : Kind} {t : Token} {ts : List Token} (h : t.lexeme = .literal k) :
    Reads .literal (t :: ts) (t.leaf (some k)) ts
  | string {terminal : Terminal} {t : Token} {ts : List Token} {n : Node}
    (hterminal : terminal = .literal ∨ terminal = .string) (h : t.lexeme = .string)
    (hn : Literal.node? .stringFragment ['"'] t = some n) : Reads terminal (t :: ts) n ts
  | textBlock {terminal : Terminal} {t : Token} {ts : List Token} {n : Node}
    (hterminal : terminal = .literal ∨ terminal = .string) (h : t.lexeme = .textBlock)
    (hn : Literal.node? .multilineStringFragment ['"', '"', '"'] t = some n) :
    Reads terminal (t :: ts) n ts

variable {terminal : Terminal} {ts rest : List Token} {n : Node} {ns : List Node}

theorem reads_of_readHere? (h : terminal.readHere? ts = some (n, rest)) :
    terminal.Reads ts n rest := by
  cases ts with
  | nil => cases h
  | cons t ts =>
    have hstring : ∀ {o : Option Node}, o.map (·, ts) = some (n, rest) → o = some n ∧ ts = rest := by
      intro o h
      obtain ⟨m, hm, hn⟩ := Option.map_eq_some_iff.mp h
      cases hn
      exact ⟨hm, rfl⟩
    cases terminal with
    | keyword w =>
      obtain ⟨ht, hn⟩ := Option.ite_none_right_eq_some.mp h
      cases hn
      exact .keyword ht
    | symbol s =>
      obtain ⟨ht, hn⟩ := Option.ite_none_right_eq_some.mp h
      cases hn
      exact .symbol ht
    | joined ss =>
      cases ss with
      | nil => cases h
      | cons s ss =>
        obtain ⟨ht, h⟩ := Option.ite_none_right_eq_some.mp h
        obtain ⟨⟨text, rest'⟩, htext, hn⟩ := Option.map_eq_some_iff.mp h
        cases hn
        exact .joined ht htext
    | identifier k =>
      obtain ⟨ht, hn⟩ := Option.ite_none_right_eq_some.mp h
      rw [Bool.and_eq_true, beq_iff_eq] at ht
      cases hn
      exact .identifier ht.1 ht.2
    | wordNode w k =>
      obtain ⟨ht, hn⟩ := Option.ite_none_right_eq_some.mp h
      cases hn
      exact .wordNode ht
    | symbolNode s k =>
      obtain ⟨ht, hn⟩ := Option.ite_none_right_eq_some.mp h
      cases hn
      exact .symbolNode ht
    | literal =>
      simp only [readHere?] at h
      split at h
      · next k hk =>
        cases h
        exact .literal hk
      · next hk =>
        obtain ⟨hn, rfl⟩ := hstring h
        exact .string (.inl rfl) hk hn
      · next hk =>
        obtain ⟨hn, rfl⟩ := hstring h
        exact .textBlock (.inl rfl) hk hn
      · cases h
    | string =>
      simp only [readHere?] at h
      split at h
      · next hk =>
        obtain ⟨hn, rfl⟩ := hstring h
        exact .string (.inr rfl) hk hn
      · next hk =>
        obtain ⟨hn, rfl⟩ := hstring h
        exact .textBlock (.inr rfl) hk hn
      · cases h

/-- **A terminal reads a node in just these ways.** -/
theorem readHere?_eq_some_iff :
    terminal.readHere? ts = some (n, rest) ↔ terminal.Reads ts n rest := by
  refine ⟨reads_of_readHere?, fun h => ?_⟩
  cases h with
  | keyword h => exact if_pos h
  | symbol h => exact if_pos h
  | joined h htext => simp [readHere?, h, htext]
  | identifier h htext => simp [readHere?, h, htext]
  | wordNode h => exact if_pos h
  | symbolNode h => exact if_pos h
  | literal h => simp [readHere?, h]
  | string hterminal h hn =>
    rcases hterminal with rfl | rfl <;> simp [readHere?, h, hn]
  | textBlock hterminal h hn =>
    rcases hterminal with rfl | rfl <;> simp [readHere?, h, hn]

/-- Comments become leaves. -/
theorem exists_of_mem_comments (h : n ∈ (comments ts).1) :
    ∃ t ∈ ts, ∃ k, t.lexeme = .comment k ∧ n = t.leaf (some k) := by
  induction ts with
  | nil => cases h
  | cons t ts ih =>
    unfold comments at h
    split at h
    · next k hk =>
      rcases List.mem_cons.mp h with rfl | h
      · exact ⟨t, List.mem_cons_self, k, hk, rfl⟩
      · obtain ⟨t', ht', hn⟩ := ih h
        exact ⟨t', List.mem_cons_of_mem t ht', hn⟩
    · cases h

/-- What a terminal reads: comments, and then the node of its token. -/
theorem exists_of_read? (h : terminal.read? ts = some (ns, rest)) :
    ∃ n, ns = (comments ts).1 ++ [n] ∧ terminal.Reads (comments ts).2 n rest := by
  obtain ⟨⟨n, rest'⟩, hn, hns⟩ := Option.map_eq_some_iff.mp h
  cases hns
  exact ⟨n, rfl, readHere?_eq_some_iff.mp hn⟩

/-! ### The tokens that are left -/

theorem suffix_of_touching? {texts : List String} {text : List Char}
    (h : touching? texts ts = some (text, rest)) : rest <:+ ts := by
  induction texts generalizing ts text with
  | nil =>
    cases h
    exact List.suffix_refl _
  | cons s ss ih =>
    cases ts with
    | nil => cases h
    | cons t ts =>
      rw [touching?] at h
      split at h
      · obtain ⟨⟨text, rest⟩, htouching, h⟩ := Option.map_eq_some_iff.mp h
        cases h
        exact (ih htouching).trans (List.suffix_cons t ts)
      · cases h

/-- All terminals but the joined ones take one token. -/
theorem Reads.suffix (h : terminal.Reads ts n rest) : rest <:+ ts := by
  cases h with
  | joined _ htext => exact (suffix_of_touching? htext).trans (List.suffix_cons _ _)
  | _ => exact List.suffix_cons _ _

theorem suffix_comments (ts : List Token) : (comments ts).2 <:+ ts := by
  induction ts with
  | nil => exact List.suffix_refl []
  | cons t ts ih =>
    unfold comments
    split
    · exact ih.trans (List.suffix_cons t ts)
    · exact List.suffix_refl _

theorem suffix_of_read? (h : terminal.read? ts = some (ns, rest)) : rest <:+ ts := by
  obtain ⟨n, -, hn⟩ := exists_of_read? h
  exact hn.suffix.trans (suffix_comments ts)

end Terminal

namespace Rule

variable {α : Type} {grammar : α → Rule α}

/-- A rule reads tokens from the front. -/
theorem suffix_of_run? {depth : Nat} {rule : Rule α} {held ns : List Node} {ts rest : List Token}
    (h : run? grammar depth rule held ts = some (ns, rest)) : rest <:+ ts := by
  -- each construct runs its parts one level deeper, and so do names and repetitions
  induction depth generalizing rule held ns ts rest with
  | zero => cases h
  | succ depth ih =>
    cases rule with
    | done =>
      cases h
      exact List.suffix_refl ts
    | token t => exact Terminal.suffix_of_read? h
    | ref s => exact ih h
    | seq a b =>
      rw [run?] at h
      split at h
      · cases h
      · next hx =>
        split at h
        · cases h
        · next hy =>
          cases h
          exact (ih hy).trans (ih hx)
    | alt a b =>
      rw [run?] at h
      split at h
      · next hx =>
        rw [h] at hx
        exact ih hx
      · exact ih h
    | many a =>
      rw [run?] at h
      split at h
      · cases h
        exact List.suffix_refl ts
      · next hx =>
        split at h
        · cases h
        · next hy =>
          cases h
          exact (ih hy).trans (ih hx)
    | label r a =>
      obtain ⟨⟨x, _⟩, hx, h⟩ := Option.map_eq_some_iff.mp h
      cases h
      exact ih hx
    | node k a =>
      obtain ⟨⟨x, _⟩, hx, h⟩ := Option.map_eq_some_iff.mp h
      cases h
      exact ih hx
    | after a b =>
      rw [run?] at h
      split at h
      · cases h
      · next hx => exact (ih h).trans (ih hx)
    | growing a =>
      rw [run?] at h
      split at h
      · cases h
        exact List.suffix_refl ts
      · next hx => exact (ih h).trans (ih hx)
    | given ks a =>
      rw [run?] at h
      split at h
      · exact ih h
      · cases h
    | onto k r a =>
      obtain ⟨⟨x, _⟩, hx, h⟩ := Option.map_eq_some_iff.mp h
      cases h
      exact ih hx

/-- The tokens that a rule leaves are as fit as those before it. -/
theorem forall_of_run? {fit : Token → Prop} {depth : Nat} {rule : Rule α} {held ns : List Node}
    {ts rest : List Token} (hts : ∀ t ∈ ts, fit t)
    (h : run? grammar depth rule held ts = some (ns, rest)) : ∀ t ∈ rest, fit t :=
  fun t ht => hts t ((suffix_of_run? h).subset ht)

/-! ### The triple -/

/-- In descents up to the depth, a rule that starts from held nodes with the property `pre` and
reads fit tokens only reads nodes with the property `post`. -/
def Yields (grammar : α → Rule α) (fit : Token → Prop) (depth : Nat) (pre : List Node → Prop)
    (rule : Rule α) (post : List Node → Prop) : Prop :=
  ∀ d ≤ depth, ∀ held ts ns rest, pre held → (∀ t ∈ ts, fit t) →
    run? grammar d rule held ts = some (ns, rest) → post ns

/-- No nodes are held. -/
def Fresh (held : List Node) : Prop :=
  held = []

/-- The tree that a step puts over held nodes, in a role, and further nodes; comments in front of
the first of them stay outside. -/
def graft (k : Kind) (r : Option Role) (held ns : List Node) : List Node :=
  let inner := match r with
    | some r => inRole r held
    | none => held
  (splitComments inner).1 ++ [Node.branch k ((splitComments inner).2 ++ ns)]

namespace Yields

variable {fit : Token → Prop} {depth : Nat} {pre post mid : List Node → Prop} {a b : Rule α}

theorem imp {pre' post' : List Node → Prop} (h : Yields grammar fit depth pre a post)
    (hpre : ∀ ns, pre' ns → pre ns) (hpost : ∀ ns, post ns → post' ns) :
    Yields grammar fit depth pre' a post' :=
  fun d hd held ts ns rest hheld hts hrun =>
    hpost ns (h d hd held ts ns rest (hpre held hheld) hts hrun)

theorem of_le {depth' : Nat} (h : Yields grammar fit depth pre a post) (hle : depth' ≤ depth) :
    Yields grammar fit depth' pre a post :=
  fun d hd => h d (Nat.le_trans hd hle)

/-- Both properties hold of what is read. -/
theorem and {post' : List Node → Prop} (h : Yields grammar fit depth pre a post)
    (h' : Yields grammar fit depth pre a post') :
    Yields grammar fit depth pre a fun ns => post ns ∧ post' ns :=
  fun d hd held ts ns rest hheld hts hrun =>
    ⟨h d hd held ts ns rest hheld hts hrun, h' d hd held ts ns rest hheld hts hrun⟩

theorem done (h : post []) : Yields grammar fit depth pre done post := by
  intro d hd held ts ns rest hheld hts hrun
  cases d with
  | zero => cases hrun
  | succ d =>
    cases hrun
    exact h

theorem token {terminal : Terminal}
    (h : ∀ ts ns rest, (∀ t ∈ ts, fit t) → terminal.read? ts = some (ns, rest) → post ns) :
    Yields grammar fit depth pre (token terminal) post := by
  intro d hd held ts ns rest hheld hts hrun
  cases d with
  | zero => cases hrun
  | succ d => exact h ts ns rest hts hrun

theorem ref {s : α} (h : Yields grammar fit depth pre (grammar s) post) :
    Yields grammar fit (depth + 1) pre (ref s) post := by
  intro d hd held ts ns rest hheld hts hrun
  cases d with
  | zero => cases hrun
  | succ d => exact h d (Nat.le_of_succ_le_succ hd) held ts ns rest hheld hts hrun

theorem seq {first second : List Node → Prop} (ha : Yields grammar fit depth Fresh a first)
    (hb : Yields grammar fit depth Fresh b second)
    (h : ∀ x y, first x → second y → post (x ++ y)) :
    Yields grammar fit depth pre (seq a b) post := by
  intro d hd held ts ns rest hheld hts hrun
  cases d with
  | zero => cases hrun
  | succ d =>
    have hd := Nat.le_of_succ_le hd
    rw [run?] at hrun
    split at hrun
    · cases hrun
    · next x rest' hx =>
      split at hrun
      · cases hrun
      · next y _ hy =>
        cases hrun
        have hrest := forall_of_run? hts hx
        exact h x y (ha d hd [] ts x rest' rfl hts hx) (hb d hd [] rest' y _ rfl hrest hy)

theorem alt (ha : Yields grammar fit depth pre a post) (hb : Yields grammar fit depth pre b post) :
    Yields grammar fit depth pre (alt a b) post := by
  intro d hd held ts ns rest hheld hts hrun
  cases d with
  | zero => cases hrun
  | succ d =>
    have hd := Nat.le_of_succ_le hd
    rw [run?] at hrun
    split at hrun
    · next hx =>
      rw [hrun] at hx
      exact ha d hd held ts ns rest hheld hts hx
    · exact hb d hd held ts ns rest hheld hts hrun

theorem many {item : List Node → Prop} (ha : Yields grammar fit depth Fresh a item)
    (hnil : post []) (hcons : ∀ x y, item x → post y → post (x ++ y)) :
    Yields grammar fit depth pre (many a) post := by
  intro d hd held ts ns rest hheld hts hrun
  -- a further repetition runs one level deeper, where no nodes are held
  clear hheld
  induction d generalizing held ts ns rest with
  | zero => cases hrun
  | succ d ih =>
    have hd := Nat.le_of_succ_le hd
    rw [run?] at hrun
    split at hrun
    · cases hrun
      exact hnil
    · next x rest' hx =>
      split at hrun
      · cases hrun
      · next y _ hy =>
        cases hrun
        have hrest := forall_of_run? hts hx
        exact hcons x y (ha d hd [] ts x rest' rfl hts hx) (ih hd [] rest' y _ hrest hy)

theorem label {r : Role} {inner : List Node → Prop} (ha : Yields grammar fit depth Fresh a inner)
    (h : ∀ x, inner x → post (inRole r x)) : Yields grammar fit depth pre (label r a) post := by
  intro d hd held ts ns rest hheld hts hrun
  cases d with
  | zero => cases hrun
  | succ d =>
    obtain ⟨⟨x, _⟩, hx, hns⟩ := Option.map_eq_some_iff.mp hrun
    cases hns
    exact h x (ha d (Nat.le_of_succ_le hd) [] ts x _ rfl hts hx)

theorem node {k : Kind} {inner : List Node → Prop} (ha : Yields grammar fit depth Fresh a inner)
    (h : ∀ x, inner x → post (wrap k x)) : Yields grammar fit depth pre (node k a) post := by
  intro d hd held ts ns rest hheld hts hrun
  cases d with
  | zero => cases hrun
  | succ d =>
    obtain ⟨⟨x, _⟩, hx, hns⟩ := Option.map_eq_some_iff.mp hrun
    cases hns
    exact h x (ha d (Nat.le_of_succ_le hd) [] ts x _ rfl hts hx)

theorem after (ha : Yields grammar fit depth Fresh a mid)
    (hb : Yields grammar fit depth mid b post) : Yields grammar fit depth pre (after a b) post := by
  intro d hd held ts ns rest hheld hts hrun
  cases d with
  | zero => cases hrun
  | succ d =>
    have hd := Nat.le_of_succ_le hd
    rw [run?] at hrun
    split at hrun
    · cases hrun
    · next x rest' hx =>
      have hrest := forall_of_run? hts hx
      exact hb d hd x rest' ns rest (ha d hd [] ts x rest' rfl hts hx) hrest hrun

theorem growing (ha : Yields grammar fit depth pre a pre) :
    Yields grammar fit depth pre (growing a) pre := by
  intro d hd held ts ns rest hheld hts hrun
  -- the property of the held nodes is the invariant: what a step reads is held by the next one
  induction d generalizing held ts with
  | zero => cases hrun
  | succ d ih =>
    have hd := Nat.le_of_succ_le hd
    rw [run?] at hrun
    split at hrun
    · cases hrun
      exact hheld
    · next x rest' hx =>
      have hrest := forall_of_run? hts hx
      exact ih hd x rest' (ha d hd held ts x rest' hheld hts hx) hrest hrun

theorem given {ks : List Kind} (ha : Yields grammar fit depth pre a post) :
    Yields grammar fit depth pre (given ks a) post := by
  intro d hd held ts ns rest hheld hts hrun
  cases d with
  | zero => cases hrun
  | succ d =>
    rw [run?] at hrun
    split at hrun
    · exact ha d (Nat.le_of_succ_le hd) held ts ns rest hheld hts hrun
    · cases hrun

theorem onto {k : Kind} {r : Option Role} {inner : List Node → Prop}
    (ha : Yields grammar fit depth Fresh a inner)
    (h : ∀ held x, pre held → inner x → post (graft k r held x)) :
    Yields grammar fit depth pre (onto k r a) post := by
  intro d hd held ts ns rest hheld hts hrun
  cases d with
  | zero => cases hrun
  | succ d =>
    obtain ⟨⟨x, _⟩, hx, hns⟩ := Option.map_eq_some_iff.mp hrun
    cases hns
    exact h held x hheld (ha d (Nat.le_of_succ_le hd) [] ts x _ rfl hts hx)

end Yields

/-- **What the rules of a grammar read**, if the body of each reads it when all named rules do so
less deep. -/
theorem yields_ref {fit : Token → Prop} {pre : List Node → Prop} {post : α → List Node → Prop}
    (h : ∀ depth, (∀ s, Yields grammar fit depth pre (ref s) (post s)) →
      ∀ s, Yields grammar fit depth pre (grammar s) (post s))
    (depth : Nat) (s : α) : Yields grammar fit depth pre (ref s) (post s) := by
  induction depth generalizing s with
  | zero =>
    intro d hd held ts ns rest hheld hts hrun
    rw [Nat.le_zero.mp hd] at hrun
    cases hrun
  | succ depth ih => exact .ref (h depth ih s)

end Rule

end RpcBindings.Source
