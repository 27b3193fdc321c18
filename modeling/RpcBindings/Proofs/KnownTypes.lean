import RpcBindings.Proofs.TypeNode
import RpcBindings.Proofs.TypeSyntax

/-!
# Which types are mapped

A type that is mapped consists of known wrappers around one plain type, and a type that is not
mapped is reported with the place of the node that is not covered.  A dotted type is mapped by its
text, which is cut at the dots.  If it consists of names, dots and blanks, then so all its segments
are names; if type arguments or comments stand in it, then some segment is none, and the type is
mapped all the same.

## Main definitions

* `Source.IsName` — an identifier of the language.
* `Node.IsKnown` — a generic type with a known name and one argument.
* `Node.IsPlain` — a dotted type that consists of names, dots and blanks.
* `TypeExpr.WrapsTo` — a node consists of known wrappers around another one.
* `TypeExpr.IsBare` — a mapped type names only classes that are named by identifiers.

## Main results

* `TypeExpr.ofNode_spec` — a type consists of wrappers around a plain type, or it is reported.
* `Node.exists_names`, `Node.isPlain_of_forall_mem_text` — plain dotted types and their words.
* `TypeExpr.mapped_types_known` — **which types are mapped**, and when their names are identifiers.
-/

namespace RpcBindings

open Text Source

namespace Source

/-! ### Identifiers -/

/-- An identifier of the language. -/
def IsName (w : List Char) : Prop :=
  Token.IsWord w ∧ isIdentifier w = true

/-- No reserved word has a capital. -/
theorem isIdentifier_of_isCapitalized {w : List Char} (h : isCapitalized w = true) :
    isIdentifier w = true := by
  have hlower : ∀ v ∈ reservedWords, isCapitalized v.toList = false := by decide
  rw [isIdentifier, Bool.not_eq_true', List.any_eq_false]
  intro v hv heq
  rw [beq_iff_eq] at heq
  have hv := hlower v hv
  rw [heq, h] at hv
  cases hv

/-- A prefix goes only in front of a capital. -/
theorem unprefixed_cases (pre name : String) : unprefixed pre name = name ∨
    ∃ rest, name.toList = pre.toList ++ rest ∧ isCapitalized rest = true ∧
      unprefixed pre name = String.ofList rest := by
  simp only [unprefixed]
  split
  · next h =>
    simp only [Bool.and_eq_true, List.isPrefixOf_iff_prefix] at h
    obtain ⟨⟨-, rest, hrest⟩, hcapital⟩ := h
    have hdrop : name.toList.drop pre.length = rest := by
      rw [← hrest, ← String.length_toList, List.drop_left]
    rw [hdrop] at hcapital ⊢
    exact .inr ⟨rest, hrest.symm, hcapital, rfl⟩
  · exact .inl rfl

/-- A word with a capital stays an identifier when the prefix of its domain goes. -/
theorem isName_unprefixed {pre name : String} (hword : Token.IsWord name.toList)
    (hcapital : isCapitalized name.toList = true) : IsName (unprefixed pre name).toList := by
  obtain h | ⟨rest, hname, hrest, h⟩ := unprefixed_cases pre name
  · rw [h]
    exact ⟨hword, isIdentifier_of_isCapitalized hcapital⟩
  · rw [h, String.toList_ofList]
    refine ⟨?_, isIdentifier_of_isCapitalized hrest⟩
    have hcontinues : ∀ c ∈ rest, Token.continuesWord c = true := fun c hc =>
      hword.continuesWord c (hname ▸ List.mem_append_right _ hc)
    cases rest with
    | nil => cases hrest
    | cons c cs =>
      obtain ⟨hc, hcs⟩ := List.forall_mem_cons.mp hcontinues
      exact ⟨Token.startsWord_of_isCapital hrest hc, hcs⟩

/-- If the prefix consists of characters of words, then so does what is a name without it. -/
theorem continuesWord_of_unprefixed {pre name : String}
    (hpre : ∀ c ∈ pre.toList, Token.continuesWord c = true)
    (h : IsName (unprefixed pre name).toList) :
    ∀ c ∈ name.toList, Token.continuesWord c = true := by
  have hall := h.1.continuesWord
  obtain heq | ⟨rest, hname, -, heq⟩ := unprefixed_cases pre name
  · rwa [heq] at hall
  · rw [heq, String.toList_ofList] at hall
    rw [hname]
    exact List.forall_mem_append.mpr ⟨hpre, hall⟩

namespace Node

/-! ### Plain dotted types -/

/-- A generic type with a known name and one argument. -/
def IsKnown (n : Node) : Prop :=
  ∃ name argument, n.IsGeneric name argument ∧ name.word ∈ TypeExpr.wrapperNames

/-- The dotted type consists of names, dots and blanks. -/
def IsPlain (n : Node) : Prop :=
  ∀ m ∈ preorders n.children, (m.kind? = none ∨ m.kind? = some .typeIdentifier ∨
    m.kind? = some .scopedTypeIdentifier) ∧ ∀ c ∈ m.gap, isBlank c = true

/-- All generic types in the tree are known ones with one argument. -/
def WrappersKnown (n : Node) : Prop :=
  ∀ m ∈ n.preorder, m.kind? = some .genericType → m.IsKnown

/-- All dotted types in the tree consist of names, dots and blanks. -/
def DottedPlain (n : Node) : Prop :=
  ∀ m ∈ n.preorder, m.kind? = some .scopedTypeIdentifier → m.IsPlain

-- The gap is searched by name: characters are a finite type, and a search through all of them
-- would decide the same.
instance (n : Node) : Decidable n.IsPlain :=
  haveI (m : Node) : Decidable (∀ c ∈ m.gap, isBlank c = true) := List.decidableBAll _ _
  inferInstanceAs (Decidable (∀ m ∈ preorders n.children, (m.kind? = none ∨
    m.kind? = some .typeIdentifier ∨ m.kind? = some .scopedTypeIdentifier) ∧
      ∀ c ∈ m.gap, isBlank c = true))

instance (n : Node) : Decidable n.DottedPlain :=
  inferInstanceAs (Decidable (∀ m ∈ n.preorder, m.kind? = some .scopedTypeIdentifier → m.IsPlain))

theorem mem_preorders_of_mem {c m : Node} {ns : List Node} (hc : c ∈ ns) (hm : m ∈ c.preorder) :
    m ∈ preorders ns := by
  rw [preorders_eq_flatMap]
  exact List.mem_flatMap.mpr ⟨c, hc, hm⟩

/-- A dotted type without comments, annotations and type arguments. -/
theorem IsDotted.exists_of_unsigned {cs : List Node} (h : IsDotted cs)
    (hcs : ∀ c ∈ cs, ∀ k, c.kind? = some k → k.sign? = none) :
    ∃ q dot name, cs = [q, dot, name] ∧
      (q.kind? = some .typeIdentifier ∨ q.kind? = some .scopedTypeIdentifier) ∧
        dot.kind? = none ∧ dot.text = ['.'] ∧ name.kind? = some .typeIdentifier := by
  cases h with
  | @parts q dot name before between hq hbefore hdot htext hbetween hname =>
    -- comments and annotations have a sign
    have haside : ∀ c ∈ q :: (before ++ dot :: (between ++ [name])), ¬c.IsAside := by
      rintro c hc ⟨k, hk, hsign⟩
      rw [hcs c hc k hk] at hsign
      simp at hsign
    have hnone : before = [] := by
      cases before with
      | nil => rfl
      | cons c cs =>
        have hc : c.IsAside := isAside_of_isComment (hbefore c List.mem_cons_self)
        exact absurd hc (haside c (by simp))
    have hnone' : between = [] := by
      cases between with
      | nil => rfl
      | cons c cs => exact absurd (hbetween c List.mem_cons_self) (haside c (by simp))
    subst hnone hnone'
    refine ⟨q, dot, name, rfl, ?_, hdot, htext, hname⟩
    rcases hq with hq | hq | hq
    · exact .inl hq
    · have hsign := hcs q List.mem_cons_self _ hq
      cases hsign
    · exact .inr hq

theorem IsPlain.of_mem {m n : Node} (h : n.IsPlain) (hm : m ∈ n.preorder) : m.IsPlain := by
  rcases mem_preorder.mp hm with rfl | ⟨c, hc, hm⟩
  · exact h
  · intro l hl
    have hlm : l ∈ m.preorder := by
      rw [preorder_eq]
      exact List.mem_cons_of_mem m hl
    exact h l (mem_preorders_of_mem hc (mem_preorder_trans hlm c hm))

/-- No generic type stands in a plain dotted type. -/
theorem IsPlain.kind?_ne {m n : Node} (h : n.IsPlain) (hm : m ∈ n.preorder)
    (hkind : n.kind? = some .scopedTypeIdentifier) : m.kind? ≠ some .genericType := by
  intro hm'
  rcases mem_preorder.mp hm with rfl | ⟨c, hc, hm⟩
  · rw [hkind] at hm'
    cases hm'
  · have hkinds := (h m (mem_preorders_of_mem hc hm)).1
    simp [hm'] at hkinds

/-- A plain dotted type has words. -/
theorem exists_names (n : Node) (hn : n.Everywhere Conforms)
    (hkind : n.kind? = some .scopedTypeIdentifier) (hplain : n.IsPlain) : ∃ ws, n.Names ws := by
  have hself : ∀ c ∈ n.children, c ∈ preorders n.children :=
    fun c hc => mem_preorders_of_mem hc c.mem_preorder_self
  have hunsigned : ∀ c ∈ n.children, ∀ k, c.kind? = some k → k.sign? = none := by
    intro c hc k hk
    have hkinds := (hplain c (hself c hc)).1
    rw [hk] at hkinds
    simp only [reduceCtorEq, Option.some.injEq, false_or] at hkinds
    rcases hkinds with rfl | rfl
    · rfl
    · rfl
  obtain ⟨q, dot, name, hchildren, hq, hdot, htext, hname⟩ :=
    ((hn n n.mem_preorder_self).dotted hkind).exists_of_unsigned hunsigned
  have hmem : ∀ c ∈ [q, dot, name], c ∈ n.children := fun c hc => hchildren ▸ hc
  have hword : ∀ c ∈ n.children, c.kind? = some .typeIdentifier → Token.IsWord c.text :=
    fun c hc hk => ((hn c (mem_preorder_of_mem_children hc)).word _ hk rfl).1
  have hgaps : ∀ c ∈ [q, dot, name], ∀ b ∈ c.gap, isBlank b = true :=
    fun c hc => (hplain c (hself c (hmem c hc))).2
  have hqmem : q ∈ n.children := hmem q (by simp)
  have hwords : ∃ ws, q.Names ws := by
    rcases hq with hq | hq
    · exact ⟨_, .simple hq (hword q hqmem hq)⟩
    · exact exists_names q (hn.of_mem (mem_preorder_of_mem_children hqmem)) hq
        (hplain.of_mem (mem_preorder_of_mem_children hqmem))
  obtain ⟨ws, hws⟩ := hwords
  exact ⟨_, .dotted hkind hchildren hgaps hws htext hname (hword name (hmem name (by simp)) hname)⟩
termination_by sizeOf n
decreasing_by exact sizeOf_lt_of_mem_children hqmem

/-- The characters of plain dotted types. -/
def IsPlainChar (c : Char) : Prop :=
  c = '.' ∨ isBlank c = true ∨ Token.continuesWord c = true

theorem not_isPlainChar_of_sign {k : Kind} {c : Char} (h : k.sign? = some c) :
    ¬IsPlainChar c := by
  unfold IsPlainChar
  rcases Kind.sign?_cases h with rfl | rfl | rfl
  all_goals decide

/-- The only plain characters of gaps are blanks. -/
theorem isBlank_of_isPlainChar {c : Char} (hc : IsPlainChar c)
    (hgap : Token.isGap c = true ∨ c = Token.byteOrderMark) : isBlank c = true := by
  rcases hgap with hgap | rfl
  · rw [Token.isGap, Bool.or_eq_true] at hgap
    rw [isBlank]
    rcases hgap with hgap | hgap
    · simp [hgap]
    · simp [hgap]
  · have hnot : ¬IsPlainChar Token.byteOrderMark := by
      unfold IsPlainChar
      decide +kernel
    exact absurd hc hnot

theorem preorder_eq_singleton {n : Node} (h : n.children = []) : n.preorder = [n] := by
  rw [preorder_eq, h, preorders]

/-- A dotted type is plain if all its characters are. -/
theorem isPlain_of_forall_mem_text (n : Node) (hn : n.Everywhere Conforms)
    (hkind : n.kind? = some .scopedTypeIdentifier) (hchars : ∀ c ∈ n.text, IsPlainChar c) :
    n.IsPlain := by
  have hconforms : ∀ c ∈ n.children, c.Conforms :=
    fun c hc => hn c (mem_preorder_of_mem_children hc)
  have hunsigned : ∀ c ∈ n.children, ∀ k, c.kind? = some k → k.sign? = none := by
    intro c hc k hk
    cases hsign : k.sign? with
    | none => rfl
    | some d =>
      have hd := (hconforms c hc).sign k d hk hsign
      exact absurd (hchars d (mem_text_of_mem_children hc hd)) (not_isPlainChar_of_sign hsign)
  have hgap : ∀ c ∈ n.children, ∀ b ∈ c.gap, isBlank b = true := fun c hc b hb =>
    isBlank_of_isPlainChar (hchars b (mem_text_of_mem_gap hc hb)) ((hconforms c hc).gap b hb)
  have hleaf : ∀ c ∈ n.children, c.kind? = some .typeIdentifier → c.children = [] :=
    fun c hc hk => ((hconforms c hc).word _ hk rfl).2
  obtain ⟨q, dot, name, hchildren, hq, hdot, -, hname⟩ :=
    ((hn n n.mem_preorder_self).dotted hkind).exists_of_unsigned hunsigned
  have hqmem : q ∈ n.children := by simp [hchildren]
  have hdotmem : dot ∈ n.children := by simp [hchildren]
  have hnamemem : name ∈ n.children := by simp [hchildren]
  have hbelow : ∀ m ∈ preorders q.children, (m.kind? = none ∨ m.kind? = some .typeIdentifier ∨
      m.kind? = some .scopedTypeIdentifier) ∧ ∀ c ∈ m.gap, isBlank c = true := by
    rcases hq with hq | hq
    · rw [hleaf q hqmem hq, preorders]
      simp
    · exact isPlain_of_forall_mem_text q (hn.of_mem (mem_preorder_of_mem_children hqmem)) hq
        fun c hc => hchars c (mem_text_of_mem_children hqmem hc)
  have hdotleaf : dot.children = [] := by
    cases dot with
    | leaf => rfl
    | tree => cases hdot
  intro m hm
  rw [hchildren, preorders, preorders, preorders, preorders, List.append_nil,
    preorder_eq_singleton hdotleaf, preorder_eq_singleton (hleaf name hnamemem hname)] at hm
  simp only [preorder_eq q, List.cons_append, List.nil_append, List.mem_cons, List.mem_append,
    List.not_mem_nil, or_false] at hm
  rcases hm with rfl | hm | rfl | rfl
  · exact ⟨.inr hq, hgap m hqmem⟩
  · exact hbelow m hm
  · exact ⟨.inl hdot, hgap m hdotmem⟩
  · exact ⟨.inr (.inl hname), hgap m hnamemem⟩
termination_by sizeOf n
decreasing_by exact sizeOf_lt_of_mem_children hqmem

end Node

end Source

namespace TypeExpr

variable {pre path : String}

/-! ### Wrappers around a plain type -/

/-- The node consists of known wrappers around the other one, which is no generic type. -/
inductive WrapsTo : Node → Node → Prop
  | plain {n} (hkind : n.kind? ≠ some .genericType) : WrapsTo n n
  | wrapper {n name argument inner} (hn : n.IsGeneric name argument)
    (hname : name.word ∈ wrapperNames) (hargument : WrapsTo argument inner) : WrapsTo n inner

theorem references_orNone (t : TypeExpr) : t.orNone.references = t.references := by
  cases t <;> rfl

theorem references_apply (w : Wrapper) (t : TypeExpr) : (w.apply t).references = t.references := by
  cases w <;> rfl

theorem mem_preorder_of_isGeneric {n name argument : Node} (h : n.IsGeneric name argument) :
    argument ∈ n.preorder := by
  obtain ⟨-, arguments, hmembers, -, hargument⟩ := h
  have harguments : arguments ∈ n.members := by simp [hmembers]
  have hmem : argument ∈ arguments.members := by simp [hargument]
  exact Node.mem_preorder_trans (Node.mem_preorder_of_mem_members hmem) n
    (Node.mem_preorder_of_mem_members harguments)

theorem sizeOf_lt_of_isGeneric {n name argument : Node} (h : n.IsGeneric name argument) :
    sizeOf argument < sizeOf n := by
  obtain ⟨-, arguments, hmembers, -, hargument⟩ := h
  have harguments : arguments ∈ n.members := by simp [hmembers]
  have hmem : argument ∈ arguments.members := by simp [hargument]
  exact Nat.lt_trans (Node.sizeOf_lt_of_mem_children (List.mem_filter.mp hmem).1)
    (Node.sizeOf_lt_of_mem_children (List.mem_filter.mp harguments).1)

theorem notMem_text_of_word {n : Node} (h : n.word ∈ wrapperNames) :
    '<' ∉ n.text ∧ '.' ∉ n.text := by
  have hnames : ∀ v ∈ wrapperNames, '<' ∉ v.toList ∧ '.' ∉ v.toList := by decide
  have htext := hnames n.word h
  rwa [Node.word, String.toList_ofList] at htext

/-- **A type consists of known wrappers around a plain type that is mapped**, or it is reported with
the place of a node in it. -/
theorem ofNode_spec (pre path : String) (n : Node) (hn : n.Everywhere Node.Conforms) :
    (∃ inner s t, WrapsTo n inner ∧ ofPlain pre inner = .ok s ∧ ofNode pre path n = .ok t ∧
      t.references = s.references) ∨
    ∃ m ∈ n.preorder, ∃ p, ofNode pre path n = .error (.atNode path m p) := by
  by_cases hkind : n.kind? = some .genericType
  · cases hw : wrapperOf n with
    | error p =>
      obtain ⟨q, hq⟩ := exists_of_wrapperOf_eq_error hkind hw
      exact .inr ⟨n, n.mem_preorder_self, q, hq⟩
    | ok w =>
      obtain ⟨name, argument, hgeneric, hname⟩ := exists_of_wrapperOf hkind hw
      have hword := word_mem_of_wrapper? hname
      have hmem := mem_preorder_of_isGeneric hgeneric
      -- type arguments show a bracket, and no known name has one
      have hnot : name.kind? ≠ some .typeArguments := by
        intro hk
        obtain ⟨-, arguments, hmembers, -⟩ := hgeneric
        have hnamemem : name ∈ n.members := by simp [hmembers]
        have hsign := (hn name (Node.mem_preorder_of_mem_members hnamemem)).sign _ '<' hk rfl
        exact (notMem_text_of_word hword).1 hsign
      rw [ofNode_generic hgeneric hnot hname]
      obtain ⟨inner, s, t, hwraps, hs, ht, hreferences⟩ | ⟨m, hm, p, he⟩ :=
        ofNode_spec pre path argument (hn.of_mem hmem)
      · refine .inl ⟨inner, s, w.apply t, .wrapper hgeneric hword hwraps, hs, ?_, ?_⟩
        · rw [ht]
          rfl
        · rw [references_apply, hreferences]
      · refine .inr ⟨m, Node.mem_preorder_trans hm _ hmem, p, ?_⟩
        rw [he]
        rfl
  · rw [ofNode_of_ne hkind]
    cases hplain : ofPlain pre n with
    | ok s => exact .inl ⟨n, s, s, .plain hkind, hplain, rfl, rfl⟩
    | error p => exact .inr ⟨n, n.mem_preorder_self, p, rfl⟩
termination_by sizeOf n
decreasing_by exact sizeOf_lt_of_isGeneric hgeneric

theorem WrapsTo.mem_preorder {n inner : Node} (h : WrapsTo n inner) : inner ∈ n.preorder := by
  induction h with
  | plain => exact Node.mem_preorder_self _
  | wrapper hn _ _ ih => exact Node.mem_preorder_trans ih _ (mem_preorder_of_isGeneric hn)

/-- The text of a generic or dotted type shows it. -/
theorem mem_text_of_kind {m : Node} (hm : m.Conforms)
    (hkind : m.kind? = some .genericType ∨ m.kind? = some .scopedTypeIdentifier) :
    '<' ∈ m.text ∨ '.' ∈ m.text := by
  rcases hkind with hkind | hkind
  · exact .inl (hm.sign _ '<' hkind rfl)
  · have hdotted := hm.dotted hkind
    generalize hcs : m.children = cs at hdotted
    cases hdotted with
    | @parts q dot name before between hq hbefore hdot htext hbetween hname =>
      have hmem : dot ∈ m.children := by simp [hcs]
      exact .inr (Node.mem_text_of_mem_children hmem (by simp [htext]))

/-- A generic or dotted type is one of the wrappers, or belongs to the type that they wrap. -/
theorem WrapsTo.isKnown_or_mem {n inner m : Node} (h : WrapsTo n inner)
    (hn : n.Everywhere Node.Conforms) (hleaves : n.CommentsAreLeaves) (hm : m ∈ n.preorder)
    (hkind : m.kind? = some .genericType ∨ m.kind? = some .scopedTypeIdentifier) :
    m.IsKnown ∨ m ∈ inner.preorder := by
  induction h with
  | plain => exact .inr hm
  | @wrapper n name argument inner hgeneric hname _ ih =>
    -- what is no member is a leaf, and neither a generic nor a dotted type
    have hmember : ∀ {n c : Node}, n.CommentsAreLeaves → c ∈ n.children → m ∈ c.preorder →
        c ∈ n.members := by
      intro n c hleaves hc hm
      by_contra hnot
      obtain ⟨hself, hcases⟩ := Node.preorder_of_notMem_members hleaves hc hnot
      rw [hself, List.mem_singleton] at hm
      subst hm
      rcases hcases with hnone | hcomment
      · simp [hnone] at hkind
      · rcases hkind with hkind | hkind
        all_goals
          rw [Node.isComment, hkind] at hcomment
          cases hcomment
    obtain ⟨hk, arguments, hmembers, harguments, hargument⟩ := id hgeneric
    have hargumentsmem : arguments ∈ n.preorder :=
      Node.mem_preorder_of_mem_members (by simp [hmembers])
    rcases Node.mem_preorder.mp hm with rfl | ⟨c, hc, hmc⟩
    · exact .inl ⟨name, argument, hgeneric, hname⟩
    · have hcm := hmember hleaves hc hmc
      simp only [hmembers, List.mem_cons, List.not_mem_nil, or_false] at hcm
      -- the name of a wrapper holds no type that shows itself; the argument is left to induction
      rcases hcm with rfl | rfl
      · obtain ⟨hnot, hnot'⟩ := notMem_text_of_word hname
        rcases mem_text_of_kind (hn m hm) hkind with h | h
        · exact absurd (Node.mem_text_of_mem_preorder h c hmc) hnot
        · exact absurd (Node.mem_text_of_mem_preorder h c hmc) hnot'
      · rcases Node.mem_preorder.mp hmc with rfl | ⟨d, hd, hmd⟩
        · simp [harguments] at hkind
        · have hdm := hmember (hleaves.of_mem hargumentsmem) hd hmd
          rw [hargument, List.mem_singleton] at hdm
          subst hdm
          have hmem := mem_preorder_of_isGeneric hgeneric
          exact ih (hn.of_mem hmem) (hleaves.of_mem hmem) hmd

/-! ### Plain types -/

/-- All segments of the classes in the type are identifiers. -/
def IsBare (t : TypeExpr) : Prop :=
  ∀ p ∈ t.references, ∀ s ∈ p, IsName s.toList

theorem references_of_builtin? {name : String} {t : TypeExpr} (h : builtin? name = some t) :
    t.references = [] := by
  unfold builtin? at h
  split at h
  case h_12 => cases h
  all_goals
    cases h
    rfl

theorem isBare_of_ofName? {name : String} {t : TypeExpr} (hword : Token.IsWord name.toList)
    (h : ofName? pre name = some t) : t.IsBare := by
  unfold ofName? at h
  split at h
  · next hcapital =>
    cases h
    rw [IsBare, references_orNone]
    cases hbuiltin : builtin? name with
    | some t => simp [references_of_builtin? hbuiltin]
    | none =>
      simp only [Option.getD_none, references, List.forall_mem_singleton]
      exact isName_unprefixed hword hcapital
  · simp [IsBare, references_of_builtin? h]

theorem isBare_of_names {n : Node} {ws : List (List Char)} {t : TypeExpr} (hn : n.Names ws)
    (h : ofPath? pre n.text = some t) : t.IsBare := by
  rw [ofPath?_of_names pre hn] at h
  split at h
  · next hcapital =>
    cases h
    simp only [IsBare, references, List.forall_mem_singleton, List.forall_mem_map]
    intro w hw
    refine isName_unprefixed ?_ ?_
    · rw [String.toList_ofList]
      exact hn.isWord w hw
    · rw [String.toList_ofList]
      exact List.all_eq_true.mp hcapital w hw
  · cases h

/-- A mapped type that is not dotted is a word or an array of bytes. -/
theorem ofPlain_cases {inner : Node} {s : TypeExpr} (h : ofPlain pre inner = .ok s) :
    inner.kind? = some .arrayType ∧ compact inner.text = ['b', 'y', 't', 'e', '[', ']'] ∧
      s = bytes ∨
    (∃ k, inner.kind? = some k ∧ k.isWord = true) ∧ ofName? pre inner.word = some s ∨
    inner.kind? = some .scopedTypeIdentifier ∧ ofPath? pre inner.text = some s := by
  unfold ofPlain at h
  split at h
  case h_1 hkind =>
    split at h
    · next htext =>
      cases h
      exact .inl ⟨hkind, beq_iff_eq.mp htext, rfl⟩
    · cases h
  case h_6 hkind =>
    split at h
    · next hs =>
      cases h
      exact .inr (.inr ⟨hkind, hs⟩)
    · cases h
  case h_7 => cases h
  all_goals
    next hkind =>
    split at h
    · next hs =>
      cases h
      exact .inr (.inl ⟨⟨_, hkind, rfl⟩, hs⟩)
    · cases h

/-- A plain type is dotted if it holds a generic or a dotted type. -/
theorem kind?_of_ofPlain {inner m : Node} {s : TypeExpr} (h : ofPlain pre inner = .ok s)
    (hinner : inner.Everywhere Node.Conforms) (hm : m ∈ inner.preorder)
    (hkind : m.kind? = some .genericType ∨ m.kind? = some .scopedTypeIdentifier) :
    inner.kind? = some .scopedTypeIdentifier := by
  have htext : '<' ∈ inner.text ∨ '.' ∈ inner.text := by
    refine (mem_text_of_kind (hinner m hm) hkind).imp (fun h => ?_) fun h => ?_
    · exact Node.mem_text_of_mem_preorder h inner hm
    · exact Node.mem_text_of_mem_preorder h inner hm
  -- neither an array of bytes nor a word shows such a type
  obtain ⟨-, hcompact, -⟩ | ⟨⟨k, hk, hword⟩, -⟩ | ⟨hscoped, -⟩ := ofPlain_cases h
  · have hmem : ∀ c ∈ inner.text, isBlank c = false → c ∈ compact inner.text :=
      fun c hc hblank => List.mem_filter.mpr ⟨hc, by simp [hblank]⟩
    rw [hcompact] at hmem
    rcases htext with htext | htext
    · exact absurd (hmem _ htext (by decide)) (by decide)
    · exact absurd (hmem _ htext (by decide)) (by decide)
  · have hcontinues := ((hinner inner inner.mem_preorder_self).word k hk hword).1.continuesWord
    rcases htext with htext | htext
    · exact absurd (hcontinues _ htext) (by decide)
    · exact absurd (hcontinues _ htext) (by decide)
  · exact hscoped

theorem ofPath?_of_ofPlain {inner : Node} {s : TypeExpr} (h : ofPlain pre inner = .ok s)
    (hkind : inner.kind? = some .scopedTypeIdentifier) : ofPath? pre inner.text = some s := by
  obtain ⟨hk, -⟩ | ⟨⟨k, hk, hword⟩, -⟩ | ⟨-, hs⟩ := ofPlain_cases h
  · rw [hkind] at hk
    cases hk
  · rw [hkind] at hk
    cases hk
    cases hword
  · exact hs

theorem isBare_of_ofPlain {inner : Node} {s : TypeExpr} (h : ofPlain pre inner = .ok s)
    (hinner : inner.Everywhere Node.Conforms)
    (hplain : inner.kind? = some .scopedTypeIdentifier → inner.IsPlain) : s.IsBare := by
  obtain ⟨-, -, rfl⟩ | ⟨⟨k, hk, hword⟩, hs⟩ | ⟨hscoped, hs⟩ := ofPlain_cases h
  · simp [IsBare, references]
  · refine isBare_of_ofName? ?_ hs
    rw [Node.word, String.toList_ofList]
    exact ((hinner inner inner.mem_preorder_self).word k hk hword).1
  · obtain ⟨ws, hws⟩ := Node.exists_names inner hinner hscoped (hplain hscoped)
    exact isBare_of_names hws hs

/-- If the segments of a dotted type are names without a prefix of characters of words, then it
consists of plain characters. -/
theorem isPlainChar_of_isBare {text : List Char} {s : TypeExpr} (h : ofPath? pre text = some s)
    (hpre : ∀ c ∈ pre.toList, Token.continuesWord c = true) (hbare : s.IsBare) :
    ∀ c ∈ text, Node.IsPlainChar c := by
  simp only [ofPath?] at h
  split at h
  · cases h
    simp only [IsBare, references_orNone, references, List.forall_mem_singleton,
      List.forall_mem_map] at hbare
    intro c hc
    obtain rfl | ⟨s, hs, hc⟩ := exists_mem_splitOn '.' hc
    · exact .inl rfl
    · obtain hc | hc := mem_trim hc
      · exact .inr (.inl hc)
      · refine .inr (.inr (continuesWord_of_unprefixed hpre (hbare s hs) c ?_))
        rwa [String.toList_ofList]
  · cases h

/-- **Which types are mapped.**  A type in a file that is not mapped is reported with the place of a
node in it.  A type that is mapped names only classes that are named by identifiers, and holds no
generic types but the known ones with one argument, if the dotted types in it consist of names, dots
and blanks; and if the prefix consists of characters of words, then only if they do. -/
theorem mapped_types_known {file : File} {source text : String} {n : Node}
    (hfile : File.ofText? source text = some file) (hn : n ∈ file.root.preorder)
    (pre path : String) :
    (∀ e, ofNode pre path n = .error e → ∃ m ∈ n.preorder, ∃ p, e = .atNode path m p) ∧
    ∀ t, ofNode pre path n = .ok t →
      (n.DottedPlain → t.IsBare ∧ n.WrappersKnown) ∧
      ((∀ c ∈ pre.toList, Token.continuesWord c = true) →
        t.IsBare ∧ n.WrappersKnown → n.DottedPlain) := by
  have hconforms : n.Everywhere Node.Conforms := (File.conforms hfile).of_mem hn
  have hleaves : n.CommentsAreLeaves := (File.commentsAreLeaves hfile).of_mem hn
  obtain ⟨inner, s, t, hwraps, hs, ht, hreferences⟩ | ⟨m, hm, p, he⟩ :=
    ofNode_spec pre path n hconforms
  · have hmem := hwraps.mem_preorder
    have hinner := hconforms.of_mem hmem
    have hbare : t.IsBare ↔ s.IsBare := by rw [IsBare, IsBare, hreferences]
    rw [ht]
    refine ⟨by simp, ?_⟩
    rintro _ ⟨⟩
    -- the wrappers are known by their shape, so that all depends on the plain type inside of them
    refine ⟨fun hplain => ⟨?_, fun m hm hkind => ?_⟩, fun hpre hsound m hm hkind => ?_⟩
    · exact hbare.mpr (isBare_of_ofPlain hs hinner (hplain inner hmem))
    · obtain hknown | hm := hwraps.isKnown_or_mem hconforms hleaves hm (.inl hkind)
      · exact hknown
      · have hscoped := kind?_of_ofPlain hs hinner hm (.inl hkind)
        exact absurd hkind ((hplain inner hmem hscoped).kind?_ne hm hscoped)
    · obtain ⟨name, argument, hgeneric, -⟩ | hm :=
        hwraps.isKnown_or_mem hconforms hleaves hm (.inr hkind)
      · rw [hgeneric.1] at hkind
        cases hkind
      · have hscoped := kind?_of_ofPlain hs hinner hm (.inr hkind)
        have hpath := ofPath?_of_ofPlain hs hscoped
        have hchars := isPlainChar_of_isBare hpath hpre (hbare.mp hsound.1)
        exact (Node.isPlain_of_forall_mem_text inner hinner hscoped hchars).of_mem hm
  · rw [he]
    refine ⟨?_, by simp⟩
    rintro _ ⟨⟩
    exact ⟨m, hm, p, rfl⟩

/-- The type of the first component of a record. -/
def componentType? (root : Node) : Option Node :=
  (root.find? fun n => n.is .formalParameter).bind fun n => n.child? .typeOf

theorem mem_preorder_of_componentType? {root n : Node} (h : componentType? root = some n) :
    n ∈ root.preorder := by
  obtain ⟨parameter, hparameter, hn⟩ := Option.bind_eq_some_iff.mp h
  exact Node.mem_preorder_trans (Node.mem_preorder_of_child? hn) root
    (Node.mem_preorder_of_find? hparameter)

/-- Whether a text has a record whose first component has a type with the property. -/
def hasComponent (text : String) (p : Node → Bool) : Bool :=
  (Node.ofText? text.toList).any fun root => (componentType? root).any p

theorem exists_of_hasComponent {text : String} {p : Node → Bool} (h : hasComponent text p = true)
    (source : String) :
    ∃ file n, File.ofText? source text = some file ∧ n ∈ file.root.preorder ∧ p n = true := by
  obtain ⟨root, hroot, h⟩ := (Option.any_eq_true _ _).mp h
  obtain ⟨n, hn, hp⟩ := (Option.any_eq_true _ _).mp h
  refine ⟨⟨source, text, root⟩, n, ?_, mem_preorder_of_componentType? hn, hp⟩
  rw [File.ofText?, hroot]
  rfl

/-- A type with a dot behind type arguments. -/
def behindArguments : String :=
  "record JsonT(Foo<A>.Bar value) \x7b\x7d"

theorem hasComponent_behindArguments :
    hasComponent behindArguments (fun n =>
      (ofNode "Json" "JsonT.java" n).toOption == some (optional (named ["Foo<A>", "Bar"])) &&
        n.preorder.any fun m => m.is .genericType && m.members.map Node.word == ["Foo", "<A>"])
      = true := by
  decide +kernel

/-- The type with a dot behind type arguments is mapped to a class whose first segment is no name,
although its generic type is unknown. -/
theorem behind_arguments_mapped :
    ∃ file n t, File.ofText? "JsonT.java" behindArguments = some file ∧ n ∈ file.root.preorder ∧
      ofNode "Json" "JsonT.java" n = .ok t ∧ t.references = [["Foo<A>", "Bar"]] ∧
        ¬t.IsBare ∧ ¬n.WrappersKnown := by
  obtain ⟨file, n, hfile, hn, h⟩ := exists_of_hasComponent hasComponent_behindArguments "JsonT.java"
  rw [Bool.and_eq_true, beq_iff_eq, List.any_eq_true] at h
  obtain ⟨ht, m, hm, hgeneric⟩ := h
  rw [Bool.and_eq_true, Node.is, beq_iff_eq, beq_iff_eq] at hgeneric
  cases hresult : ofNode "Json" "JsonT.java" n with
  | error e =>
    rw [hresult] at ht
    cases ht
  | ok t =>
    rw [hresult] at ht
    cases ht
    refine ⟨file, n, _, hfile, hn, hresult, rfl, fun hbare => ?_, fun hknown => ?_⟩
    · have hname := (hbare _ List.mem_cons_self "Foo<A>" List.mem_cons_self).1.continuesWord
      exact absurd (hname '<' (by decide)) (by decide)
    · obtain ⟨name, argument, ⟨-, arguments, hmembers, -⟩, hword⟩ := hknown m hm hgeneric.1
      have hwords := hgeneric.2
      rw [hmembers, List.map_cons, List.cons.injEq] at hwords
      rw [hwords.1] at hword
      exact absurd hword (by decide)

/-- A list of a nested class. -/
def listOfNested : String :=
  "record JsonT(List<Outer.JsonInner> value) \x7b\x7d"

theorem hasComponent_listOfNested :
    hasComponent listOfNested (fun n =>
      (ofNode "Json" "JsonT.java" n).toOption ==
        some (tuple (optional (named ["Outer", "Inner"]))) && decide n.DottedPlain)
      = true := by
  decide +kernel

/-- A class of a package. -/
def ofPackage : String :=
  "record JsonT(java.time.Instant value) \x7b\x7d"

theorem hasComponent_ofPackage :
    hasComponent ofPackage (fun n => (ofNode "Json" "JsonT.java" n).toOption.isNone) = true := by
  decide +kernel

/-- The list of a nested class is mapped and the class of a package is reported. -/
theorem listOfNested_mapped_types_known :
    (∃ file n t, File.ofText? "JsonT.java" listOfNested = some file ∧ n ∈ file.root.preorder ∧
      ofNode "Json" "JsonT.java" n = .ok t ∧ t.references = [["Outer", "Inner"]] ∧
        n.DottedPlain ∧ t.IsBare ∧ n.WrappersKnown) ∧
    ∃ file n e, File.ofText? "JsonT.java" ofPackage = some file ∧ n ∈ file.root.preorder ∧
      ofNode "Json" "JsonT.java" n = .error e ∧
        ∃ m ∈ n.preorder, ∃ p, e = .atNode "JsonT.java" m p := by
  constructor
  · obtain ⟨file, n, hfile, hn, h⟩ := exists_of_hasComponent hasComponent_listOfNested "JsonT.java"
    rw [Bool.and_eq_true, beq_iff_eq, decide_eq_true_eq] at h
    obtain ⟨ht, hplain⟩ := h
    cases hresult : ofNode "Json" "JsonT.java" n with
    | error e =>
      rw [hresult] at ht
      cases ht
    | ok t =>
      rw [hresult] at ht
      cases ht
      obtain ⟨hsound, hconverse⟩ := (mapped_types_known hfile hn "Json" "JsonT.java").2 _ hresult
      have hpre : "Json".toList.all Token.continuesWord = true := by decide
      have hdotted := hconverse (List.all_eq_true.mp hpre) (hsound hplain)
      exact ⟨file, n, _, hfile, hn, hresult, rfl, hdotted, hsound hplain⟩
  · obtain ⟨file, n, hfile, hn, h⟩ := exists_of_hasComponent hasComponent_ofPackage "JsonT.java"
    cases hresult : ofNode "Json" "JsonT.java" n with
    | ok t =>
      rw [hresult] at h
      cases h
    | error e =>
      exact ⟨file, n, e, hfile, hn, hresult,
        (mapped_types_known hfile hn "Json" "JsonT.java").1 e hresult⟩

end TypeExpr

end RpcBindings
