import RpcBindings.Proofs.KnownTypes
import RpcBindings.Proofs.Layout
import RpcBindings.Proofs.Parts

/-!
# Records of a file, level by level

The declaration of a node is compared with the node itself: its fields with the components, its
members with the constants, and what it nests with the declarations that are members of its body,
and so on for these.  Everything is kept at every level, and the declaration is refused exactly if
a component at some level is not supported.  What decides about defaults is not whether a component
has the annotation for them, but whether it has it as one word.

## Main definitions

* `Node.components`, `Node.nested`, `Node.constantNodes` — the parts of a declaration.
* `Node.HoldsComponent` — the components of a record and of all records nested in it.
* `Field.IsSupported` — a component that can become a field.
* `Declaration.Mirrors` — a declaration keeps what its node declares, at every level.

## Main results

* `Declaration.exists_ofNode_eq_ok_iff` — when a node has a declaration.
* `Declaration.mirrors_of_ofNode` — the declaration keeps what the node declares.
* `Declaration.records_kept` — **what the declarations of a file keep.**
-/

namespace RpcBindings

open Text Source Fallible

namespace Source.Node

/-! ### Parts of declarations -/

/-- The components of a record. -/
def components (n : Node) : List Node :=
  ((n.child? .parameters).map members).getD []

/-- The members of the body of a declaration. -/
def bodyMembers (n : Node) : List Node :=
  ((n.child? .body).map members).getD []

/-- The declarations of records and enums in the body of a record. -/
def nested (n : Node) : List Node :=
  n.bodyMembers.filter Declaration.isDeclared

/-- The constants of an enum. -/
def constantNodes (n : Node) : List Node :=
  n.bodyMembers.filter fun m => m.is .enumConstant

/-- The component belongs to the record, or to a record nested in it at any depth. -/
inductive HoldsComponent : Node → Node → Prop
  | own {n c : Node} (h : n.is .recordDeclaration = true) (hc : c ∈ n.components) :
    HoldsComponent n c
  | nested {n m c : Node} (h : n.is .recordDeclaration = true) (hm : m ∈ n.nested)
    (hc : HoldsComponent m c) : HoldsComponent n c

variable {n m c : Node}

theorem mem_preorder_of_mem_components (h : c ∈ n.components) : c ∈ n.preorder := by
  rw [components] at h
  cases hparameters : n.child? .parameters with
  | none =>
    rw [hparameters] at h
    cases h
  | some p =>
    rw [hparameters] at h
    exact mem_preorder_trans (mem_preorder_of_mem_members h) n (mem_preorder_of_child? hparameters)

theorem exists_of_mem_bodyMembers (h : m ∈ n.bodyMembers) :
    ∃ b, b ∈ n.children ∧ m ∈ b.children := by
  rw [bodyMembers] at h
  cases hbody : n.child? .body with
  | none =>
    rw [hbody] at h
    cases h
  | some b =>
    rw [hbody] at h
    exact ⟨b, List.mem_of_find?_eq_some hbody, (List.mem_filter.mp h).1⟩

theorem mem_preorder_of_mem_bodyMembers (h : m ∈ n.bodyMembers) : m ∈ n.preorder := by
  obtain ⟨b, hb, hm⟩ := exists_of_mem_bodyMembers h
  exact mem_preorder_trans (mem_preorder_of_mem_children hm) n (mem_preorder_of_mem_children hb)

theorem sizeOf_lt_of_mem_nested (h : m ∈ n.nested) : sizeOf m < sizeOf n := by
  obtain ⟨b, hb, hm⟩ := exists_of_mem_bodyMembers (List.mem_of_mem_filter h)
  exact Nat.lt_trans (sizeOf_lt_of_mem_children hm) (sizeOf_lt_of_mem_children hb)

theorem isDeclared_of_mem_nested (h : m ∈ n.nested) : Declaration.isDeclared m = true :=
  (List.mem_filter.mp h).2

theorem Everywhere.of_mem_nested {p : Node → Prop} (h : n.Everywhere p) (hm : m ∈ n.nested) :
    m.Everywhere p :=
  h.of_mem (mem_preorder_of_mem_bodyMembers (List.mem_of_mem_filter hm))

/-- The components of a record are its own ones and those of the records in its body. -/
theorem holdsComponent_iff (h : n.is .recordDeclaration = true) :
    n.HoldsComponent c ↔ c ∈ n.components ∨ ∃ m ∈ n.nested, m.HoldsComponent c := by
  constructor
  · rintro (⟨-, hc⟩ | ⟨-, hm, hc⟩)
    · exact .inl hc
    · exact .inr ⟨_, hm, hc⟩
  · rintro (hc | ⟨m, hm, hc⟩)
    · exact .own h hc
    · exact .nested h hm hc

/-- An enum has no components. -/
theorem not_holdsComponent (h : n.is .enumDeclaration = true) : ¬n.HoldsComponent c := by
  have hnot : n.is .recordDeclaration = false := by
    rw [is, is_iff.mp h]
    rfl
  rintro (⟨hrecord, -⟩ | ⟨hrecord, -, -⟩)
  all_goals
    rw [hnot] at hrecord
    cases hrecord

end Source.Node

namespace Field

/-! ### Fields and components -/

variable {pre path : String} {c : Node}

/-- The component is a plain parameter with a type that is mapped. -/
def IsSupported (pre path : String) (c : Node) : Prop :=
  c.is .formalParameter = true ∧
    ∃ type t, c.child? .typeOf = some type ∧ TypeExpr.ofNode pre path type = .ok t

/-- The type of the component has `None`, or is a sequence. -/
def MayBeLeftOut (pre path : String) (c : Node) : Prop :=
  ∃ type t, c.child? .typeOf = some type ∧ TypeExpr.ofNode pre path type = .ok t ∧
    ((∃ u, t = .optional u) ∨ ∃ u, t = .tuple u)

/-- The field keeps what the component declares.  It has a default exactly if the component is
marked, and only one that fits its type. -/
structure Mirrors (marked : Node → Prop) (pre path : String) (c : Node) (f : Field) : Prop where
  name : ∃ w, c.name? = some w ∧ f.name = through snakeCase w
  type : ∃ type, c.child? .typeOf = some type ∧ TypeExpr.ofNode pre path type = .ok f.type
  noValue : f.default = some .noValue ↔ marked c ∧ ∃ t, f.type = .optional t
  emptyTuple : f.default = some .emptyTuple ↔ marked c ∧ ∃ t, f.type = .tuple t
  unset : f.default ≠ some .unset

/-- `gs` are the fields `fs`, those without a default in front and each half in order. -/
structure MandatoryFirst (fs gs : List Field) : Prop where
  front : gs.filter (fun f => !f.default.isSome) = fs.filter fun f => !f.default.isSome
  back : gs.filter (fun f => f.default.isSome) = fs.filter fun f => f.default.isSome
  pairwise : gs.Pairwise fun f g => g.default = none → f.default = none

theorem mandatoryFirst_spec (fs : List Field) : MandatoryFirst fs (mandatoryFirst fs) where
  front := by
    simp only [mandatoryFirst, List.filter_append, List.filter_filter, Bool.and_self,
      Bool.not_and_self, List.filter_false, List.append_nil]
  back := by
    simp only [mandatoryFirst, List.filter_append, List.filter_filter, Bool.and_self,
      Bool.and_not_self, List.filter_false, List.nil_append]
  pairwise := by
    rw [mandatoryFirst, List.pairwise_append]
    refine ⟨List.pairwise_of_forall_mem_list fun f hf g _ _ => ?_,
      List.pairwise_of_forall_mem_list fun f _ g hg hnone => ?_, fun f hf g _ _ => ?_⟩
    · simpa using (List.mem_filter.mp hf).2
    · simp [hnone] at hg
    · simpa using (List.mem_filter.mp hf).2

theorem defaultOf_eq_noValue_iff {t : TypeExpr} :
    defaultOf t = some .noValue ↔ ∃ u, t = .optional u := by
  cases t <;> simp [defaultOf]

theorem defaultOf_eq_emptyTuple_iff {t : TypeExpr} :
    defaultOf t = some .emptyTuple ↔ ∃ u, t = .tuple u := by
  cases t <;> simp [defaultOf]

theorem isSome_defaultOf_iff {t : TypeExpr} :
    (defaultOf t).isSome = true ↔ (∃ u, t = .optional u) ∨ ∃ u, t = .tuple u := by
  cases t <;> simp [defaultOf]

theorem defaultOf_ne_unset (t : TypeExpr) : defaultOf t ≠ some .unset := by
  cases t <;> simp [defaultOf]

/-- The field of a component keeps what it declares, marked by an annotation in one word. -/
theorem mirrors_of_ofComponent {f : Field} (h : ofComponent pre path c = .ok f) :
    Mirrors (Node.Shows nonNullMark) pre path c f := by
  obtain ⟨⟨w, t⟩, hparts, rfl⟩ := ofComponent_eq_ok_iff.mp h
  have hmark : (marksOf c).contains nonNullMark = true ↔ c.Shows nonNullMark :=
    contains_marksOf_iff (by decide) (by decide)
  simp only [parts?, Option.ite_none_right_eq_some, Option.bind_eq_some_iff,
    Option.map_eq_some_iff, Prod.mk.injEq] at hparts
  obtain ⟨-, w', hw, type, htype, t', ht, rfl, rfl⟩ := hparts
  refine ⟨⟨_, hw, rfl⟩, ⟨type, htype, toOption_eq_some_iff.mp ht⟩, ?_, ?_, ?_⟩
  all_goals
    simp only [ofParts, ← hmark]
    split
  · next hc => rw [defaultOf_eq_noValue_iff, and_iff_right hc]
  · next hc => exact iff_of_false (by simp) fun h => hc h.1
  · next hc => rw [defaultOf_eq_emptyTuple_iff, and_iff_right hc]
  · next hc => exact iff_of_false (by simp) fun h => hc h.1
  · exact defaultOf_ne_unset _
  · simp

/-- A component has a field exactly if it is supported. -/
theorem exists_ofComponent_iff_isSupported (hparts : c.HasParts) :
    (∃ f, ofComponent pre path c = .ok f) ↔ IsSupported pre path c := by
  rw [exists_ofComponent_eq_ok_iff, IsSupported]
  simp only [parts?, Option.ite_none_right_eq_some, Option.bind_eq_some_iff,
    Option.map_eq_some_iff, toOption_eq_some_iff]
  constructor
  · rintro ⟨-, hkind, -, -, type, htype, t, ht, -⟩
    exact ⟨hkind, type, t, htype, ht⟩
  · rintro ⟨hkind, type, t, htype, ht⟩
    obtain ⟨w, hw⟩ := hparts.exists_name hkind List.mem_cons_self
    exact ⟨(w, t), hkind, w, hw, type, htype, t, ht, rfl⟩

variable {marked marked' : Node → Prop} {f f' : Field}

theorem Mirrors.type_eq (h : Mirrors marked pre path c f) (h' : Mirrors marked' pre path c f') :
    f'.type = f.type := by
  obtain ⟨type, hchild, htype⟩ := h.type
  obtain ⟨type', hchild', htype'⟩ := h'.type
  rw [hchild] at hchild'
  cases hchild'
  rw [htype] at htype'
  exact (Except.ok.inj htype').symm

/-- A field has a default exactly if its component is marked and may be left out. -/
theorem Mirrors.isSome_default_iff (h : Mirrors marked pre path c f) :
    f.default.isSome = true ↔ marked c ∧ MayBeLeftOut pre path c := by
  obtain ⟨type, hchild, htype⟩ := h.type
  have hmay : MayBeLeftOut pre path c ↔ (∃ u, f.type = .optional u) ∨ ∃ u, f.type = .tuple u := by
    constructor
    · rintro ⟨type', t, hchild', htype', ht⟩
      rw [hchild] at hchild'
      cases hchild'
      rw [htype] at htype'
      cases htype'
      exact ht
    · exact fun ht => ⟨type, f.type, hchild, htype, ht⟩
  rw [hmay, and_or_left, ← h.noValue, ← h.emptyTuple]
  have hunset := h.unset
  cases hdefault : f.default with
  | none => simp
  | some d =>
    rw [hdefault] at hunset
    cases d with
    | noValue => simp
    | emptyTuple => simp
    | unset => exact absurd rfl hunset

/-- Another notion of marks that agrees on the component has the same field. -/
theorem Mirrors.congr (h : Mirrors marked pre path c f)
    (hmarked : MayBeLeftOut pre path c → (marked c ↔ marked' c)) :
    Mirrors marked' pre path c f := by
  obtain ⟨type, hchild, htype⟩ := h.type
  refine ⟨h.name, h.type, ?_, ?_, h.unset⟩
  · rw [h.noValue]
    refine and_congr_left fun ht => hmarked ⟨type, f.type, hchild, htype, .inl ht⟩
  · rw [h.emptyTuple]
    refine and_congr_left fun ht => hmarked ⟨type, f.type, hchild, htype, .inr ht⟩

open Classical in
/-- There are as many defaults as marked components that may be left out. -/
theorem length_filter_marked {cs : List Node} {fs gs : List Field}
    (hfs : List.Forall₂ (Mirrors marked pre path) cs fs) (horder : MandatoryFirst fs gs) :
    (cs.filter fun c => decide (marked c ∧ MayBeLeftOut pre path c)).length =
      (gs.filter fun g => g.default.isSome).length := by
  rw [horder.back]
  refine List.Forall₂.length_eq (List.rel_filter (fun c f hcf => ?_) hfs)
  exact (decide_eq_true_iff.trans hcf.isSome_default_iff.symm)

/-- If marks are read less strictly, the same fields remain right exactly if no component that may
be left out is marked in the new sense only. -/
theorem exists_mirrors_iff {cs : List Node} {fs gs : List Field}
    (hfs : List.Forall₂ (Mirrors marked pre path) cs fs) (horder : MandatoryFirst fs gs)
    (hweaker : ∀ c, marked c → marked' c) :
    (∃ fs', List.Forall₂ (Mirrors marked' pre path) cs fs' ∧ MandatoryFirst fs' gs) ↔
      ∀ c ∈ cs, marked' c → marked c ∨ ¬MayBeLeftOut pre path c := by
  classical
  constructor
  · rintro ⟨fs', hfs', horder'⟩ c hc hmarked
    -- the fields have the same number of defaults in both senses, so that no default is missing
    have hsub := List.monotone_filter_right cs
      (p := fun c => decide (marked c ∧ MayBeLeftOut pre path c))
      (q := fun c => decide (marked' c ∧ MayBeLeftOut pre path c))
      (fun c h => by
        rw [decide_eq_true_iff] at h ⊢
        exact ⟨hweaker c h.1, h.2⟩)
    have heq := hsub.eq_of_length
      ((length_filter_marked hfs horder).trans (length_filter_marked hfs' horder').symm)
    by_cases hmay : MayBeLeftOut pre path c
    · have hmem : c ∈ cs.filter fun c => decide (marked' c ∧ MayBeLeftOut pre path c) :=
        List.mem_filter.mpr ⟨hc, decide_eq_true ⟨hmarked, hmay⟩⟩
      rw [← heq] at hmem
      exact .inl (of_decide_eq_true (List.mem_filter.mp hmem).2).1
    · exact .inr hmay
  · intro h
    refine ⟨fs, forall₂_imp_of_mem hfs fun c hc f hcf => ?_, horder⟩
    refine hcf.congr fun hmay => ⟨hweaker c, fun hmarked => ?_⟩
    exact (h c hc hmarked).resolve_right (not_not_intro hmay)

end Field

namespace Declaration

/-! ### Declarations and nodes -/

variable {pre path : String} {n c : Node}

/-- The declaration keeps what the node declares: the kind and the name; of a record all components
and all declarations in its body, which keep what they declare in turn; of an enum all constants. -/
inductive Mirrors (marked : Node → Prop) (pre path : String) : Node → Declaration → Prop
  | record {n : Node} {w : String} {fs fields : List Field} {nested : List Declaration}
    (hkind : n.is .recordDeclaration = true) (hname : n.name? = some w)
    (hfields : List.Forall₂ (Field.Mirrors marked pre path) n.components fs)
    (horder : Field.MandatoryFirst fs fields)
    (hnested : List.Forall₂ (Mirrors marked pre path) n.nested nested) :
    Mirrors marked pre path n (.record (unprefixed pre w) fields nested path)
  | enumeration {n : Node} {w : String} {members : List String}
    (hkind : n.is .enumDeclaration = true) (hname : n.name? = some w)
    (hmembers : List.Forall₂ (fun c m => c.name? = some m) n.constantNodes members) :
    Mirrors marked pre path n (.enumeration (unprefixed pre w) members path)

theorem among_eq (cs : List Node) :
    among pre path cs = (cs.filter isDeclared).mapM (ofNode pre path) := by
  induction cs with
  | nil => rfl
  | cons c cs ih =>
    rw [among, List.filter_cons]
    split
    · rw [List.mapM_cons, ih]
      cases ofNode pre path c with
      | error e => rfl
      | ok d => cases (cs.filter isDeclared).mapM (ofNode pre path) <;> rfl
    · exact ih

/-- A declaration has a kind and is no comment. -/
theorem filter_isDeclared_members (b : Node) :
    b.members.filter isDeclared = b.children.filter isDeclared := by
  rw [Node.members, List.filter_filter]
  refine List.filter_congr fun c _ => ?_
  cases hc : isDeclared c with
  | false => rfl
  | true =>
    rw [isDeclared, Bool.or_eq_true, Node.is_iff, Node.is_iff] at hc
    rcases hc with hc | hc <;> simp [Node.isNamed, Node.isComment, hc, Kind.isComment]

theorem inBody_eq (cs : List Node) : inBody pre path cs =
    match cs.find? fun c => c.role == some .body with
    | none => .ok []
    | some b => (b.members.filter isDeclared).mapM (ofNode pre path) := by
  induction cs with
  | nil => rfl
  | cons c cs ih =>
    rw [inBody, List.find?_cons]
    cases c.role == some .body with
    | false => exact ih
    | true =>
      cases c with
      | leaf => rfl
      | tree =>
        rw [if_pos rfl, bodyMembers, among_eq]
        exact congrArg _ (filter_isDeclared_members (.tree ..)).symm

/-- The declaration of a record has its fields and what its body declares. -/
theorem ofNode_record (hkind : n.is .recordDeclaration = true) {w : String}
    (hname : n.name? = some w) {d : Declaration} : ofNode pre path n = .ok d ↔
      ∃ fields nested, fieldsOf pre path n = .ok fields ∧
        n.nested.mapM (ofNode pre path) = .ok nested ∧
          .record (unprefixed pre w) fields nested path = d := by
  cases n with
  | leaf => cases hname
  | tree g r k line cs =>
    obtain rfl : k = .recordDeclaration := Option.some.inj (Node.is_iff.mp hkind)
    have hnested : inBody pre path cs =
        (Node.tree g r .recordDeclaration line cs).nested.mapM (ofNode pre path) := by
      rw [inBody_eq, Node.nested, Node.bodyMembers, Node.child?, Node.children]
      cases cs.find? fun c => c.role == some .body <;> rfl
    rw [ofNode, hname, hnested]
    simp only [reduceCtorEq, if_false]
    cases fieldsOf pre path (.tree g r .recordDeclaration line cs) with
    | error e => simp
    | ok fields => simp only [map_eq_ok_iff, Except.ok.injEq, exists_and_left, exists_eq_left']

/-- The declaration of an enum has its constants. -/
theorem ofNode_enumeration (hkind : n.is .enumDeclaration = true) {w : String}
    (hname : n.name? = some w) : ofNode pre path n =
      .ok (.enumeration (unprefixed pre w) (n.constantNodes.filterMap Node.name?) path) := by
  cases n with
  | leaf => cases hname
  | tree g r k line cs =>
    obtain rfl : k = .enumDeclaration := Option.some.inj (Node.is_iff.mp hkind)
    rw [ofNode, hname, constants, Node.constantNodes, Node.bodyMembers]
    cases (Node.tree g r .enumDeclaration line cs).child? .body <;> rfl

/-- The fields of a record are those of its components, some in front of the others. -/
theorem fieldsOf_eq_ok_iff (hparameters : (n.child? .parameters).isSome = true)
    {fields : List Field} : fieldsOf pre path n = .ok fields ↔
      ∃ fs, List.Forall₂ (fun c f => Field.ofComponent pre path c = .ok f) n.components fs ∧
        Field.mandatoryFirst fs = fields := by
  obtain ⟨p, hp⟩ := Option.isSome_iff_exists.mp hparameters
  simp only [fieldsOf, Node.components, hp, map_eq_ok_iff, mapM_eq_ok_iff, Option.map_some,
    Option.getD_some]

theorem isDeclared_cases (h : isDeclared n = true) :
    n.is .recordDeclaration = true ∨ n.is .enumDeclaration = true :=
  Bool.or_eq_true_iff.mp h

/-- Each declaration in a tree with all parts has a name, and records have components. -/
theorem exists_name_of_isDeclared (hparts : n.HasParts) (h : isDeclared n = true) :
    ∃ w, n.name? = some w := by
  rcases isDeclared_cases h with hkind | hkind
  · exact hparts.exists_name hkind (by decide)
  · exact hparts.exists_name hkind (by decide)

theorem isSome_parameters (hparts : n.HasParts) (hkind : n.is .recordDeclaration = true) :
    (n.child? .parameters).isSome = true :=
  Node.isSome_child?_iff.mpr (hparts _ (Node.is_iff.mp hkind) .parameters (by decide))

/-- A record has fields if each of its components can become one. -/
theorem exists_fieldsOf_eq_ok_iff (hparts : n.Everywhere Node.HasParts)
    (hkind : n.is .recordDeclaration = true) : (∃ fields, fieldsOf pre path n = .ok fields) ↔
      ∀ c ∈ n.components, Field.IsSupported pre path c := by
  have hparameters := isSome_parameters (hparts n n.mem_preorder_self) hkind
  simp only [fieldsOf_eq_ok_iff hparameters, ← mapM_eq_ok_iff]
  rw [exists_comm]
  simp only [exists_and_left, exists_eq', and_true, exists_mapM_eq_ok_iff]
  refine forall₂_congr fun c hc => ?_
  exact Field.exists_ofComponent_iff_isSupported
    (hparts c (Node.mem_preorder_of_mem_components hc))

/-- A record has a declaration if it has fields, and what it nests has declarations. -/
theorem exists_ofNode_record_iff {w : String} (hkind : n.is .recordDeclaration = true)
    (hname : n.name? = some w) : (∃ d, ofNode pre path n = .ok d) ↔
      (∃ fields, fieldsOf pre path n = .ok fields) ∧
        ∃ nested, n.nested.mapM (ofNode pre path) = .ok nested := by
  simp only [ofNode_record hkind hname]
  constructor
  · rintro ⟨-, fields, nested, hfields, hnested, -⟩
    exact ⟨⟨fields, hfields⟩, nested, hnested⟩
  · rintro ⟨⟨fields, hfields⟩, nested, hnested⟩
    exact ⟨_, fields, nested, hfields, hnested, rfl⟩

/-- **When a node has a declaration**: no component at any level is unsupported. -/
theorem exists_ofNode_eq_ok_iff {n : Node} (hparts : n.Everywhere Node.HasParts)
    (hdeclared : isDeclared n = true) : (∃ d, ofNode pre path n = .ok d) ↔
      ∀ c, n.HoldsComponent c → Field.IsSupported pre path c := by
  obtain ⟨w, hname⟩ := exists_name_of_isDeclared (hparts n n.mem_preorder_self) hdeclared
  rcases isDeclared_cases hdeclared with hkind | hkind
  · have hnested : (∃ nested, n.nested.mapM (ofNode pre path) = .ok nested) ↔
        ∀ m ∈ n.nested, ∀ c, m.HoldsComponent c → Field.IsSupported pre path c := by
      rw [exists_mapM_eq_ok_iff]
      refine forall₂_congr fun m hm => ?_
      have := Node.sizeOf_lt_of_mem_nested hm
      exact exists_ofNode_eq_ok_iff (hparts.of_mem_nested hm) (Node.isDeclared_of_mem_nested hm)
    rw [exists_ofNode_record_iff hkind hname, exists_fieldsOf_eq_ok_iff hparts hkind, hnested]
    simp only [Node.holdsComponent_iff hkind, or_imp, forall_and, forall_exists_index, and_imp]
    exact and_congr_right fun _ => ⟨fun h c m hm => h m hm c, fun h m hm c => h c m hm⟩
  · simp [ofNode_enumeration hkind hname, Node.not_holdsComponent hkind]
termination_by sizeOf n

theorem forall₂_name?_filterMap {cs : List Node} (h : ∀ c ∈ cs, ∃ w, c.name? = some w) :
    List.Forall₂ (fun c w => c.name? = some w) cs (cs.filterMap Node.name?) := by
  induction cs with
  | nil => exact .nil
  | cons c cs ih =>
    obtain ⟨⟨w, hw⟩, hcs⟩ := List.forall_mem_cons.mp h
    rw [List.filterMap_cons_some hw]
    exact .cons hw (ih hcs)

/-- **The declaration keeps what the node declares**, with annotations in one word as marks. -/
theorem mirrors_of_ofNode {n : Node} (hparts : n.Everywhere Node.HasParts)
    (hdeclared : isDeclared n = true) {d : Declaration} (h : ofNode pre path n = .ok d) :
    Mirrors (Node.Shows nonNullMark) pre path n d := by
  have hself := hparts n n.mem_preorder_self
  obtain ⟨w, hname⟩ := exists_name_of_isDeclared hself hdeclared
  rcases isDeclared_cases hdeclared with hkind | hkind
  · obtain ⟨fields, nested, hfields, hnested, rfl⟩ := (ofNode_record hkind hname).mp h
    obtain ⟨fs, hfs, rfl⟩ := (fieldsOf_eq_ok_iff (isSome_parameters hself hkind)).mp hfields
    refine .record hkind hname (hfs.imp fun _ _ => Field.mirrors_of_ofComponent)
      (Field.mandatoryFirst_spec fs) ?_
    refine forall₂_imp_of_mem (mapM_eq_ok_iff.mp hnested) fun m hm e he => ?_
    have := Node.sizeOf_lt_of_mem_nested hm
    exact mirrors_of_ofNode (hparts.of_mem_nested hm) (Node.isDeclared_of_mem_nested hm) he
  · rw [ofNode_enumeration hkind hname] at h
    cases h
    refine .enumeration hkind hname (forall₂_name?_filterMap fun c hc => ?_)
    obtain ⟨hmem, hconstant⟩ := List.mem_filter.mp hc
    exact (hparts c (Node.mem_preorder_of_mem_bodyMembers hmem)).exists_name hconstant (by decide)
termination_by sizeOf n

theorem mirrors_record_iff {marked : Node → Prop} {w name source : String} {fields : List Field}
    {nested : List Declaration} (hkind : n.is .recordDeclaration = true)
    (hname : n.name? = some w) :
    Mirrors marked pre path n (.record name fields nested source) ↔
      (name = unprefixed pre w ∧ source = path) ∧
        (∃ fs, List.Forall₂ (Field.Mirrors marked pre path) n.components fs ∧
          Field.MandatoryFirst fs fields) ∧
            List.Forall₂ (Mirrors marked pre path) n.nested nested := by
  constructor
  · rintro (⟨-, hname', hfields, horder, hnested⟩ | -)
    rw [hname] at hname'
    cases hname'
    exact ⟨⟨rfl, rfl⟩, ⟨_, hfields, horder⟩, hnested⟩
  · rintro ⟨⟨rfl, rfl⟩, ⟨fs, hfields, horder⟩, hnested⟩
    exact .record hkind hname hfields horder hnested

/-- If marks are read less strictly, a declaration remains right exactly if no component at any
level that may be left out is marked in the new sense only. -/
theorem Mirrors.weaken_iff {marked marked' : Node → Prop} (hweaker : ∀ c, marked c → marked' c)
    {n : Node} {d : Declaration} (h : Mirrors marked pre path n d) :
    Mirrors marked' pre path n d ↔
      ∀ c, n.HoldsComponent c → marked' c → marked c ∨ ¬Field.MayBeLeftOut pre path c := by
  cases h with
  | record hkind hname hfields horder hnested =>
    have hbelow := forall₂_iff_of_forall₂ hnested fun m hm d hd =>
      have := Node.sizeOf_lt_of_mem_nested hm
      weaken_iff hweaker (n := m) (d := d) hd
    rw [mirrors_record_iff hkind hname, and_iff_right ⟨rfl, rfl⟩,
      Field.exists_mirrors_iff hfields horder hweaker, hbelow]
    simp only [Node.holdsComponent_iff hkind, or_imp, forall_and, forall_exists_index, and_imp]
    exact and_congr_right fun _ => ⟨fun h c m hm => h m hm c, fun h m hm c => h c m hm⟩
  | enumeration hkind hname hmembers =>
    exact iff_of_true (.enumeration hkind hname hmembers)
      fun c hc => absurd hc (Node.not_holdsComponent hkind)
termination_by sizeOf n

/-- **What the declarations of a file keep.**  A record or an enum anywhere in a file is refused
exactly if a component of it, or of a record nested in it at any depth, is not supported, and with
it the extraction it is a part of.  Otherwise its declaration keeps everything it declares at every
level; marked are the components that have the annotation for it as one word.  That all those are
marked that have the annotation at all is the case exactly if no component that may be left out has
it with blanks between its tokens. -/
theorem records_kept {path text : String} {file : Source.File}
    (hfile : File.ofText? path text = some file) (hn : n ∈ file.root.preorder)
    (hdeclared : isDeclared n = true) (pre : String) :
    ((∃ e, ofNode pre path n = .error e) ↔
        ∃ c, n.HoldsComponent c ∧ ¬Field.IsSupported pre path c) ∧
      (isModel pre n = true → (∃ c, n.HoldsComponent c ∧ ¬Field.IsSupported pre path c) →
        (n ∈ file.root.members → ∃ e, topLevel pre file = .error e) ∧
          (n ∈ file.root.outermost (isModel pre) → ∃ e, outermost pre file = .error e)) ∧
        ∀ d, ofNode pre path n = .ok d →
          Mirrors (Node.Shows nonNullMark) pre path n d ∧
            (Mirrors (Node.Bears nonNullMark) pre path n d ↔
              ∀ c, n.HoldsComponent c → c.Bears nonNullMark →
                c.Shows nonNullMark ∨ ¬Field.MayBeLeftOut pre path c) := by
  have hparts := (File.hasParts hfile).of_mem hn
  have herror : (∃ e, ofNode pre path n = .error e) ↔
      ∃ c, n.HoldsComponent c ∧ ¬Field.IsSupported pre path c := by
    simp only [exists_eq_error_iff, exists_ofNode_eq_ok_iff hparts hdeclared, not_forall,
      exists_prop]
  have hpath : file.path = path := by
    obtain ⟨root, -, rfl⟩ := Option.map_eq_some_iff.mp hfile
    rfl
  refine ⟨herror, fun hmodel hc => ⟨fun hmember => ?_, fun hmember => ?_⟩, fun d hd => ?_⟩
  · refine exists_mapM_eq_error_iff.mpr ⟨n, List.mem_filter.mpr ⟨hmember, hmodel⟩, ?_⟩
    rw [hpath]
    exact herror.mpr hc
  · refine exists_mapM_eq_error_iff.mpr ⟨n, hmember, ?_⟩
    rw [hpath]
    exact herror.mpr hc
  · have hmirrors := mirrors_of_ofNode hparts hdeclared hd
    refine ⟨hmirrors, hmirrors.weaken_iff ?_⟩
    rintro c ⟨a, ha, hmark, -⟩
    exact ⟨a, ha, hmark⟩

/-- A record with a component that may be left out, and with an enum and a record in its body. -/
def nestedRecord : String :=
  "record JsonT(@JsonInclude(JsonInclude.Include.NON_NULL) String note, int id) \x7b\n" ++
    "  enum Mode \x7b ON, OFF \x7d\n  record JsonPart(List<String> names) \x7b\x7d\n\x7d"

theorem hasNode_nestedRecord :
    File.hasNode nestedRecord (fun n => isDeclared n &&
      (ofNode "Json" "JsonT.java" n).toOption.any fun d =>
        d.name == "T" && d.declares "Mode" && d.declares "Part") = true := by
  decide +kernel

/-- A record keeps what its body declares. -/
theorem nestedRecord_records_kept :
    ∃ file n d, File.ofText? "JsonT.java" nestedRecord = some file ∧ n ∈ file.root.preorder ∧
      isDeclared n = true ∧ ofNode "Json" "JsonT.java" n = .ok d ∧
        (d.name = "T" ∧ d.declares "Mode" = true ∧ d.declares "Part" = true) ∧
          Mirrors (Node.Shows nonNullMark) "Json" "JsonT.java" n d := by
  obtain ⟨file, n, hfile, hn, h⟩ := File.exists_of_hasNode hasNode_nestedRecord "JsonT.java"
  obtain ⟨hdeclared, h⟩ := Bool.and_eq_true_iff.mp h
  obtain ⟨d, hd, h⟩ := exists_of_any_toOption h
  rw [Bool.and_eq_true, Bool.and_eq_true, beq_iff_eq, and_assoc] at h
  obtain ⟨-, -, hkept⟩ := records_kept hfile hn hdeclared "Json"
  exact ⟨file, n, d, hfile, hn, hdeclared, hd, h, (hkept d hd).1⟩

/-- A record with a nested one that has blanks between the tokens of an annotation. -/
def nestedWithBlanks : String :=
  "record JsonT(int id) \x7b\n  record Part(" ++
    "@JsonInclude( JsonInclude.Include.NON_NULL ) String name) \x7b\x7d\n\x7d"

/-- Whether a component that may be left out has the annotation for it, but not as one word. -/
def isOverlooked (pre path : String) (c : Node) : Bool :=
  decide (∃ a ∈ c.annotations, compact a.text = nonNullMark) &&
    !decide (c.Shows nonNullMark) && (c.child? .typeOf).any fun type =>
      (TypeExpr.ofNode pre path type).toOption.any fun t => (Field.defaultOf t).isSome

theorem not_mirrors_of_isOverlooked (hc : isOverlooked pre path c = true)
    (hholds : n.HoldsComponent c) {d : Declaration}
    (hd : Mirrors (Node.Shows nonNullMark) pre path n d) :
    ¬Mirrors (Node.Bears nonNullMark) pre path n d := by
  rw [hd.weaken_iff (fun c ⟨a, ha, hmark, _⟩ => ⟨a, ha, hmark⟩)]
  intro h
  simp only [isOverlooked, Bool.and_eq_true, Bool.not_eq_true', decide_eq_true_iff,
    decide_eq_false_iff_not, Option.any_eq_true] at hc
  obtain ⟨⟨hbears, hshows⟩, type, htype, t, ht, hdefault⟩ := hc
  refine (h c hholds hbears).elim hshows fun hmay => hmay ?_
  exact ⟨type, t, htype, toOption_eq_some_iff.mp ht, Field.isSome_defaultOf_iff.mp hdefault⟩

theorem hasNode_nestedWithBlanks :
    File.hasNode nestedWithBlanks (fun n => n.is .recordDeclaration &&
      (ofNode "Json" "JsonT.java" n).toOption.isSome && n.nested.any fun m =>
        m.is .recordDeclaration && m.components.any (isOverlooked "Json" "JsonT.java")) = true := by
  decide +kernel

/-- A nested record loses a default. -/
theorem nested_default_lost :
    ∃ file n d, File.ofText? "JsonT.java" nestedWithBlanks = some file ∧
      n ∈ file.root.preorder ∧ isDeclared n = true ∧ ofNode "Json" "JsonT.java" n = .ok d ∧
        ¬Mirrors (Node.Bears nonNullMark) "Json" "JsonT.java" n d := by
  obtain ⟨file, n, hfile, hn, h⟩ := File.exists_of_hasNode hasNode_nestedWithBlanks "JsonT.java"
  simp only [Bool.and_eq_true, List.any_eq_true] at h
  obtain ⟨⟨hkind, hok⟩, m, hm, hkind', c, hc, hoverlooked⟩ := h
  obtain ⟨d, hd⟩ := exists_ok_of_isSome hok
  have hdeclared : isDeclared n = true := Bool.or_eq_true_iff.mpr (.inl hkind)
  have hmirrors := mirrors_of_ofNode ((File.hasParts hfile).of_mem hn) hdeclared hd
  have hholds : n.HoldsComponent c := .nested hkind hm (.own hkind' hc)
  exact ⟨file, n, d, hfile, hn, hdeclared, hd,
    not_mirrors_of_isOverlooked hoverlooked hholds hmirrors⟩

end Declaration

end RpcBindings
