import RpcBindings.Proofs.Fallible
import RpcBindings.Proofs.Tree
import RpcBindings.Record.OfSource

/-!
# The layout of annotations

Two spellings of a component differ in nothing but the blanks between the tokens of its annotations.
Its name and its type come from other parts of it, so that they are the same in both spellings.  But
annotations are looked up by their texts with single spaces, which are the expected texts only where
an annotation is written as one word.  So the default and the deprecation can differ, and do so
exactly if one spelling has such a word and the other has not.

## Main definitions

* `Node.agrees` — two nodes are the same, with the blanks in them compared by a given relation.
* `Node.Respells` — two components differ at most in the layout of their annotations.
* `Node.Bears`, `Node.Shows` — a component has an annotation, and has it as one word.

## Main results

* `Node.apply_text_of_agrees` — nodes that agree have the same text, as far as the blanks allow.
* `TypeExpr.toOption_ofNode_of_sameText` — nodes with the same text have the same type.
* `Field.contains_marksOf_iff` — annotations are found exactly where they are written as one word.
* `Field.layout_of_annotations` — **what the layout of annotations can change** in a field.
-/

namespace RpcBindings

open Text Source

namespace Text

/-! ### Texts with single spaces -/

theorem compact_append (cs ds : List Char) : compact (cs ++ ds) = compact cs ++ compact ds :=
  List.filter_append cs ds

theorem flatten_splitWhen (p : Char → Bool) (cs : List Char) :
    (splitWhen p cs).flatten = cs.filter fun c => !p c := by
  induction cs with
  | nil => rfl
  | cons c cs ih =>
    rw [splitWhen]
    cases hc : p c with
    | true => simp [hc, ih]
    | false =>
      obtain ⟨w, ws, hw⟩ := List.exists_cons_of_ne_nil (splitWhen_ne_nil p cs)
      rw [hw] at ih ⊢
      simpa [hc] using ih

theorem flatten_words (cs : List Char) : (words cs).flatten = compact cs := by
  have hflatten : ∀ ws : List (List Char),
      (ws.filter fun w => !w.isEmpty).flatten = ws.flatten := by
    intro ws
    induction ws with
    | nil => rfl
    | cons w ws ih => cases w <;> simp [ih]
  rw [words, hflatten, flatten_splitWhen, compact]

/-- With single spaces a text is a given word exactly if it is that word, blanks aside, and has no
blanks in it. -/
theorem collapse_eq_iff {cs mark : List Char} (hne : mark ≠ [])
    (hblank : mark.any isBlank = false) :
    collapse cs = mark ↔ compact cs = mark ∧ (words cs).length = 1 := by
  rw [collapse, ← flatten_words]
  match words cs with
  | [] => simp [join, hne.symm]
  | [w] => simp [join]
  | w :: v :: ws =>
    refine iff_of_false ?_ (by simp)
    rintro rfl
    exact absurd (by decide) (List.any_eq_false.mp hblank ' ' (by simp [join]))

end Text

namespace Source.Node

/-! ### Nodes that agree -/

mutual

/-- Whether two nodes are the same, apart from their lines and the blanks in front of them.  The
blanks in front of the nodes below them are compared by `same`. -/
def agrees (same : List Char → List Char → Bool) : Node → Node → Bool
  | leaf _ r k _ t, leaf _ r' k' _ t' => r == r' && k == k' && t == t'
  | tree _ r k _ cs, tree _ r' k' _ ds => r == r' && k == k' && agreeAll same cs ds
  | _, _ => false

/-- Whether nodes agree one by one, and so do the blanks in front of them. -/
def agreeAll (same : List Char → List Char → Bool) : List Node → List Node → Bool
  | [], [] => true
  | c :: cs, d :: ds => same c.gap d.gap && agrees same c d && agreeAll same cs ds
  | _, _ => false

end

/-- Whether two nodes have the same text and structure. -/
def sameText : Node → Node → Bool :=
  agrees fun g h => g == h

/-- Whether two nodes differ at most in the blanks between their tokens. -/
def sameTokens : Node → Node → Bool :=
  agrees fun g h => g.all isBlank && h.all isBlank

section

variable {same : List Char → List Char → Bool} {a b : Node}

theorem agreeAll_iff {cs ds : List Node} : agreeAll same cs ds = true ↔
    List.Forall₂ (fun c d => same c.gap d.gap = true ∧ c.agrees same d = true) cs ds := by
  induction cs generalizing ds with
  | nil => cases ds <;> simp [agreeAll]
  | cons c cs ih => cases ds <;> simp [agreeAll, ih]

theorem role_of_agrees (h : a.agrees same b = true) : a.role = b.role := by
  cases a <;> cases b <;> simp_all [agrees, role]

theorem kind?_of_agrees (h : a.agrees same b = true) : a.kind? = b.kind? := by
  cases a <;> cases b <;> simp_all [agrees, kind?]

theorem children_of_agrees (h : a.agrees same b = true) :
    List.Forall₂ (fun c d => same c.gap d.gap = true ∧ c.agrees same d = true)
      a.children b.children := by
  cases a <;> cases b <;> simp_all [agrees, children, agreeAll_iff]

mutual

/-- Nodes that agree have the same text up to a function that does not tell their blanks apart. -/
theorem apply_text_of_agrees {f : List Char → List Char}
    (happend : ∀ x y, f (x ++ y) = f x ++ f y) (hsame : ∀ g h, same g h = true → f g = f h) :
    (a b : Node) → a.agrees same b = true → f a.text = f b.text
  | .leaf .., .leaf .., h => by
    simp only [agrees, Bool.and_eq_true, beq_iff_eq] at h
    simp only [text, h.2]
  | .tree _ _ _ _ cs, .tree _ _ _ _ ds, h => by
    simp only [agrees, Bool.and_eq_true] at h
    simp only [text]
    exact apply_sources_of_agreeAll happend hsame cs ds h.2
  | .leaf .., .tree .., h => by simp [agrees] at h
  | .tree .., .leaf .., h => by simp [agrees] at h

theorem apply_sources_of_agreeAll {f : List Char → List Char}
    (happend : ∀ x y, f (x ++ y) = f x ++ f y) (hsame : ∀ g h, same g h = true → f g = f h) :
    (cs ds : List Node) → agreeAll same cs ds = true → f (sources cs) = f (sources ds)
  | [], [], _ => rfl
  | c :: cs, d :: ds, h => by
    simp only [agreeAll, Bool.and_eq_true] at h
    rw [sources, sources, happend, happend, happend, happend, hsame _ _ h.1.1,
      apply_text_of_agrees happend hsame c d h.1.2,
      apply_sources_of_agreeAll happend hsame cs ds h.2]
  | [], _ :: _, h => by simp [agreeAll] at h
  | _ :: _, [], h => by simp [agreeAll] at h

end

theorem text_of_sameText (h : a.sameText b = true) : a.text = b.text :=
  apply_text_of_agrees (f := id) (fun _ _ => rfl) (fun _ _ hsame => beq_iff_eq.mp hsame) a b h

theorem compact_text_of_sameTokens (h : a.sameTokens b = true) :
    compact a.text = compact b.text := by
  refine apply_text_of_agrees compact_append (fun g h hsame => ?_) a b h
  obtain ⟨hg, hh⟩ := Bool.and_eq_true_iff.mp hsame
  have hnone : ∀ g : List Char, g.all isBlank = true → compact g = [] := by
    intro g hg
    simpa [compact] using hg
  rw [hnone g hg, hnone h hh]

/-! ### Members and children in roles -/

theorem forall₂_members {r : Node → Node → Prop} (hkind : ∀ c d, r c d → c.kind? = d.kind?)
    (h : List.Forall₂ r a.children b.children) : List.Forall₂ r a.members b.members :=
  List.rel_filter (fun c d hcd => by simp [isNamed, isComment, hkind c d hcd]) h

theorem rel_child? {r : Node → Node → Prop} (hrole : ∀ c d, r c d → c.role = d.role)
    (h : List.Forall₂ r a.children b.children) (role : Role) :
    Option.Rel (fun c d => r c d ∧ c.role = some role) (a.child? role) (b.child? role) := by
  rw [child?, child?]
  generalize a.children = cs, b.children = ds at h
  induction h with
  | nil => exact .none
  | @cons c d cs ds hcd _ ih =>
    rw [List.find?_cons, List.find?_cons, ← hrole c d hcd]
    cases hfound : c.role == some role with
    | true => exact .some ⟨hcd, beq_iff_eq.mp hfound⟩
    | false => exact ih

theorem members_of_agrees (h : a.agrees same b = true) :
    List.Forall₂ (fun c d => c.agrees same d = true) a.members b.members :=
  (forall₂_members (fun _ _ h => kind?_of_agrees h.2) (children_of_agrees h)).imp fun _ _ h => h.2

end

/-! ### Components in two spellings -/

/-- Whether two nodes are the same part of a component, modifiers up to their layout. -/
def samePart (a b : Node) : Bool :=
  if a.is .modifiers && a.role.isNone then a.sameTokens b else a.sameText b

/-- Two nodes are the same component, in two spellings that differ at most in the layout of the
annotations. -/
def Respells (c d : Node) : Prop :=
  c.kind? = d.kind? ∧ List.Forall₂ (fun a b => a.samePart b = true) c.children d.children

instance (c d : Node) : Decidable (c.Respells d) :=
  inferInstanceAs (Decidable (_ ∧ _))

/-- The annotations of a component. -/
def annotations (component : Node) : List Node :=
  ((component.members.filter fun n => n.is .modifiers).flatMap members).filter fun n =>
    n.is .fullAnnotated || n.is .bareAnnotated

/-- A component has the annotation, however it is laid out. -/
def Bears (mark : List Char) (component : Node) : Prop :=
  ∃ a ∈ component.annotations, compact a.text = mark

/-- A component has the annotation, and has it as one word: no blanks stand between its tokens. -/
def Shows (mark : List Char) (component : Node) : Prop :=
  ∃ a ∈ component.annotations, compact a.text = mark ∧ (words a.text).length = 1

instance (mark : List Char) (c : Node) : Decidable (c.Shows mark) :=
  inferInstanceAs (Decidable (∃ a ∈ c.annotations, compact a.text = mark ∧ _))

section

variable {a b c d : Node}

theorem role_of_samePart (h : a.samePart b = true) : a.role = b.role := by
  unfold samePart at h
  split at h
  · exact role_of_agrees h
  · exact role_of_agrees h

theorem kind?_of_samePart (h : a.samePart b = true) : a.kind? = b.kind? := by
  unfold samePart at h
  split at h
  · exact kind?_of_agrees h
  · exact kind?_of_agrees h

theorem sameText_of_samePart {r : Role} (h : a.samePart b = true) (hrole : a.role = some r) :
    a.sameText b = true := by
  simpa [samePart, hrole] using h

/-- The members of corresponding parts have the same text, blanks aside. -/
theorem members_of_samePart (h : a.samePart b = true) :
    List.Forall₂ (fun x y => x.kind? = y.kind? ∧ compact x.text = compact y.text)
      a.members b.members := by
  unfold samePart at h
  split at h
  · exact (members_of_agrees h).imp fun x y hxy =>
      ⟨kind?_of_agrees hxy, compact_text_of_sameTokens hxy⟩
  · exact (members_of_agrees h).imp fun x y hxy =>
      ⟨kind?_of_agrees hxy, congrArg compact (text_of_sameText hxy)⟩

/-- The annotations of two spellings correspond, and have the same text, blanks aside. -/
theorem Respells.annotations (h : c.Respells d) :
    List.Forall₂ (fun x y => x.kind? = y.kind? ∧ compact x.text = compact y.text)
      c.annotations d.annotations := by
  have hmembers := forall₂_members (fun _ _ => kind?_of_samePart) h.2
  have hmodifiers : List.Forall₂ (fun a b => a.samePart b = true)
      (c.members.filter fun n => n.is .modifiers) (d.members.filter fun n => n.is .modifiers) :=
    List.rel_filter (fun a b hab => by simp [Node.is, kind?_of_samePart hab]) hmembers
  exact List.rel_filter (fun x y hxy => by simp [Node.is, hxy.1])
    (List.rel_flatMap hmodifiers fun a b => members_of_samePart)

/-- Both spellings have the same annotations. -/
theorem Respells.bears_iff (h : c.Respells d) (mark : List Char) : c.Bears mark ↔ d.Bears mark :=
  Fallible.exists_mem_iff_of_forall₂ h.annotations fun x y hxy => by rw [hxy.2]

/-- The children in a role have the same text. -/
theorem Respells.rel_child? (h : c.Respells d) (r : Role) :
    Option.Rel (fun a b => a.sameText b = true) (c.child? r) (d.child? r) := by
  have hrel := Node.rel_child? (fun _ _ => role_of_samePart) h.2 r
  generalize c.child? r = x, d.child? r = y at hrel ⊢
  cases hrel with
  | none => exact .none
  | some h => exact .some (sameText_of_samePart h.1 h.2)

theorem bind_eq_of_rel {β : Type} {x y : Option Node} {f : Node → Option β}
    (h : Option.Rel (fun a b => a.sameText b = true) x y)
    (hf : ∀ a b, a.sameText b = true → f a = f b) : x.bind f = y.bind f := by
  cases h with
  | none => rfl
  | some h => exact hf _ _ h

theorem Respells.name?_eq (h : c.Respells d) : c.name? = d.name? := by
  rw [name?, name?, Option.map_eq_bind, Option.map_eq_bind]
  refine bind_eq_of_rel (h.rel_child? .name) fun a b hab => ?_
  simp only [Function.comp_apply, word, text_of_sameText hab]

end

end Source.Node

namespace TypeExpr

/-! ### Types -/

variable {a b : Node} (pre path : String)

theorem ofPlain_of_agrees (h : a.sameText b = true) : ofPlain pre a = ofPlain pre b := by
  simp only [ofPlain, Node.word, Node.kind?_of_agrees h, Node.text_of_sameText h]

theorem wrapperOf_of_agrees (h : a.sameText b = true) : wrapperOf a = wrapperOf b := by
  rw [wrapperOf, wrapperOf]
  generalize a.members = cs, b.members = ds, Node.members_of_agrees h = hmembers
  match cs, ds, hmembers with
  | [], [], _ => rfl
  | [_], [_], _ => rfl
  | [name, arguments], [name', arguments'], .cons hname (.cons harguments _) =>
    simp only [Node.is, Node.kind?_of_agrees harguments, Node.text_of_sameText hname]
    generalize arguments.members = cs, arguments'.members = ds,
      Node.members_of_agrees harguments = hmembers
    match cs, ds, hmembers with
    | [], [], _ => rfl
    | [_], [_], _ => rfl
    | _ :: _ :: _, _ :: _ :: _, _ => rfl
  | _ :: _ :: _ :: _, _ :: _ :: _ :: _, _ => rfl

theorem toOption_located {α : Type} (x : Except Problem α) :
    (located path a x).toOption = x.toOption := by
  cases x <;> rfl

mutual

/-- Nodes with the same text have the same type. -/
theorem toOption_ofNode_of_sameText : (a b : Node) → a.sameText b = true →
    (ofNode pre path a).toOption = (ofNode pre path b).toOption
  | .leaf .., .leaf .., h => by
    rw [ofNode, ofNode, toOption_located, toOption_located, ofPlain_of_agrees pre h]
  | .tree g r k l cs, .tree g' r' k' l' ds, h => by
    have hwrapper := wrapperOf_of_agrees h
    have hplain := ofPlain_of_agrees pre h
    simp only [Node.sameText, Node.agrees, Bool.and_eq_true, beq_iff_eq] at h
    obtain ⟨⟨rfl, rfl⟩, hall⟩ := h
    have hinner := toOption_inGeneric cs ds hall
    rw [ofNode, ofNode]
    split
    · rw [hwrapper]
      cases wrapperOf (.tree g' r k l' ds) with
      | error p => rfl
      | ok w => rw [Fallible.toOption_map, Fallible.toOption_map, hinner]
    · rw [toOption_located, toOption_located, hplain]
  | .leaf .., .tree .., h => by simp [Node.sameText, Node.agrees] at h
  | .tree .., .leaf .., h => by simp [Node.sameText, Node.agrees] at h

theorem toOption_inGeneric : (cs ds : List Node) →
    Node.agreeAll (fun g h => g == h) cs ds = true →
      (inGeneric pre path cs).toOption = (inGeneric pre path ds).toOption
  | [], [], _ => rfl
  | c :: cs, d :: ds, h => by
    simp only [Node.agreeAll, Bool.and_eq_true] at h
    rw [inGeneric, inGeneric, Node.is, Node.is, Node.kind?_of_agrees h.1.2]
    split
    · exact toOption_inArguments c d h.1.2
    · exact toOption_inGeneric cs ds h.2
  | [], _ :: _, h => by simp [Node.agreeAll] at h
  | _ :: _, [], h => by simp [Node.agreeAll] at h

theorem toOption_inArguments : (a b : Node) → a.sameText b = true →
    (inArguments pre path a).toOption = (inArguments pre path b).toOption
  | .leaf .., .leaf .., _ => rfl
  | .tree _ _ _ _ cs, .tree _ _ _ _ ds, h => by
    simp only [Node.sameText, Node.agrees, Bool.and_eq_true] at h
    exact toOption_ofFirst cs ds h.2
  | .leaf .., .tree .., h => by simp [Node.sameText, Node.agrees] at h
  | .tree .., .leaf .., h => by simp [Node.sameText, Node.agrees] at h

theorem toOption_ofFirst : (cs ds : List Node) →
    Node.agreeAll (fun g h => g == h) cs ds = true →
      (ofFirst pre path cs).toOption = (ofFirst pre path ds).toOption
  | [], [], _ => rfl
  | c :: cs, d :: ds, h => by
    simp only [Node.agreeAll, Bool.and_eq_true] at h
    rw [ofFirst, ofFirst, Node.isNamed, Node.isNamed, Node.isComment, Node.isComment,
      Node.kind?_of_agrees h.1.2]
    split
    · exact toOption_ofNode_of_sameText c d h.1.2
    · exact toOption_ofFirst cs ds h.2
  | [], _ :: _, h => by simp [Node.agreeAll] at h
  | _ :: _, [], h => by simp [Node.agreeAll] at h

end

end TypeExpr

namespace Field

/-! ### Fields -/

/-- The name and the type of a component that has a field. -/
def parts? (pre path : String) (component : Node) : Option (String × TypeExpr) :=
  if component.is .formalParameter then
    component.name?.bind fun name => (component.child? .typeOf).bind fun type =>
      (TypeExpr.ofNode pre path type).toOption.map fun t => (name, t)
  else none

/-- The field with a name and a type, for a component with the given annotations. -/
def ofParts (marks : List (List Char)) (parts : String × TypeExpr) : Field where
  name := through snakeCase parts.1
  type := parts.2
  default := if marks.contains nonNullMark then defaultOf parts.2 else none
  deprecated := marks.contains deprecatedMark

section

variable {pre path : String} {c d : Node}

theorem ofComponent_eq_ok_iff {f : Field} : ofComponent pre path c = .ok f ↔
    ∃ parts, parts? pre path c = some parts ∧ ofParts (marksOf c) parts = f := by
  rw [ofComponent, parts?]
  split
  · cases c.name? with
    | none => simp
    | some name =>
      cases c.child? .typeOf with
      | none => simp
      | some type =>
        cases htype : TypeExpr.ofNode pre path type <;>
          simp [htype, Except.map, Except.toOption, ofParts]
  · simp

theorem exists_ofComponent_eq_ok_iff :
    (∃ f, ofComponent pre path c = .ok f) ↔ ∃ parts, parts? pre path c = some parts := by
  simp only [ofComponent_eq_ok_iff]
  constructor
  · rintro ⟨-, parts, hparts, -⟩
    exact ⟨parts, hparts⟩
  · rintro ⟨parts, hparts⟩
    exact ⟨_, parts, hparts, rfl⟩

/-- Both spellings have the same name and the same type. -/
theorem parts?_of_respells (h : c.Respells d) : parts? pre path c = parts? pre path d := by
  rw [parts?, parts?, Node.is, Node.is, h.1, h.name?_eq]
  split
  · congr 1
    funext name
    refine Node.bind_eq_of_rel (h.rel_child? .typeOf) fun a b hab => ?_
    rw [TypeExpr.toOption_ofNode_of_sameText pre path a b hab]
  · rfl

/-- An annotation is found exactly where it is written as one word. -/
theorem contains_marksOf_iff {mark : List Char} (hne : mark ≠ [])
    (hblank : mark.any isBlank = false) :
    (marksOf c).contains mark = true ↔ c.Shows mark := by
  rw [List.contains_iff_mem]
  change mark ∈ c.annotations.map _ ↔ _
  simp only [List.mem_map, collapse_eq_iff hne hblank]
  rfl

/-- **What the layout of annotations can change.**  A component has a field in both spellings or in
none of them, with the same name, the same type and the same annotations.  Its default is the same
exactly if it can have none, or if both spellings or none of them have as one word the annotation
that leaves it out without a value; and the deprecation is the same exactly if both or none of them
have the annotation of that as one word. -/
theorem layout_of_annotations (h : c.Respells d) (pre path : String) :
    ((∃ f, ofComponent pre path c = .ok f) ↔ ∃ f, ofComponent pre path d = .ok f) ∧
      (∀ mark, c.Bears mark ↔ d.Bears mark) ∧
        ∀ f g, ofComponent pre path c = .ok f → ofComponent pre path d = .ok g →
          g.name = f.name ∧ g.type = f.type ∧
            (g.default = f.default ↔
              defaultOf f.type = none ∨ (c.Shows nonNullMark ↔ d.Shows nonNullMark)) ∧
            (g.deprecated = f.deprecated ↔
              (c.Shows deprecatedMark ↔ d.Shows deprecatedMark)) := by
  have hnonNull : ∀ {n : Node}, (marksOf n).contains nonNullMark = true ↔ n.Shows nonNullMark :=
    contains_marksOf_iff (by decide) (by decide)
  have hdeprecated : ∀ {n : Node},
      (marksOf n).contains deprecatedMark = true ↔ n.Shows deprecatedMark :=
    contains_marksOf_iff (by decide) (by decide)
  refine ⟨?_, h.bears_iff, fun f g hf hg => ?_⟩
  · rw [exists_ofComponent_eq_ok_iff, exists_ofComponent_eq_ok_iff, parts?_of_respells h]
  · obtain ⟨parts, hparts, rfl⟩ := ofComponent_eq_ok_iff.mp hf
    obtain ⟨parts', hparts', rfl⟩ := ofComponent_eq_ok_iff.mp hg
    obtain rfl : parts = parts' := by
      rw [parts?_of_respells h, hparts'] at hparts
      exact (Option.some.inj hparts).symm
    refine ⟨rfl, rfl, ?_, ?_⟩
    · simp only [ofParts, hnonNull]
      by_cases hc : c.Shows nonNullMark <;> by_cases hd : d.Shows nonNullMark <;>
        simp [hc, hd, eq_comm]
    · simp only [ofParts]
      rw [Bool.eq_iff_iff, hdeprecated, hdeprecated]
      exact iff_comm

end

/-- A component with two annotations, on one line. -/
def onOneLine : String :=
  "record JsonT(@Deprecated @JsonInclude(JsonInclude.Include.NON_NULL) String name) \x7b\x7d"

/-- The component with its annotations on lines of their own. -/
def onThreeLines : String :=
  "record JsonT(@Deprecated\n\t@JsonInclude(JsonInclude.Include.NON_NULL)\n  String name) \x7b\x7d"

/-- The component with blanks between the tokens of an annotation. -/
def withBlanks : String :=
  "record JsonT(@Deprecated @JsonInclude( JsonInclude.Include.NON_NULL ) String name) \x7b\x7d"

/-- Whether two texts have components, the second one the first one respelled, with the relation. -/
def hasSpellings (text other : String) (r : Node → Node → Bool) : Bool :=
  File.hasNode text fun c => c.is .formalParameter && File.hasNode other fun d =>
    decide (c.Respells d) && r c d

theorem exists_of_hasSpellings {text other : String} {r : Node → Node → Bool}
    (h : hasSpellings text other r = true) (path : String) :
    ∃ file file' c d, File.ofText? path text = some file ∧ File.ofText? path other = some file' ∧
      c ∈ file.root.preorder ∧ d ∈ file'.root.preorder ∧ c.Respells d ∧ r c d = true := by
  obtain ⟨file, c, hfile, hc, h⟩ := File.exists_of_hasNode h path
  obtain ⟨-, h⟩ := Bool.and_eq_true_iff.mp h
  obtain ⟨file', d, hfile', hd, h⟩ := File.exists_of_hasNode h path
  obtain ⟨hrespells, h⟩ := Bool.and_eq_true_iff.mp h
  exact ⟨file, file', c, d, hfile, hfile', hc, hd, of_decide_eq_true hrespells, h⟩

theorem hasSpellings_onThreeLines :
    hasSpellings onOneLine onThreeLines (fun c d =>
      decide (c.Shows nonNullMark ∧ d.Shows nonNullMark ∧ c.Shows deprecatedMark ∧
          d.Shows deprecatedMark) &&
        (ofComponent "Json" "JsonT.java" c).toOption.any fun f =>
          f.default == some .noValue && f.deprecated) = true := by
  decide +kernel

/-- Line ends around annotations change nothing. -/
theorem onThreeLines_layout_of_annotations :
    ∃ file file' c d f g, File.ofText? "JsonT.java" onOneLine = some file ∧
      File.ofText? "JsonT.java" onThreeLines = some file' ∧ c ∈ file.root.preorder ∧
        d ∈ file'.root.preorder ∧ c.Respells d ∧ ofComponent "Json" "JsonT.java" c = .ok f ∧
          ofComponent "Json" "JsonT.java" d = .ok g ∧
            f.default = some .noValue ∧ f.deprecated = true ∧ g = f := by
  obtain ⟨file, file', c, d, hfile, hfile', hc, hd, hrespells, h⟩ :=
    exists_of_hasSpellings hasSpellings_onThreeLines "JsonT.java"
  obtain ⟨hshows, h⟩ := Bool.and_eq_true_iff.mp h
  obtain ⟨hnonNull, hnonNull', hdeprecated, hdeprecated'⟩ := of_decide_eq_true hshows
  obtain ⟨f, hf, h⟩ := Fallible.exists_of_any_toOption h
  obtain ⟨hdefault, hflag⟩ := Bool.and_eq_true_iff.mp h
  obtain ⟨hok, -, hsame⟩ := layout_of_annotations hrespells "Json" "JsonT.java"
  obtain ⟨g, hg⟩ := hok.mp ⟨f, hf⟩
  obtain ⟨hname, htype, hsame, hsame'⟩ := hsame f g hf hg
  refine ⟨file, file', c, d, f, g, hfile, hfile', hc, hd, hrespells, hf, hg,
    beq_iff_eq.mp hdefault, hflag, ?_⟩
  cases f
  cases g
  simp_all

theorem hasSpellings_withBlanks :
    hasSpellings onOneLine withBlanks (fun c d =>
      ((ofComponent "Json" "JsonT.java" c).toOption.any fun f => f.default == some .noValue) &&
        (ofComponent "Json" "JsonT.java" d).toOption.any fun g => g.default == none) = true := by
  decide +kernel

/-- With blanks between its tokens an annotation is not found. -/
theorem default_lost_to_blanks :
    ∃ file file' c d f g, File.ofText? "JsonT.java" onOneLine = some file ∧
      File.ofText? "JsonT.java" withBlanks = some file' ∧ c ∈ file.root.preorder ∧
        d ∈ file'.root.preorder ∧ c.Respells d ∧ ofComponent "Json" "JsonT.java" c = .ok f ∧
          ofComponent "Json" "JsonT.java" d = .ok g ∧
            f.default = some .noValue ∧ g.default = none := by
  obtain ⟨file, file', c, d, hfile, hfile', hc, hd, hrespells, h⟩ :=
    exists_of_hasSpellings hasSpellings_withBlanks "JsonT.java"
  obtain ⟨hf, hg⟩ := Bool.and_eq_true_iff.mp h
  obtain ⟨f, hf, hdefault⟩ := Fallible.exists_of_any_toOption hf
  obtain ⟨g, hg, hdefault'⟩ := Fallible.exists_of_any_toOption hg
  exact ⟨file, file', c, d, f, g, hfile, hfile', hc, hd, hrespells, hf, hg,
    beq_iff_eq.mp hdefault, beq_iff_eq.mp hdefault'⟩

end Field

end RpcBindings
