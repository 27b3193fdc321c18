import RpcBindings.Proofs.Lexical
import RpcBindings.Proofs.Pieces
import RpcBindings.Proofs.Tree
import RpcBindings.TypeExpr.OfSource

/-!
# The nodes of mapped types

How the type of a node is found, for generic types in terms of their argument and for names in
terms of the words that they consist of.  A dotted type is mapped by its text, so that its words
have to be found again between the dots.

## Main definitions

* `Node.IsGeneric` — the name and the sole argument of a generic type.
* `Node.Names` — the words of a name, or of names with dots between them.

## Main results

* `TypeExpr.ofNode_generic`, `TypeExpr.ofNode_of_ne` — the type of a generic type and of any other
  node.
* `Node.Names.map_trim_splitOn` — **the words of a dotted type are found in its text.**
-/

namespace RpcBindings

open Text Source

namespace Source.Node

/-- The generic type consists of a name and of type arguments with one argument. -/
def IsGeneric (n name argument : Node) : Prop :=
  n.kind? = some .genericType ∧ ∃ arguments, n.members = [name, arguments] ∧
    arguments.kind? = some .typeArguments ∧ arguments.members = [argument]

/-- The node is a name, or consists of names with dots between them and of blanks around the dots;
these are its words. -/
inductive Names : Node → List (List Char) → Prop
  | simple {n : Node} (hkind : n.kind? = some .typeIdentifier) (hword : Token.IsWord n.text) :
    Names n [n.text]
  | dotted {n q dot name : Node} {ws : List (List Char)}
    (hkind : n.kind? = some .scopedTypeIdentifier) (hchildren : n.children = [q, dot, name])
    (hgaps : ∀ c ∈ [q, dot, name], ∀ b ∈ c.gap, isBlank b = true) (hq : Names q ws)
    (hdot : dot.text = ['.']) (hname : name.kind? = some .typeIdentifier)
    (hword : Token.IsWord name.text) : Names n (ws ++ [name.text])

theorem Names.isWord {n : Node} {ws : List (List Char)} (h : n.Names ws) :
    ∀ w ∈ ws, Token.IsWord w := by
  induction h with
  | simple _ hword => exact List.forall_mem_singleton.mpr hword
  | dotted _ _ _ _ _ _ hword ih =>
    exact List.forall_mem_append.mpr ⟨ih, List.forall_mem_singleton.mpr hword⟩

theorem splitOn_word {before w after : List Char} (hbefore : ∀ c ∈ before, isBlank c = true)
    (hw : Token.IsWord w) (hafter : ∀ c ∈ after, isBlank c = true) :
    (splitOn '.' (before ++ w ++ after)).map trim = [w] := by
  have hblank : ∀ c ∈ w, isBlank c = false := by
    intro c hc
    cases h : isBlank c with
    | false => rfl
    | true =>
      have hcontinues := hw.continuesWord c hc
      rw [Token.continuesWord_of_isBlank h] at hcontinues
      cases hcontinues
  have hdot : '.' ∉ before ++ w ++ after := by
    simp only [List.mem_append, not_or]
    refine ⟨⟨fun h => ?_, fun h => ?_⟩, fun h => ?_⟩
    · exact absurd (hbefore _ h) (by decide)
    · exact absurd (hw.continuesWord _ h) (by decide)
    · exact absurd (hafter _ h) (by decide)
  rw [splitOn_of_notMem hdot, List.map_singleton, trim_of_blanks hbefore hblank hafter]

/-- **The words of a dotted type are found in its text**, whatever blanks stand around it. -/
theorem Names.map_trim_splitOn {n : Node} {ws : List (List Char)} (h : n.Names ws)
    {before after : List Char} (hbefore : ∀ c ∈ before, isBlank c = true)
    (hafter : ∀ c ∈ after, isBlank c = true) :
    (splitOn '.' (before ++ n.text ++ after)).map trim = ws := by
  -- the blanks vary, since the gap of the dot comes behind what is in front of the dot
  induction h generalizing before after with
  | simple hkind hword => exact splitOn_word hbefore hword hafter
  | @dotted n q dot name ws hkind hchildren hgaps hq hdot hname hword ih =>
    simp only [List.forall_mem_cons, List.not_mem_nil, IsEmpty.forall_iff, implies_true,
      and_true] at hgaps
    obtain ⟨hgap, hgapDot, hgapName⟩ := hgaps
    have htext : before ++ n.text ++ after =
        (before ++ q.gap ++ q.text ++ dot.gap) ++ '.' :: (name.gap ++ name.text ++ after) := by
      cases n with
      | leaf => cases hchildren
      | tree g r k l cs =>
        cases hchildren
        simp [text, sources, hdot]
    have hfirst := ih (List.forall_mem_append.mpr ⟨hbefore, hgap⟩) hgapDot
    rw [htext, splitOn_append_cons, List.map_append, hfirst, splitOn_word hgapName hword hafter]

end Source.Node

namespace TypeExpr

variable {pre path : String}

/-! ### Generic types -/

theorem inGeneric_eq (cs : List Node) :
    inGeneric pre path cs = match cs.find? fun c => c.is .typeArguments with
      | some c => inArguments pre path c
      | none => .error .malformedSource := by
  induction cs with
  | nil => rfl
  | cons c cs ih =>
    rw [inGeneric, List.find?_cons]
    cases c.is .typeArguments with
    | true => rfl
    | false => exact ih

theorem inArguments_eq (n : Node) :
    inArguments pre path n = match n.members.head? with
      | some c => ofNode pre path c
      | none => .error .malformedSource := by
  have hfirst : ∀ cs : List Node, ofFirst pre path cs =
      match (cs.filter fun c => c.isNamed && !c.isComment).head? with
        | some c => ofNode pre path c
        | none => .error .malformedSource := by
    intro cs
    induction cs with
    | nil => rfl
    | cons c cs ih =>
      rw [ofFirst, List.filter_cons]
      split
      · rfl
      · exact ih
  cases n with
  | leaf => rfl
  | tree g r k l cs => exact hfirst cs

/-- The first child that holds type arguments is found among the members. -/
theorem find?_typeArguments {n name arguments : Node} (hmembers : n.members = [name, arguments])
    (hname : name.kind? ≠ some .typeArguments) (harguments : arguments.kind? = some .typeArguments) :
    (n.children.find? fun c => c.is .typeArguments) = some arguments := by
  -- a node that holds type arguments is a member, whatever else the children are
  have hsame : ∀ c : Node, decide ((c.isNamed && !c.isComment) = true ∧
      c.is .typeArguments = true) = c.is .typeArguments := by
    intro c
    rw [Bool.eq_iff_iff, decide_eq_true_eq]
    refine and_iff_right_of_imp fun h => ?_
    rw [Node.is, beq_iff_eq] at h
    rw [Node.isNamed, Node.isComment, h]
    rfl
  have hfind : n.members.find? (fun c => c.is .typeArguments) = some arguments := by
    rw [hmembers, List.find?_cons_of_neg (by simpa [Node.is] using hname)]
    simp [Node.is, harguments]
  simpa only [Node.members, List.find?_filter, hsame] using hfind

/-- The type of a generic type is what its wrapper makes of the type of its argument. -/
theorem ofNode_generic {n name argument : Node} (h : n.IsGeneric name argument)
    (hname : name.kind? ≠ some .typeArguments) {w : Wrapper} (hw : wrapper? name.text = some w) :
    ofNode pre path n = (ofNode pre path argument).map w.apply := by
  obtain ⟨hkind, arguments, hmembers, harguments, hargument⟩ := h
  have hfind := find?_typeArguments hmembers hname harguments
  cases n with
  | leaf => cases hmembers
  | tree g r k l cs =>
    obtain rfl : k = .genericType := by simpa [Node.kind?] using hkind
    have hwrapper : wrapperOf (.tree g r .genericType l cs) = .ok w := by
      rw [wrapperOf, hmembers]
      simp only [Node.is, harguments, beq_self_eq_true, if_true, hargument, hw]
    have hinner : inGeneric pre path cs = ofNode pre path argument := by
      rw [Node.children] at hfind
      rw [inGeneric_eq, hfind]
      simp only [inArguments_eq, hargument, List.head?_cons]
    rw [ofNode, if_pos rfl, hwrapper, ← hinner]

/-- The names of the generic types that can be mapped. -/
def wrapperNames : List String :=
  ["Optional", "List", "Set"]

theorem word_mem_of_wrapper? {n : Node} {w : Wrapper} (h : wrapper? n.text = some w) :
    n.word ∈ wrapperNames := by
  rw [Node.word]
  unfold wrapper? at h
  split at h
  · next htext => rw [htext]; decide
  · next htext => rw [htext]; decide
  · next htext => rw [htext]; decide
  · cases h

/-- A wrapper is found only for a name with one argument. -/
theorem exists_of_wrapperOf {n : Node} {w : Wrapper} (hkind : n.kind? = some .genericType)
    (h : wrapperOf n = .ok w) :
    ∃ name argument, n.IsGeneric name argument ∧ wrapper? name.text = some w := by
  unfold wrapperOf at h
  split at h
  · next name arguments hmembers =>
    split at h
    · next harguments =>
      split at h
      · next argument hargument =>
        split at h
        · next w' hw =>
          cases h
          exact ⟨name, argument, ⟨hkind, arguments, hmembers, beq_iff_eq.mp harguments, hargument⟩,
            hw⟩
        · cases h
      · cases h
    · cases h
  · cases h

/-- A generic type without a wrapper is reported. -/
theorem exists_of_wrapperOf_eq_error {n : Node} {p : Problem}
    (hkind : n.kind? = some .genericType) (h : wrapperOf n = .error p) :
    ∃ q, ofNode pre path n = .error (.atNode path n q) := by
  cases n with
  | leaf g r k l t =>
    obtain rfl : k = some .genericType := hkind
    exact ⟨.unsupportedType, rfl⟩
  | tree g r k l cs =>
    obtain rfl : k = .genericType := by simpa [Node.kind?] using hkind
    refine ⟨p, ?_⟩
    rw [ofNode, if_pos rfl, h]

/-- Every other node has the type of a plain node. -/
theorem ofNode_of_ne {n : Node} (h : n.kind? ≠ some .genericType) :
    ofNode pre path n = located path n (ofPlain pre n) := by
  cases n with
  | leaf => rfl
  | tree g r k l cs =>
    rw [ofNode, if_neg]
    rintro rfl
    exact h rfl

/-! ### Names -/

/-- A dotted type is mapped word by word if all its words have a capital. -/
theorem ofPath?_of_names (pre : String) {n : Node} {ws : List (List Char)} (h : n.Names ws) :
    ofPath? pre n.text = if ws.all isCapitalized then
      some (optional (named (ws.map fun w => unprefixed pre (String.ofList w)))) else none := by
  have hsegments : (splitOn '.' n.text).map trim = ws := by
    have hnone : ∀ c ∈ ([] : List Char), isBlank c = true := by simp
    simpa using h.map_trim_splitOn hnone hnone
  simp only [ofPath?, hsegments, orNone]

end TypeExpr

end RpcBindings
