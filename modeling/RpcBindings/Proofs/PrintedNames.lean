import RpcBindings.Proofs.Accumulation
import RpcBindings.Proofs.Atoms
import RpcBindings.Proofs.QuotedText

/-!
# Names in printed types

The names that the text of a type uses are compared with what the type makes known as its needs.
The text is read without knowledge of the type: quoted parts are skipped, and of each dotted name
the first segment is taken.

## Main definitions

* `Text.unquoted` — a text without its quoted parts.
* `Text.namesUsed` — the first segments of the dotted names in a text.
* `TypeExpr.IsPrintable` — a type whose classes have names and whose literals are quoted or `True`.

## Main results

* `TypeExpr.IsPrintable.accounts` — the names in the text of a type are what the type needs.
* `Imports.referenceType_accounts` — **what is printed is what is recorded.**
-/

namespace RpcBindings

namespace Text

/-! ### Quoted parts -/

/-- Where a reader of a text is: outside of quotes, between quotes, or behind a backslash there. -/
inductive Reading
  | code
  | quoted
  | escaped
  deriving DecidableEq, Repr

/-- The text with a blank for each quoted part. -/
def unquoted : Reading → List Char → List Char
  | _, [] => []
  | .code, c :: cs => if c == '"' then ' ' :: unquoted .quoted cs else c :: unquoted .code cs
  | .quoted, c :: cs =>
    if c == '"' then unquoted .code cs
    else if c == '\\' then unquoted .escaped cs
    else unquoted .quoted cs
  | .escaped, _ :: cs => unquoted .quoted cs

/-- No quoted part of the text goes on behind its end. -/
def IsComplete (cs : List Char) : Prop :=
  ∀ ds, unquoted .code (cs ++ ds) = unquoted .code cs ++ unquoted .code ds

variable {cs ds : List Char}

theorem unquoted_of_notMem (hcs : '"' ∉ cs) (ds : List Char) :
    unquoted .code (cs ++ ds) = cs ++ unquoted .code ds := by
  induction cs with
  | nil => rfl
  | cons c cs ih =>
    obtain ⟨hc, hcs⟩ := not_or.mp fun h => hcs (List.mem_cons.mpr h)
    rw [List.cons_append, unquoted, if_neg (by simpa using Ne.symm hc), ih hcs]
    rfl

theorem unquoted_eq_self (hcs : '"' ∉ cs) : unquoted .code cs = cs := by
  have h := unquoted_of_notMem hcs []
  rwa [List.append_nil, unquoted, List.append_nil] at h

theorem isComplete_of_notMem (hcs : '"' ∉ cs) : IsComplete cs := by
  intro ds
  rw [unquoted_of_notMem hcs, unquoted_eq_self hcs]

theorem IsComplete.append (hcs : IsComplete cs) (hds : IsComplete ds) : IsComplete (cs ++ ds) := by
  intro es
  rw [List.append_assoc, hcs, hds, hcs, List.append_assoc]

/-- The escapes of a text are skipped up to the closing quote. -/
theorem unquoted_flatMap_escape (s ds : List Char) :
    unquoted .quoted (s.flatMap Literal.escape ++ '"' :: ds) = unquoted .code ds := by
  induction s with
  | nil => rfl
  | cons c s ih =>
    rw [List.flatMap_cons, List.append_assoc]
    rcases Literal.escape_cases c with ⟨h, hbackslash, hquote, -⟩ | ⟨d, h, -, hd, -⟩
    · rw [h, List.singleton_append, unquoted, if_neg (by simpa using hquote),
        if_neg (by simpa using hbackslash), ih]
    · rw [h]
      exact ih

theorem unquoted_quote_append (s ds : List Char) :
    unquoted .code (Literal.quote s ++ ds) = ' ' :: unquoted .code ds := by
  have hopen : ∀ cs, unquoted .code ('"' :: cs) = ' ' :: unquoted .quoted cs := fun _ => rfl
  rw [Literal.quote, List.append_assoc, List.cons_append, hopen]
  exact congrArg _ (unquoted_flatMap_escape s ds)

theorem unquoted_quote (s : List Char) : unquoted .code (Literal.quote s) = [' '] := by
  have h := unquoted_quote_append s []
  rwa [List.append_nil] at h

theorem isComplete_quote (s : List Char) : IsComplete (Literal.quote s) := by
  intro ds
  rw [unquoted_quote_append, unquoted_quote]
  rfl

/-! ### Names -/

/-- The first segment of a word, if it is an identifier. -/
def firstName? : Atom → Option (List Char)
  | .word w => (splitOn '.' w).head?.filter Identifier.isName
  | .sign _ => none

/-- The first segments of the dotted names in a text, quoted parts skipped. -/
def namesUsed (cs : List Char) : List (List Char) :=
  (atoms (unquoted .code cs)).filterMap firstName?

/-- A sign cuts a text into two parts with names of their own. -/
theorem namesUsed_append_sign (hcs : IsComplete cs) {c : Char} (hc : isWordChar c = false)
    (hquote : c ≠ '"') (ds : List Char) :
    namesUsed (cs ++ c :: ds) = namesUsed cs ++ namesUsed ds := by
  have hcons : unquoted .code (c :: ds) = c :: unquoted .code ds := by
    rw [unquoted, if_neg (by simpa using hquote)]
  rw [namesUsed, hcs, hcons, atoms_append_sign hc, List.filterMap_append]
  rfl

/-- A text in brackets behind a name. -/
theorem bracketed {inner : List Char} (head : List Char) (c : Char) (tail : List Char)
    (hhead : '"' ∉ head) (hinner : IsComplete inner) (hc : isWordChar c = false)
    (htail : '"' ∉ c :: tail) :
    IsComplete (head ++ '[' :: (inner ++ c :: tail)) ∧
      namesUsed (head ++ '[' :: (inner ++ c :: tail)) =
        namesUsed head ++ (namesUsed inner ++ namesUsed tail) := by
  have hhead := isComplete_of_notMem hhead
  have hbracket : IsComplete ['['] := isComplete_of_notMem (by decide)
  refine ⟨hhead.append (hbracket.append (hinner.append (isComplete_of_notMem htail))), ?_⟩
  rw [namesUsed_append_sign hhead (by decide) (by decide), namesUsed_append_sign hinner hc]
  rintro rfl
  exact htail List.mem_cons_self

theorem namesUsed_quote (s : List Char) : namesUsed (Literal.quote s) = [] := by
  rw [namesUsed, unquoted_quote]
  decide

theorem dot_notMem_of_isName {w : List Char} (hw : Identifier.isName w = true) : '.' ∉ w := by
  intro hmem
  cases w with
  | nil => cases hw
  | cons c w =>
    obtain ⟨hc, hw⟩ := Bool.and_eq_true_iff.mp hw
    rcases List.mem_cons.mp hmem with rfl | hmem
    · exact absurd hc (by decide)
    · exact absurd (List.all_eq_true.mp hw _ hmem) (by decide)

theorem isWordChar_of_mem_intercalate {ws : List (List Char)}
    (hws : ∀ w ∈ ws, Identifier.isName w = true) :
    ∀ c ∈ ['.'].intercalate ws, isWordChar c = true := by
  induction ws with
  | nil => simp
  | cons w ws ih =>
    obtain ⟨hw, hws⟩ := List.forall_mem_cons.mp hws
    have hword := isWordChar_of_isName hw
    cases ws with
    | nil => simpa using hword
    | cons v ws =>
      rw [List.intercalate_cons_cons, List.forall_mem_append, List.forall_mem_append]
      exact ⟨⟨hword, List.forall_mem_singleton.mpr (by decide)⟩, ih hws⟩

theorem splitOn_intercalate_cons {w : List Char} (hw : '.' ∉ w) (ws : List (List Char)) :
    (splitOn '.' (['.'].intercalate (w :: ws))).head? = some w := by
  cases ws with
  | nil => rw [List.intercalate_singleton, splitOn_of_notMem hw, List.head?_cons]
  | cons v ws =>
    rw [List.intercalate_cons_cons, List.append_assoc, List.singleton_append,
      splitOn_append_cons, splitOn_of_notMem hw]
    rfl

/-- A text of word characters is complete. -/
theorem quote_notMem_of_word {w : List Char} (hw : ∀ c ∈ w, isWordChar c = true) : '"' ∉ w :=
  fun hmem => absurd (hw _ hmem) (by decide)

/-- A dotted name is used by its first segment. -/
theorem namesUsed_dotted {w : List Char} {ws : List (List Char)}
    (hws : ∀ v ∈ w :: ws, Identifier.isName v = true) :
    namesUsed (['.'].intercalate (w :: ws)) = [w] := by
  have hword := isWordChar_of_mem_intercalate hws
  have hname := hws w List.mem_cons_self
  have hne : ['.'].intercalate (w :: ws) ≠ [] := by
    cases w with
    | nil => cases hname
    | cons c w => cases ws <;> simp [List.intercalate_cons_cons]
  have hhead := splitOn_intercalate_cons (dot_notMem_of_isName hname) ws
  rw [namesUsed, unquoted_eq_self (quote_notMem_of_word hword), atoms_of_word hne hword]
  rw [List.filterMap_cons, firstName?, hhead, Option.filter_some, if_pos hname]
  rfl

end Text

namespace TypeExpr

open Text

/-! ### The names in the text of a type -/

/-- The class of literal types. -/
def literalName : String :=
  "Literal"

/-- The names in printed types that are no classes. -/
def builtins : List String :=
  ["str", "int", "float", "bool", "bytes", "tuple", "None", "True"]

/-- The type can be printed as a type: classes are dotted names, which do not start with a name that
has another meaning, and literals are `True` or quoted texts. -/
def IsPrintable : TypeExpr → Prop
  | named path =>
    ∃ w ws, path = w :: ws ∧ (∀ s ∈ w :: ws, Identifier.isName s.toList = true) ∧
      w ∉ builtins ∧ w ≠ literalName
  | literal values => ∀ v ∈ values, v = "True" ∨ ∃ s, v = String.ofList (Literal.quote s)
  | optional t | tuple t | nonEmptyTuple t => t.IsPrintable
  | _ => True

/-- The names that the text of a type uses, without those that are no classes. -/
def printedNames (text : String) : List String :=
  ((namesUsed text.toList).map String.ofList).filter fun n => !builtins.contains n

variable {t : TypeExpr} {x : String} {text : String}

theorem mem_printedNames :
    x ∈ printedNames text ↔ x ∉ builtins ∧ x.toList ∈ namesUsed text.toList := by
  rw [printedNames, List.mem_filter, Bool.not_eq_true', List.contains_eq_mem,
    decide_eq_false_iff_not, and_comm]
  refine and_congr_right fun _ => ?_
  rw [List.mem_map]
  constructor
  · rintro ⟨w, hw, rfl⟩
    rwa [String.toList_ofList]
  · exact fun h => ⟨x.toList, h, String.ofList_toList⟩

/-- The names that a type makes known as its needs, with the class of its literals. -/
def Needs (t : TypeExpr) (x : String) : Prop :=
  (x = literalName ∧ t.usesLiteral = true) ∨ x ∈ Imports.classesOf t

theorem mem_classesOf_nonEmptyTuple :
    x ∈ Imports.classesOf (nonEmptyTuple t) ↔ x = "NonEmptyTuple" ∨ x ∈ Imports.classesOf t := by
  simp only [Imports.classesOf, usesNonEmptyTuple, references, if_true, List.mem_append,
    List.mem_singleton]
  cases t.usesNonEmptyTuple <;> simp

theorem needs_nonEmptyTuple : Needs (nonEmptyTuple t) x ↔ x = "NonEmptyTuple" ∨ Needs t x := by
  rw [Needs, Needs, mem_classesOf_nonEmptyTuple, or_left_comm]
  rfl

/-- The values of a literal type are complete, and use no name but `True`. -/
theorem namesUsed_values {values : List String}
    (h : ∀ v ∈ values, v = "True" ∨ ∃ s, v = String.ofList (Literal.quote s)) :
    IsComplete (", ".intercalate values).toList ∧
      ∀ w ∈ namesUsed (", ".intercalate values).toList, w = "True".toList := by
  have hvalue : ∀ v, (v = "True" ∨ ∃ s, v = String.ofList (Literal.quote s)) →
      IsComplete v.toList ∧ ∀ w ∈ namesUsed v.toList, w = "True".toList := by
    rintro v (rfl | ⟨s, rfl⟩)
    · exact ⟨isComplete_of_notMem (by decide), by decide⟩
    · rw [String.toList_ofList, namesUsed_quote]
      exact ⟨isComplete_quote s, by simp⟩
  rw [String.toList_intercalate]
  induction values with
  | nil => exact ⟨isComplete_of_notMem (by simp), by decide⟩
  | cons v values ih =>
    obtain ⟨hv, hvalues⟩ := List.forall_mem_cons.mp h
    obtain ⟨hcomplete, hnames⟩ := hvalue v hv
    cases values with
    | nil => simpa using ⟨hcomplete, hnames⟩
    | cons v' values =>
      obtain ⟨ihcomplete, ihnames⟩ := ih hvalues
      have hsep : IsComplete ", ".toList := isComplete_of_notMem (by decide)
      have hsplit : ∀ cs : List Char, v.toList ++ ", ".toList ++ cs =
          v.toList ++ ',' :: ([] ++ ' ' :: cs) := by
        simp
      rw [List.map_cons, List.map_cons, List.intercalate_cons_cons]
      refine ⟨(hcomplete.append hsep).append ihcomplete, ?_⟩
      rw [hsplit, namesUsed_append_sign hcomplete (by decide) (by decide),
        namesUsed_append_sign (isComplete_of_notMem (by simp)) (by decide) (by decide)]
      exact List.forall_mem_append.mpr ⟨hnames, List.forall_mem_append.mpr ⟨by decide, ihnames⟩⟩

/-- The text of the type has no open quotes, and uses the names that the type needs. -/
structure Accounts (t : TypeExpr) : Prop where
  complete : IsComplete t.render.toList
  printed : ∀ x, x ∈ printedNames t.render ↔ Needs t x

theorem accounts_named {w : String} {ws : List String}
    (hws : ∀ s ∈ w :: ws, Identifier.isName s.toList = true) (hbuiltin : w ∉ builtins) :
    Accounts (named (w :: ws)) := by
  have hnames : ∀ v ∈ w.toList :: ws.map String.toList, Identifier.isName v = true := by
    simpa using hws
  have htext : (named (w :: ws)).render.toList =
      ['.'].intercalate (w.toList :: ws.map String.toList) := by
    rw [render, String.toList_intercalate]
    rfl
  have hword := isWordChar_of_mem_intercalate hnames
  refine ⟨htext ▸ isComplete_of_notMem (quote_notMem_of_word hword), fun x => ?_⟩
  rw [mem_printedNames, htext, namesUsed_dotted hnames, List.mem_singleton, String.toList_inj]
  simp only [Needs, Imports.classesOf, usesLiteral, usesNonEmptyTuple, references, reduceCtorEq,
    and_false, false_or, if_false, List.nil_append, List.filterMap_cons, List.head?_cons,
    List.filterMap_nil, List.mem_singleton]
  constructor
  · exact And.right
  · rintro rfl
    exact ⟨hbuiltin, rfl⟩

theorem accounts_literal {values : List String}
    (h : ∀ v ∈ values, v = "True" ∨ ∃ s, v = String.ofList (Literal.quote s)) :
    Accounts (literal values) := by
  obtain ⟨hcomplete, hnames⟩ := namesUsed_values h
  have htext : (literal values).render.toList =
      "Literal".toList ++ '[' :: ((", ".intercalate values).toList ++ ']' :: []) := by
    simp [render]
  obtain ⟨hcomplete, hused⟩ := bracketed "Literal".toList ']' [] (by decide) hcomplete (by decide) (by decide)
  refine ⟨htext ▸ hcomplete, fun x => ?_⟩
  · rw [mem_printedNames, htext, hused]
    have hliteral : namesUsed "Literal".toList = ["Literal".toList] := by decide
    have hnil : namesUsed [] = [] := rfl
    simp only [Needs, Imports.classesOf, usesLiteral, usesNonEmptyTuple, references, hliteral, hnil,
      List.append_nil, List.singleton_append, List.mem_cons, String.toList_inj]
    constructor
    · rintro ⟨hbuiltin, rfl | hx⟩
      · exact .inl ⟨rfl, trivial⟩
      · -- the values of the type use no name but the one that is left out
        have htrue := String.toList_inj.mp (hnames _ hx)
        exact absurd htrue fun heq => hbuiltin (heq ▸ by decide)
    · rintro (⟨rfl, -⟩ | hx)
      · exact ⟨by decide, .inl rfl⟩
      · simp at hx

theorem Accounts.optional (h : Accounts t) : Accounts (optional t) := by
  have htext : (TypeExpr.optional t).render.toList = t.render.toList ++ ' ' :: "| None".toList := by
    simp [render]
  refine ⟨?_, fun x => ?_⟩
  · rw [htext]
    exact h.complete.append (isComplete_of_notMem (by decide))
  · have hnone : namesUsed "| None".toList = ["None".toList] := by decide
    have hneeds : Needs (TypeExpr.optional t) x ↔ Needs t x := Iff.rfl
    rw [hneeds, ← h.printed, mem_printedNames, mem_printedNames, htext,
      namesUsed_append_sign h.complete (by decide) (by decide), hnone, List.mem_append,
      List.mem_singleton, String.toList_inj]
    refine and_congr_right fun hbuiltin => or_iff_left ?_
    rintro rfl
    exact hbuiltin (by decide)

theorem Accounts.tuple (h : Accounts t) : Accounts (tuple t) := by
  have htext : (TypeExpr.tuple t).render.toList =
      "tuple".toList ++ '[' :: (t.render.toList ++ ',' :: " ...]".toList) := by
    simp [render]
  obtain ⟨hcomplete, hused⟩ := bracketed "tuple".toList ',' " ...]".toList (by decide) h.complete (by decide) (by decide)
  refine ⟨htext ▸ hcomplete, fun x => ?_⟩
  have hnone : namesUsed " ...]".toList = [] := by decide
  have htuple : namesUsed "tuple".toList = ["tuple".toList] := by decide
  have hneeds : Needs (TypeExpr.tuple t) x ↔ Needs t x := Iff.rfl
  rw [hneeds, ← h.printed, mem_printedNames, mem_printedNames, htext, hused, hnone, htuple,
    List.append_nil, List.singleton_append, List.mem_cons, String.toList_inj]
  refine and_congr_right fun hbuiltin => or_iff_right ?_
  rintro rfl
  exact hbuiltin (by decide)

theorem Accounts.nonEmptyTuple (h : Accounts t) : Accounts (nonEmptyTuple t) := by
  have htext : (TypeExpr.nonEmptyTuple t).render.toList =
      "NonEmptyTuple".toList ++ '[' :: (t.render.toList ++ ']' :: []) := by
    simp [render]
  obtain ⟨hcomplete, hused⟩ := bracketed "NonEmptyTuple".toList ']' [] (by decide) h.complete (by decide) (by decide)
  refine ⟨htext ▸ hcomplete, fun x => ?_⟩
  have hname : namesUsed "NonEmptyTuple".toList = ["NonEmptyTuple".toList] := by decide
  have hnil : namesUsed [] = [] := rfl
  rw [needs_nonEmptyTuple, ← h.printed, mem_printedNames, mem_printedNames, htext, hused, hname,
    hnil, List.append_nil, List.singleton_append, List.mem_cons, String.toList_inj, and_or_left]
  refine or_congr_left (and_iff_right_of_imp ?_)
  rintro rfl
  decide

/-- A type that needs nothing and uses no name of a class. -/
theorem accounts_builtin (hquote : '"' ∉ t.render.toList) (hprinted : printedNames t.render = [])
    (hneeds : t.usesLiteral = false ∧ Imports.classesOf t = []) : Accounts t := by
  refine ⟨isComplete_of_notMem hquote, fun x => ?_⟩
  rw [hprinted, Needs, hneeds.1, hneeds.2]
  simp

/-- **The names in the text of a type** are the ones that it needs. -/
theorem IsPrintable.accounts (h : t.IsPrintable) : Accounts t := by
  induction t with
  | str => exact accounts_builtin (by decide) (by decide) ⟨rfl, rfl⟩
  | int => exact accounts_builtin (by decide) (by decide) ⟨rfl, rfl⟩
  | float => exact accounts_builtin (by decide) (by decide) ⟨rfl, rfl⟩
  | bool => exact accounts_builtin (by decide) (by decide) ⟨rfl, rfl⟩
  | bytes => exact accounts_builtin (by decide) (by decide) ⟨rfl, rfl⟩
  | named path =>
    obtain ⟨w, ws, rfl, hws, hbuiltin, -⟩ := h
    exact accounts_named hws hbuiltin
  | literal values => exact accounts_literal h
  | optional t ih => exact (ih h).optional
  | tuple t ih => exact (ih h).tuple
  | nonEmptyTuple t ih => exact (ih h).nonEmptyTuple

/-- No class is called as the class of literals is. -/
theorem literalName_notMem_classesOf (h : t.IsPrintable) :
    literalName ∉ Imports.classesOf t := by
  induction t with
  | str | int | float | bool | bytes | literal =>
    simp [Imports.classesOf, usesNonEmptyTuple, references]
  | named path =>
    obtain ⟨w, ws, rfl, -, -, hliteral⟩ := h
    simpa [Imports.classesOf, usesNonEmptyTuple, references] using hliteral.symm
  | optional t ih => exact ih h
  | tuple t ih => exact ih h
  | nonEmptyTuple t ih =>
    rw [mem_classesOf_nonEmptyTuple, not_or]
    exact ⟨by decide, ih h⟩

end TypeExpr

namespace Imports

open TypeExpr

variable {t : TypeExpr} {x : String}

theorem literalName_mem_printedNames_iff (h : t.IsPrintable) :
    literalName ∈ printedNames t.render ↔ t.usesLiteral = true := by
  rw [h.accounts.printed, Needs]
  simp [literalName_notMem_classesOf h]

theorem mem_classesOf_iff (h : t.IsPrintable) :
    x ∈ classesOf t ↔ x ∈ printedNames t.render ∧ x ≠ literalName := by
  rw [h.accounts.printed, Needs]
  constructor
  · intro hx
    refine ⟨.inr hx, ?_⟩
    rintro rfl
    exact literalName_notMem_classesOf h hx
  · rintro ⟨⟨heq, -⟩ | hx, hne⟩
    · exact absurd heq hne
    · exact hx

theorem modules_referenceType {i : Imports} :
    (i.referenceType t).modules =
      (if t.usesLiteral = true then i.add "typing" literalName else i).modules := by
  rw [referenceType, modules_referenceAll]
  rfl

/-- **What is printed is what is recorded.**  To accumulated imports a type adds the class of
literals exactly if its text uses it, and as references the other names that its text uses, and
nothing else.  So the names in its text are the ones that it adds to no imports at all. -/
theorem referenceType_accounts (h : t.IsPrintable) :
    (∀ i : Imports, (i.referenceType t).modules =
        (if literalName ∈ printedNames t.render then i.add "typing" literalName else i).modules ∧
      ∀ x, x ∈ (i.referenceType t).references ↔
        (x ∈ printedNames t.render ∧ x ≠ literalName) ∨ x ∈ i.references) ∧
      ∀ x, x ∈ printedNames t.render ↔
        (x = literalName ∧ literalName ∈ (({} : Imports).referenceType t).namesFrom "typing") ∨
          x ∈ (({} : Imports).referenceType t).references := by
  refine ⟨fun i => ⟨?_, fun x => ?_⟩, fun x => ?_⟩
  · simp only [literalName_mem_printedNames_iff h]
    exact modules_referenceType
  · rw [mem_references_referenceType, mem_classesOf_iff h]
  · have hliteral : literalName ∈ (({} : Imports).referenceType t).namesFrom "typing" ↔
        t.usesLiteral = true := by
      rw [namesFrom_congr modules_referenceType]
      cases t.usesLiteral <;> decide
    rw [h.accounts.printed, Needs, hliteral, mem_references_referenceType]
    simp

/-- A type with two classes in it. -/
def nestedClasses : TypeExpr :=
  .optional (.nonEmptyTuple (.tuple (.named ["Group", "Member"])))

/-- Its text uses two classes, and both are recorded. -/
theorem nestedClasses_accounts :
    nestedClasses.render = "NonEmptyTuple[tuple[Group.Member, ...]] | None" ∧
      "Group" ∈ (({} : Imports).referenceType nestedClasses).references ∧
        "NonEmptyTuple" ∈ (({} : Imports).referenceType nestedClasses).references := by
  have hprintable : nestedClasses.IsPrintable :=
    ⟨"Group", ["Member"], rfl, by decide +kernel, by decide, by decide⟩
  obtain ⟨hrecorded, -⟩ := referenceType_accounts hprintable
  refine ⟨by decide, ((hrecorded {}).2 "Group").mpr (.inl ⟨?_, by decide⟩),
    ((hrecorded {}).2 "NonEmptyTuple").mpr (.inl ⟨?_, by decide⟩)⟩
  · decide +kernel
  · decide +kernel

end Imports

end RpcBindings
