import RpcBindings.Imports
import Mathlib.Data.List.Infix

/-!
# Accumulated imports

What a module imports is collected step by step and printed once.  The steps are described by what
they add, and of the printed statements it is shown that each name that has been collected can be
read off one of them.

## Main definitions

* `Text.OnLines` — a text stands in another one on lines of its own.
* `Imports.namesFrom` — the names that are collected for a module.
* `Imports.Brings` — a text imports a name from a module.
* `Imports.OutsideOnly` — nothing is collected but for modules of the standard library.

## Main results

* `Imports.mem_namesFrom_add`, `Imports.mem_references_merge` — what the steps add.
* `Imports.brings_block` — **a name that is collected for a module is imported from it.**
-/

namespace RpcBindings

/-! ### Texts on lines of their own -/

namespace Text

/-- The text `s` stands in `text` on lines of its own. -/
def OnLines (s text : String) : Prop :=
  ∃ before after, text = before ++ s ++ after ∧
    (before = "" ∨ ∃ b, before = b ++ "\n") ∧ (after = "" ∨ ∃ a, after = "\n" ++ a)

theorem OnLines.refl (s : String) : OnLines s s :=
  ⟨"", "", by simp, .inl rfl, .inl rfl⟩

theorem OnLines.trans {s t u : String} (hst : OnLines s t) (htu : OnLines t u) : OnLines s u := by
  obtain ⟨b, a, rfl, hb, ha⟩ := hst
  obtain ⟨b', a', rfl, hb', ha'⟩ := htu
  refine ⟨b' ++ b, a ++ a', by simp only [String.append_assoc], ?_, ?_⟩
  · rcases hb with rfl | ⟨x, rfl⟩
    · rwa [String.append_empty]
    · exact .inr ⟨b' ++ x, by rw [String.append_assoc]⟩
  · rcases ha with rfl | ⟨x, rfl⟩
    · rwa [String.empty_append]
    · exact .inr ⟨x ++ a', by rw [String.append_assoc]⟩

/-- Nothing but the empty text stands in the empty text. -/
theorem OnLines.eq_empty {s : String} (h : OnLines s "") : s = "" := by
  obtain ⟨before, after, heq, -⟩ := h
  rw [eq_comm, String.append_eq_empty_iff, String.append_eq_empty_iff] at heq
  exact heq.1.2

/-- Texts that are put together with line ends between them stand on lines of their own. -/
theorem onLines_intercalate {sep s : String} {ss : List String} (hs : s ∈ ss)
    (hend : ∃ x, sep = x ++ "\n") (hstart : ∃ x, sep = "\n" ++ x) :
    OnLines s (sep.intercalate ss) := by
  obtain ⟨x, hx⟩ := hend
  obtain ⟨y, hy⟩ := hstart
  obtain ⟨ls, rs, rfl⟩ := List.append_of_mem hs
  -- what follows the text starts with a separator, unless nothing follows
  have hright : ∃ after, sep.intercalate (s :: rs) = s ++ after ∧
      (after = "" ∨ ∃ a, after = "\n" ++ a) := by
    cases rs with
    | nil => exact ⟨"", by simp, .inl rfl⟩
    | cons r rs =>
      refine ⟨sep ++ sep.intercalate (r :: rs), ?_, .inr ⟨y ++ sep.intercalate (r :: rs), ?_⟩⟩
      · rw [String.intercalate_cons_of_ne_nil (List.cons_ne_nil _ _), String.append_assoc]
      · rw [← String.append_assoc, ← hy]
  obtain ⟨after, hafter, ha⟩ := hright
  cases ls with
  | nil => exact ⟨"", after, by simpa using hafter, .inl rfl, ha⟩
  | cons l ls =>
    refine ⟨sep.intercalate (l :: ls) ++ sep, after, ?_, .inr ⟨sep.intercalate (l :: ls) ++ x, ?_⟩,
      ha⟩
    · rw [String.intercalate_append_of_ne_nil (List.cons_ne_nil _ _) (List.cons_ne_nil _ _), hafter]
      simp only [String.append_assoc]
    · rw [String.append_assoc, ← hx]

end Text

namespace Imports

variable {i j : Imports} {module name k x : String}

/-! ### Collecting -/

/-- The names that are collected for a module. -/
def namesFrom (i : Imports) (module : String) : List String :=
  (Sorted.get? module i.modules).getD []

theorem mem_namesFrom_add :
    x ∈ (i.add module name).namesFrom k ↔ k = module ∧ x = name ∨ x ∈ i.namesFrom k := by
  unfold namesFrom add
  rw [Sorted.get?_put]
  split
  · next h =>
    subst h
    simp [Sorted.mem_insert]
  · next h => simp [h]

/-- Adding several names, each with its module. -/
theorem mem_namesFrom_foldl_add {ps : List (String × String)} :
    x ∈ (ps.foldl (fun i p => i.add p.1 p.2) i).namesFrom k ↔ (k, x) ∈ ps ∨ x ∈ i.namesFrom k := by
  induction ps generalizing i with
  | nil => simp
  | cons p ps ih =>
    rw [List.foldl_cons, ih, mem_namesFrom_add, List.mem_cons, Prod.ext_iff]
    rw [or_left_comm, or_assoc]

/-- What several steps add to the references, given what each of them adds. -/
theorem mem_references_foldl {α : Type} {step : Imports → α → Imports} {p : α → String → Prop}
    (h : ∀ i a x, x ∈ (step i a).references ↔ p a x ∨ x ∈ i.references) (as : List α) :
    x ∈ (as.foldl step i).references ↔ (∃ a ∈ as, p a x) ∨ x ∈ i.references := by
  induction as generalizing i with
  | nil => simp
  | cons a as ih =>
    rw [List.foldl_cons, ih, h, ← or_assoc, or_comm (b := p a x)]
    simp only [List.mem_cons, exists_eq_or_imp]

@[simp] theorem references_add (module name : String) (i : Imports) :
    (i.add module name).references = i.references := rfl

theorem mem_references_reference :
    x ∈ (i.reference name).references ↔ x = name ∨ x ∈ i.references :=
  Sorted.mem_insert

theorem mem_references_referenceAll {names : List String} :
    x ∈ (i.referenceAll names).references ↔ x ∈ names ∨ x ∈ i.references := by
  unfold referenceAll
  rw [mem_references_foldl (p := fun n x => x = n) fun _ _ _ => mem_references_reference]
  simp

theorem mem_references_addAll {names : List String} :
    x ∈ (i.addAll module names).references ↔ x ∈ i.references := by
  unfold addAll
  rw [mem_references_foldl (p := fun _ _ => False) fun _ _ _ => by simp]
  simp

theorem mem_references_merge :
    x ∈ (i.merge j).references ↔ x ∈ i.references ∨ x ∈ j.references := by
  unfold merge
  rw [mem_references_referenceAll,
    mem_references_foldl (p := fun _ _ => False) fun _ _ _ => by simp [mem_references_addAll]]
  simp [or_comm]

theorem mem_references_referenceType {t : TypeExpr} :
    x ∈ (i.referenceType t).references ↔ x ∈ classesOf t ∨ x ∈ i.references := by
  unfold referenceType
  rw [mem_references_referenceAll]
  split
  · rw [references_add]
  · rfl

/-- A name of a written type is referred to, unless the module `typing` has it. -/
theorem mem_references_referenceName :
    x ∈ (i.referenceName name).references ↔ (x = name ∧ x ∉ typingNames) ∨ x ∈ i.references := by
  unfold referenceName
  split
  · next h =>
    rw [List.contains_iff_mem] at h
    rw [references_add]
    constructor
    · exact .inr
    · rintro (⟨rfl, hnot⟩ | h')
      · exact absurd h hnot
      · exact h'
  · next h =>
    rw [List.contains_iff_mem] at h
    rw [mem_references_reference]
    constructor
    · rintro (rfl | h')
      · exact .inl ⟨rfl, h⟩
      · exact .inr h'
    · rintro (⟨heq, -⟩ | h')
      · exact .inl heq
      · exact .inr h'

theorem referenceText_eq_ok_iff {text : String} :
    i.referenceText text = .ok j ↔
      ∃ names, TypeExpr.namesIn? text = some names ∧
        j = names.foldl (fun i n => i.referenceName n) i := by
  unfold referenceText
  cases TypeExpr.namesIn? text with
  | none => simp
  | some names => simp [eq_comm]

/-! ### Modules of the package -/

/-- The modules of the standard library from which classes import. -/
def standardModules : List String :=
  ["__future__", "dataclasses", "enum", "typing", "warnings"]

theorem isRelative_of_mem_standardModules :
    ∀ module ∈ standardModules, isRelative module = false := by
  decide

/-- Nothing is collected but for modules of the standard library. -/
def OutsideOnly (i : Imports) : Prop :=
  ∀ p ∈ i.modules, p.1 ∈ standardModules

theorem outsideOnly_empty : OutsideOnly {} := by
  simp [OutsideOnly]

/-- What every step keeps, several steps keep. -/
theorem OutsideOnly.foldl {α : Type} {step : Imports → α → Imports} {as : List α}
    (h : ∀ i, ∀ a ∈ as, i.OutsideOnly → (step i a).OutsideOnly) (hi : i.OutsideOnly) :
    (as.foldl step i).OutsideOnly := by
  induction as generalizing i with
  | nil => exact hi
  | cons a as ih =>
    obtain ⟨ha, has⟩ := List.forall_mem_cons.mp fun a ha i => h i a ha
    exact ih (fun i a ha' => has a ha' i) (ha i hi)

theorem OutsideOnly.add (h : i.OutsideOnly) (hmodule : module ∈ standardModules) :
    (i.add module name).OutsideOnly := by
  intro p hp
  rcases Sorted.mem_of_mem_put hp with heq | hp
  · rwa [heq]
  · exact h p hp

theorem OutsideOnly.referenceAll (h : i.OutsideOnly) (names : List String) :
    (i.referenceAll names).OutsideOnly :=
  OutsideOnly.foldl (fun _ _ _ h => h) h

theorem OutsideOnly.merge (hi : i.OutsideOnly) (hj : j.OutsideOnly) : (i.merge j).OutsideOnly := by
  refine OutsideOnly.referenceAll (OutsideOnly.foldl (fun i p hp hi => ?_) hi) _
  exact OutsideOnly.foldl (fun i _ _ hi => hi.add (hj p hp)) hi

theorem OutsideOnly.referenceType (h : i.OutsideOnly) (t : TypeExpr) :
    (i.referenceType t).OutsideOnly := by
  unfold Imports.referenceType
  refine OutsideOnly.referenceAll ?_ _
  split
  · exact h.add (by decide)
  · exact h

theorem OutsideOnly.referenceName (h : i.OutsideOnly) (name : String) :
    (i.referenceName name).OutsideOnly := by
  unfold Imports.referenceName
  split
  · exact h.add (by decide)
  · exact h

theorem OutsideOnly.referenceText (h : i.OutsideOnly) {text : String}
    (hj : i.referenceText text = .ok j) : j.OutsideOnly := by
  obtain ⟨names, -, rfl⟩ := referenceText_eq_ok_iff.mp hj
  exact OutsideOnly.foldl (fun i n _ hi => hi.referenceName n) h

/-- A name that is collected for a module stands among the names of that module. -/
theorem exists_of_mem_namesFrom (h : name ∈ i.namesFrom module) :
    ∃ names, (module, names) ∈ i.modules ∧ name ∈ names := by
  unfold namesFrom at h
  cases hget : Sorted.get? module i.modules with
  | none =>
    rw [hget] at h
    cases h
  | some names =>
    rw [hget] at h
    exact ⟨names, Sorted.mem_of_get?_eq_some hget, h⟩

theorem OutsideOnly.namesFrom_eq_nil (h : i.OutsideOnly) (hmodule : isRelative module = true) :
    i.namesFrom module = [] := by
  rw [List.eq_nil_iff_forall_not_mem]
  intro name hname
  obtain ⟨names, hmem, -⟩ := exists_of_mem_namesFrom hname
  have hfalse := isRelative_of_mem_standardModules _ (h _ hmem)
  rw [hmodule] at hfalse
  cases hfalse

/-! ### Printed statements -/

/-- The statements that import some names from a module: on one line, or with a line for each
name. -/
inductive Statement (module : String) (names : List String) : String → Prop
  | line : Statement module names ("from " ++ module ++ " import " ++ ", ".intercalate names)
  | lines : Statement module names
      ("from " ++ module ++ " import (\n" ++
        String.join (names.map fun n => "    " ++ n ++ ",\n") ++ ")")

/-- The text has, on lines of its own, a statement that imports the name from the module. -/
def Brings (text module name : String) : Prop :=
  ∃ names s, name ∈ names ∧ Statement module names s ∧ Text.OnLines s text

theorem statement_statement (width : Nat) (module : String) (names : List String) :
    Statement module names (statement width module names) := by
  simp only [statement]
  split
  · exact .line
  · exact .lines

/-- Every statement names its module at its start. -/
theorem Statement.exists_eq_append {names : List String} {s : String}
    (h : Statement module names s) : ∃ rest, s = "from " ++ module ++ " import " ++ rest := by
  cases h with
  | line => exact ⟨_, rfl⟩
  | lines =>
    refine ⟨"(\n" ++ (String.join (names.map fun n => "    " ++ n ++ ",\n") ++ ")"), ?_⟩
    have hsplit : " import (\n" = " import " ++ "(\n" := rfl
    rw [hsplit]
    simp only [String.append_assoc]

/-- A text without the start of a statement imports nothing from the module. -/
theorem not_brings_of_not_infix {text : String}
    (h : ¬ ("from " ++ module ++ " import ").toList <:+: text.toList) :
    ¬ Brings text module name := by
  rintro ⟨names, s, -, hs, before, after, rfl, -⟩
  obtain ⟨rest, rfl⟩ := hs.exists_eq_append
  refine h ⟨before.toList, rest.toList ++ after.toList, ?_⟩
  simp only [String.toList_append, List.append_assoc]

/-- The statements of a group stand on lines of their own. -/
theorem onLines_group {width : Nat} {p : String → Bool} {names : List String}
    (h : (module, names) ∈ i.modules) (hp : p module = true) :
    Text.OnLines (statement width module names) (i.group width p) := by
  unfold group
  refine Text.onLines_intercalate ?_ ⟨"", rfl⟩ ⟨"", rfl⟩
  exact List.mem_map.mpr ⟨_, List.mem_filter.mpr ⟨h, hp⟩, rfl⟩

/-- Each module belongs to one of the three groups of statements. -/
theorem onLines_block {width : Nat} {names : List String} (h : (module, names) ∈ i.modules) :
    Text.OnLines (statement width module names) (i.block width) := by
  -- a group in which a statement stands is not empty, so that it is not left out
  have hgroup : ∀ p : String → Bool, p module = true →
      i.group width p ∈ [i.group width fun m => m == future,
        i.group width fun m => m != future && !isRelative m,
        i.group width fun m => m != future && isRelative m] →
      Text.OnLines (statement width module names) (i.block width) := by
    intro p hp hmem
    have hlines : Text.OnLines (statement width module names) (i.group width p) :=
      onLines_group h hp
    refine hlines.trans (Text.onLines_intercalate ?_ ⟨"\n", rfl⟩ ⟨"\n", rfl⟩)
    refine List.mem_filter.mpr ⟨hmem, ?_⟩
    obtain ⟨before, after, heq, -⟩ := hlines
    obtain ⟨rest, hrest⟩ := (statement_statement width module names).exists_eq_append
    rw [heq, hrest]
    simp
  by_cases hfuture : module = future
  · exact hgroup (fun m => m == future) (by simp [hfuture]) (by simp)
  · cases hrelative : isRelative module with
    | false =>
      exact hgroup (fun m => m != future && !isRelative m) (by simp [hfuture, hrelative]) (by simp)
    | true =>
      exact hgroup (fun m => m != future && isRelative m) (by simp [hfuture, hrelative]) (by simp)

/-- **A name that is collected for a module is imported from it.** -/
theorem brings_block (width : Nat) (h : name ∈ i.namesFrom module) :
    Brings (i.block width) module name := by
  obtain ⟨names, hmem, hname⟩ := exists_of_mem_namesFrom h
  exact ⟨names, _, hname, statement_statement width module names, onLines_block hmem⟩

end Imports

end RpcBindings
