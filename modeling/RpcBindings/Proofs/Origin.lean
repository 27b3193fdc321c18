import RpcBindings.Config.Check
import RpcBindings.Proofs.Assembly
import RpcBindings.Proofs.Words

/-!
# Where modules import from

A statement of a generated module imports from the standard library, or from a module of the package
for which the configuration gives a text, and never from the module in which it stands.  If the text
is the name of a module, a reader finds it behind the dot in the statement.  Any other text stands
there as it is, and may come to the name of the module itself once blanks are left out.

## Main definitions

* `Text.Identifier.isModuleName` — ASCII names with dots between them.
* `Imports.origin` — what a statement imports from, blanks left out.
* `Config.IsForeign` — a module that is not the one of a given name.
* `Config.ImportsElsewhere` — a statement that imports from such a module.

## Main results

* `Imports.Statement.origin_eq` — a statement imports from the module that it names.
* `Imports.exists_block_eq` — the printed imports are statements for the collected modules.
* `isForeign_of_importsFor` — **no module is imported by itself.**
-/

namespace RpcBindings

open Fallible
open Render (joinLines joinSections)

variable {c : Config} {m : Model} {kind : ModuleKind}

/-! ### Names of modules -/

/-- Whether a text is the name of a module: ASCII names with dots between them. -/
def Text.Identifier.isModuleName (cs : List Char) : Bool :=
  (Text.splitOn '.' cs).all Text.Identifier.isAsciiName

theorem Text.isBlank_of_isAsciiName {cs : List Char} {d : Char}
    (h : Identifier.isAsciiName cs = true) (hd : d ∈ cs) : isBlank d = false := by
  have hcontinue : Identifier.isAsciiContinue d = true := by
    cases cs with
    | nil => cases hd
    | cons c cs =>
      obtain ⟨hc, hcs⟩ := Bool.and_eq_true_iff.mp h
      rcases List.mem_cons.mp hd with rfl | hd
      · rw [Identifier.isAsciiStart, Bool.or_eq_true] at hc
        rw [Identifier.isAsciiContinue, Bool.or_eq_true, Char.isAlphanum, Bool.or_eq_true]
        exact hc.imp_left .inl
      · exact List.all_eq_true.mp hcs d hd
  cases hblank : isBlank d with
  | false => rfl
  | true =>
    rw [Identifier.isAsciiContinue, isAlphanum_of_isBlank hblank, Bool.false_or, beq_iff_eq]
      at hcontinue
    rw [hcontinue] at hblank
    exact absurd hblank (by decide)

/-- A name of a module holds no blanks. -/
theorem Text.isWord_of_isModuleName {cs : List Char} (h : Identifier.isModuleName cs = true) :
    IsWord cs := by
  refine ⟨?_, fun d hd => ?_⟩
  · rintro rfl
    cases h
  · rcases exists_mem_splitOn '.' hd with rfl | ⟨w, hw, hd⟩
    · decide
    · exact isBlank_of_isAsciiName (List.all_eq_true.mp h w hw) hd

/-- The texts that a configuration gives for modules. -/
def Config.moduleTexts (c : Config) : List String :=
  (c.output.moduleNames ++ c.output.externalTypes).map Prod.snd

/-- A class is provided by a module for which the configuration gives a text. -/
theorem Model.exists_of_moduleOf? {x module : String} (h : m.moduleOf? c x = some module) :
    ∃ v ∈ c.moduleTexts, module = "." ++ v := by
  obtain ⟨v, hlookup, rfl⟩ := Option.map_eq_some_iff.mp h
  obtain ⟨before, after, hproviders, -⟩ := List.lookup_eq_some_iff.mp hlookup
  have hv : (x, v) ∈ m.providers c := by simp [hproviders]
  refine ⟨v, ?_, rfl⟩
  simp only [Model.providers, List.cons_append, List.nil_append, List.append_assoc, List.mem_cons,
    List.mem_append, List.mem_map, Prod.mk.injEq] at hv
  rw [Config.moduleTexts, OutputLayout.moduleNames, List.map_append, List.mem_append]
  rcases hv with ⟨-, rfl⟩ | ⟨-, rfl⟩ | hexternal | ⟨d, -, -, rfl⟩ | ⟨-, rfl⟩ | ⟨d, -, -, rfl⟩
  · simp
  · simp
  · exact .inr (List.mem_map_of_mem hexternal)
  · simp
  · simp
  · simp

namespace Imports

open Text

variable {i : Imports} {p : String → Prop} {module s : String} {names : List String}

/-- What a statement imports from: what stands between its first word and the next `import`, without
the blanks. -/
def origin (s : String) : String :=
  String.ofList (((words s.toList).drop 1).takeWhile (· != "import".toList)).flatten

/-- A statement imports from the module that it names, if there are no blanks in that name. -/
theorem Statement.origin_eq (h : Statement module names s) (hword : IsWord module.toList)
    (himport : module ≠ "import") : origin s = module := by
  have hspace : isBlank ' ' = true := rfl
  obtain ⟨rest, rfl⟩ := h.exists_eq_append
  have hsplit : ("from " ++ module ++ " import " ++ rest).toList =
      "from".toList ++ ' ' :: (module.toList ++ ' ' :: ("import".toList ++ ' ' :: rest.toList)) := by
    simp [String.toList_append]
  have hwords : words ("from " ++ module ++ " import " ++ rest).toList =
      "from".toList :: module.toList :: "import".toList :: words rest.toList := by
    have hfrom : words "from".toList = ["from".toList] := by decide
    have hkeyword : words "import".toList = ["import".toList] := by decide
    rw [hsplit, words_append_blank hspace, words_append_blank hspace, words_append_blank hspace,
      words_of_isWord hword, hfrom, hkeyword]
    rfl
  have hne : (module.toList != "import".toList) = true := by
    rw [bne_iff_ne, Ne, String.toList_inj]
    exact himport
  have hkeyword : ¬ ("import".toList != "import".toList) = true := by decide
  rw [origin, hwords, List.drop_one, List.tail_cons, List.takeWhile_cons, if_pos hne,
    List.takeWhile_cons, if_neg hkeyword, List.flatten_singleton, String.ofList_toList]

/-- The statements for the modules with the property. -/
def statementsWhere (width : Nat) (i : Imports) (b : String → Bool) : List String :=
  (i.modules.filter fun q => b q.1).map fun q => statement width q.1 q.2

/-- The statements in their three groups. -/
def statementGroups (width : Nat) (i : Imports) : List (List String) :=
  [i.statementsWhere width fun n => n == future,
   i.statementsWhere width fun n => n != future && !isRelative n,
   i.statementsWhere width fun n => n != future && isRelative n]

theorem exists_of_mem_statementsWhere {width : Nat} {b : String → Bool}
    (h : ∀ q ∈ i.modules, p q.1) (hs : s ∈ i.statementsWhere width b) :
    ∃ module names, Statement module names s ∧ p module := by
  obtain ⟨q, hq, rfl⟩ := List.mem_map.mp hs
  exact ⟨q.1, q.2, statement_statement width q.1 q.2, h q (List.mem_of_mem_filter hq)⟩

/-- **The printed imports are statements for the collected modules**, in groups of lines with blank
lines between them. -/
theorem exists_block_eq (width : Nat) (h : ∀ q ∈ i.modules, p q.1) :
    ∃ groups : List (List String), i.block width = joinSections (groups.map joinLines) ∧
      (i.block width = "" ↔ groups = []) ∧
      ∀ statements ∈ groups, ∀ s ∈ statements,
        ∃ module names, Statement module names s ∧ p module := by
  let groups := (i.statementGroups width).filter fun g => !(joinLines g).isEmpty
  have hblock : i.block width = joinSections (groups.map joinLines) := by
    have hfilter : i.block width =
        joinSections (((i.statementGroups width).map joinLines).filter fun g => !g.isEmpty) := rfl
    rw [hfilter, List.filter_map]
    rfl
  refine ⟨groups, hblock, ⟨fun hempty => ?_, fun hnil => ?_⟩, ?_⟩
  · -- a group stands in the block on lines of its own, and is not empty
    refine List.eq_nil_iff_forall_not_mem.mpr fun g hg => ?_
    have hlines : OnLines (joinLines g) (joinSections (groups.map joinLines)) :=
      onLines_intercalate (List.mem_map_of_mem hg) ⟨"\n", rfl⟩ ⟨"\n", rfl⟩
    rw [← hblock, hempty] at hlines
    have hne := List.of_mem_filter hg
    rw [hlines.eq_empty] at hne
    cases hne
  · rw [hblock, hnil]
    rfl
  · intro statements hmem s hs
    have hgroup := List.mem_of_mem_filter hmem
    simp only [statementGroups, List.mem_cons, List.not_mem_nil, or_false] at hgroup
    rcases hgroup with rfl | rfl | rfl
    · exact exists_of_mem_statementsWhere h hs
    · exact exists_of_mem_statementsWhere h hs
    · exact exists_of_mem_statementsWhere h hs

theorem forall_modules_foldl_add {ps : List (String × String)} (hi : ∀ q ∈ i.modules, p q.1)
    (hps : ∀ q ∈ ps, p q.1) :
    ∀ q ∈ (ps.foldl (fun i q => i.add q.1 q.2) i).modules, p q.1 := by
  induction ps generalizing i with
  | nil => exact hi
  | cons q ps ih =>
    rw [List.forall_mem_cons] at hps
    refine ih ?_ hps.2
    intro r hr
    rcases Sorted.mem_of_mem_put hr with heq | hr
    · rw [heq]
      exact hps.1
    · exact hi r hr

end Imports

/-- The module is another one than that with the name `own`, and it belongs to the standard library,
or the configuration gives a text for it. -/
def Config.IsForeign (c : Config) (own module : String) : Prop :=
  module ≠ "." ++ own ∧
    (module ∈ Imports.standardModules ∨ ∃ v ∈ c.moduleTexts, module = "." ++ v)

/-- **No module is imported by itself.** -/
theorem isForeign_of_importsFor {t : Contents} {i : Imports} (ht : t.Shows m kind)
    (h : importsFor c m kind t = .ok i) :
    ∀ q ∈ i.modules, c.IsForeign (kind.moduleName c.output) q.1 := by
  obtain ⟨found, hfound, h⟩ := bind_eq_ok_iff.mp h
  cases h
  refine Imports.forall_modules_foldl_add ?_ ?_
  · -- what the classes need apart from other classes is outside of the package
    intro q hq
    have hstandard := ht.outsideOnly q hq
    refine ⟨fun hself => ?_, .inl hstandard⟩
    have houtside := Imports.isRelative_of_mem_standardModules _ hstandard
    rw [hself] at houtside
    simp [Imports.isRelative] at houtside
  · intro q hq
    obtain ⟨o, ho, hsome⟩ := List.mem_filterMap.mp hq
    obtain ⟨x, -, hx⟩ := exists_left_of_forall₂ (mapM_eq_ok_iff.mp hfound) ho
    rw [show o = some q from hsome] at hx
    obtain ⟨-, hmodule, hne, -⟩ := importOf?_eq_ok_some_iff.mp hx
    exact ⟨hne, .inr (Model.exists_of_moduleOf? hmodule)⟩

/-- The statement imports from a module with another name than `own`.  Where the configuration gives
a name for that module, this is what the statement imports from. -/
structure Config.ImportsElsewhere (c : Config) (own module : String) (names : List String)
    (s : String) : Prop where
  statement : Imports.Statement module names s
  isForeign : c.IsForeign own module
  origin_eq :
    (∀ v ∈ c.moduleTexts, module = "." ++ v → Text.Identifier.isModuleName v.toList = true) →
      Imports.origin s = module

theorem importsElsewhere_of_statement {own module s : String} {names : List String}
    (hs : Imports.Statement module names s) (h : c.IsForeign own module) :
    c.ImportsElsewhere own module names s := by
  refine ⟨hs, h, fun hnames => ?_⟩
  rcases h.2 with hstandard | ⟨v, hv, rfl⟩
  · have hnamed : ∀ module ∈ Imports.standardModules,
        Text.Identifier.isModuleName module.toList = true ∧ module ≠ "import" := by decide
    obtain ⟨hname, himport⟩ := hnamed module hstandard
    exact hs.origin_eq (Text.isWord_of_isModuleName hname) himport
  · have hname := hnames v hv rfl
    have hchars : ("." ++ v).toList = '.' :: v.toList := by simp [String.toList_append]
    refine hs.origin_eq ⟨by simp [hchars], ?_⟩ ?_
    · rw [hchars]
      exact List.forall_mem_cons.mpr ⟨by decide, (Text.isWord_of_isModuleName hname).2⟩
    · rw [Ne, ← String.toList_inj, hchars]
      simp

end RpcBindings
