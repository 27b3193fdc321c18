import RpcBindings.Generation
import RpcBindings.Proofs.References

/-!
# Assembled modules

What a generated module consists of, stated once for the three kinds of modules.  A module imports a
class when one of its own classes refers to it, nothing in the module declares the name, and another
module provides it.

## Main definitions

* `Model.declarations`, `Model.classNames` — what is declared at the top of a module.
* `Model.Refers`, `Model.Declares` — the classes to which a module refers, and the names it
  declares at any depth.
* `Contents.layout` — the layout of a module, given its imports.

## Main results

* `contents_spec` — the classes of a module are those of the model.
* `mem_namesFrom_importsFor` — **the specification of `importsFor`.**
* `assemble_eq_ok_iff`, `generate_eq_ok_iff` — the specifications of `assemble` and `generate`.
-/

namespace RpcBindings

open Fallible

/-! ### The contents of modules -/

namespace Model

/-- The declarations at the top of a module. -/
def declarations (m : Model) : ModuleKind → List Declaration
  | .commands => []
  | .outputs => m.outputs
  | .types => m.types

/-- The names of the classes at the top of a module. -/
def classNames (m : Model) : ModuleKind → List String
  | .commands => m.commands.map fun r => r.command.name
  | .outputs => emptyName :: m.outputs.map Declaration.name
  | .types => m.types.map Declaration.name

/-- Some class of a module refers to the class `x`. -/
def Refers (m : Model) (x : String) : ModuleKind → Prop
  | .commands => ∃ r ∈ m.commands, r.Refers x
  | .outputs => ∃ d ∈ m.outputs, d.Refers x
  | .types => ∃ d ∈ m.types, d.Refers x

/-- A module declares the name `x`, at its top or nested in another class. -/
def Declares (m : Model) (x : String) (kind : ModuleKind) : Prop :=
  x ∈ m.classNames kind ∨ ∃ d ∈ m.declarations kind, ∃ e ∈ d.family, e.name = x

end Model

variable {c : Config} {k : Checkout} {m : Model} {kind : ModuleKind} {x module : String}

/-- What the classes of a module need together. -/
theorem mem_references_needs {t : Contents} (hbase : t.base.references = []) :
    x ∈ t.needs.references ↔ ∃ out ∈ t.rendered, x ∈ out.imports.references := by
  unfold Contents.needs
  rw [Imports.mem_references_foldl (p := fun out x => x ∈ out.imports.references)
    (fun _ _ _ => by rw [Imports.mem_references_merge, or_comm]), hbase]
  simp

/-- Nothing is collected for the modules of the package before the references are looked up. -/
theorem outsideOnly_needs {t : Contents} (hbase : t.base.OutsideOnly)
    (h : ∀ out ∈ t.rendered, out.imports.OutsideOnly) : t.needs.OutsideOnly :=
  Imports.OutsideOnly.foldl (fun _ out hout hi => hi.merge (h out hout)) hbase

/-- What rendered commands have in common with the commands. -/
theorem rendered_commands {style : Style} {rs : List Resolved} {outs : List Rendered}
    (h : rs.mapM (Resolved.render style) = .ok outs) :
    outs.map Rendered.name = rs.map (fun r => r.command.name) ∧
      (∀ x, (∃ out ∈ outs, x ∈ out.imports.references) ↔ ∃ r ∈ rs, r.Refers x) ∧
      ∀ out ∈ outs, out.imports.OutsideOnly := by
  have hall := mapM_eq_ok_iff.mp h
  refine ⟨?_, fun x => ?_, fun out hout => ?_⟩
  · exact (map_eq_map_of_forall₂ hall fun r out h => (Resolved.render_eq_ok h).1.symm).symm
  · refine (exists_mem_iff_of_forall₂ hall fun r out h => ?_).symm
    exact (Resolved.mem_references_imports (Resolved.render_eq_ok h).2).symm
  · obtain ⟨r, -, h⟩ := exists_left_of_forall₂ hall hout
    exact Resolved.outsideOnly_imports (Resolved.render_eq_ok h).2

/-- What rendered declarations have in common with the declarations. -/
theorem rendered_declarations {style : Style} {ds : List Declaration} {outs : List Rendered}
    (h : ds.mapM (Declaration.render style) = .ok outs) :
    outs.map Rendered.name = ds.map Declaration.name ∧
      (∀ x, (∃ out ∈ outs, x ∈ out.imports.references) ↔ ∃ d ∈ ds, d.Refers x) ∧
      ∀ out ∈ outs, out.imports.OutsideOnly := by
  have hall := mapM_eq_ok_iff.mp h
  refine ⟨?_, fun x => ?_, fun out hout => ?_⟩
  · exact (map_eq_map_of_forall₂ hall fun d out h => (Declaration.render_eq_ok h).1.symm).symm
  · refine (exists_mem_iff_of_forall₂ hall fun d out h => ?_).symm
    rw [(Declaration.render_eq_ok h).2, Declaration.mem_references_imports]
  · obtain ⟨d, -, h⟩ := exists_left_of_forall₂ hall hout
    rw [(Declaration.render_eq_ok h).2]
    exact d.outsideOnly_imports

/-- What is shown of the contents of a module: its classes are those of the model, it needs the
classes to which they refer, and nothing else of the package. -/
structure Contents.Shows (t : Contents) (m : Model) (kind : ModuleKind) : Prop where
  names_eq : t.names = m.classNames kind
  locals_eq : t.locals = m.declarations kind
  references_iff : ∀ x, x ∈ t.needs.references ↔ m.Refers x kind
  outsideOnly : t.needs.OutsideOnly

/-- **The classes of a module are those of the model.** -/
theorem contents_spec {t : Contents} (h : contents c m kind = .ok t) : t.Shows m kind := by
  have hannotations : (({} : Imports).add "__future__" "annotations").OutsideOnly :=
    Imports.outsideOnly_empty.add (by decide)
  cases kind with
  | commands =>
    obtain ⟨outs, houts, h⟩ := bind_eq_ok_iff.mp h
    cases h
    obtain ⟨hnames, hreferences, houtside⟩ := rendered_commands houts
    refine ⟨hnames, rfl, fun x => ?_, outsideOnly_needs Imports.outsideOnly_empty houtside⟩
    rw [mem_references_needs rfl]
    exact hreferences x
  | outputs =>
    obtain ⟨outs, houts, h⟩ := bind_eq_ok_iff.mp h
    cases h
    obtain ⟨hnames, hreferences, houtside⟩ := rendered_declarations houts
    refine ⟨congrArg (Model.emptyName :: ·) hnames, rfl, fun x => ?_, ?_⟩
    · -- the class without fields refers to nothing
      have hempty : x ∉ emptyOutput.imports.references := by simp [emptyOutput]
      rw [mem_references_needs rfl, List.exists_mem_cons_iff, or_iff_right hempty]
      exact hreferences x
    · refine outsideOnly_needs hannotations (List.forall_mem_cons.mpr ⟨?_, houtside⟩)
      exact Imports.outsideOnly_empty.add (by decide)
  | types =>
    obtain ⟨outs, houts, h⟩ := bind_eq_ok_iff.mp h
    cases h
    obtain ⟨hnames, hreferences, houtside⟩ := rendered_declarations houts
    refine ⟨hnames, rfl, fun x => ?_, outsideOnly_needs hannotations houtside⟩
    rw [mem_references_needs rfl]
    exact hreferences x

/-- A class is local to a module that declares its name. -/
theorem Contents.Shows.isLocal_iff {t : Contents} (h : t.Shows m kind) :
    t.isLocal x = true ↔ m.Declares x kind := by
  unfold Contents.isLocal
  rw [h.names_eq, h.locals_eq, Bool.or_eq_true, List.contains_iff_mem, List.any_eq_true]
  simp only [Declaration.declares_iff]
  rfl

/-! ### Imported classes -/

theorem importOf?_eq_ok_some_iff {t : Contents} {p : String × String} :
    importOf? c m kind t x = .ok (some p) ↔
      t.isLocal x = false ∧ m.moduleOf? c x = some p.1 ∧ p.1 ≠ "." ++ kind.moduleName c.output ∧
        p.2 = x := by
  unfold importOf?
  cases t.isLocal x with
  | true => simp
  | false =>
    cases m.moduleOf? c x with
    | none =>
      simp only [Bool.false_eq_true, if_false]
      split <;> simp
    | some module =>
      simp only [Bool.false_eq_true, if_false, Except.ok.injEq, Option.some.injEq, true_and]
      split
      · next h =>
        constructor
        · intro h'
          cases h'
        · rintro ⟨rfl, hne, -⟩
          exact absurd h hne
      · next h =>
        obtain ⟨l, n⟩ := p
        simp only [Option.some.injEq, Prod.mk.injEq]
        constructor
        · rintro ⟨rfl, rfl⟩
          exact ⟨rfl, h, rfl⟩
        · rintro ⟨rfl, -, rfl⟩
          exact ⟨rfl, rfl⟩

/-- A class cannot be imported only if a command refers to it and it is not known at all. -/
theorem importOf?_eq_error_iff {t : Contents} {e : Error} :
    importOf? c m kind t x = .error e ↔
      kind = .commands ∧ t.isLocal x = false ∧ m.moduleOf? c x = none ∧
        e = .config (.unknownOutput x) := by
  unfold importOf?
  cases t.isLocal x with
  | true => simp
  | false =>
    cases m.moduleOf? c x with
    | some module => simp
    | none =>
      by_cases hkind : kind = .commands
      · simp [hkind, eq_comm]
      · simp [hkind]

/-- **The specification of `importsFor`**: apart from what the classes collect, a class is imported
when the module refers to it without declaring it and another module provides it. -/
theorem mem_namesFrom_importsFor {t : Contents} {i : Imports}
    (h : importsFor c m kind t = .ok i) :
    x ∈ i.namesFrom module ↔ x ∈ t.needs.namesFrom module ∨
      x ∈ t.needs.references ∧ t.isLocal x = false ∧ m.moduleOf? c x = some module ∧
        module ≠ "." ++ kind.moduleName c.output := by
  obtain ⟨found, hfound, h⟩ := bind_eq_ok_iff.mp h
  cases h
  have hall := mapM_eq_ok_iff.mp hfound
  have hpair : (module, x) ∈ found.filterMap id ↔
      ∃ y ∈ t.needs.references, importOf? c m kind t y = .ok (some (module, x)) := by
    rw [List.mem_filterMap]
    refine (exists_mem_iff_of_forall₂ hall fun y o hy => ?_).symm
    rw [hy]
    simp
  rw [Imports.mem_namesFrom_foldl_add, hpair, or_comm]
  simp only [importOf?_eq_ok_some_iff]
  refine or_congr Iff.rfl ⟨?_, ?_⟩
  · rintro ⟨y, hy, hlocal, hmodule, hne, rfl⟩
    exact ⟨hy, hlocal, hmodule, hne⟩
  · rintro ⟨hx, hlocal, hmodule, hne⟩
    exact ⟨x, hx, hlocal, hmodule, hne, rfl⟩

/-! ### Generated modules -/

/-- The first repeated name exists unless all names are different. -/
theorem firstRepeated?_eq_none_iff {before names : List String} :
    firstRepeated? before names = none ↔ names.Nodup ∧ ∀ n ∈ names, n ∉ before := by
  induction names generalizing before with
  | nil => simp [firstRepeated?]
  | cons n ns ih =>
    rw [firstRepeated?, List.nodup_cons, List.forall_mem_cons]
    split
    · next h => simp [List.contains_iff_mem.mp h]
    · next h =>
      rw [List.contains_iff_mem] at h
      rw [ih]
      constructor
      · rintro ⟨hnodup, hnot⟩
        refine ⟨⟨fun hn => hnot n hn List.mem_cons_self, hnodup⟩, h, fun n' hn' hbefore => ?_⟩
        exact hnot n' hn' (List.mem_cons_of_mem _ hbefore)
      · rintro ⟨⟨hn, hnodup⟩, -, hnot⟩
        refine ⟨hnodup, fun n' hn' hmem => ?_⟩
        rcases List.mem_cons.mp hmem with rfl | hmem
        · exact hn hn'
        · exact hnot n' hn' hmem

/-- The layout of a module, given its imports. -/
def Contents.layout (c : Config) (header : String) (t : Contents) (i : Imports) : ModuleLayout where
  header
  imports := i.block c.output.lineLength
  declarations := t.rendered.map Rendered.text
  exports := t.names

/-- **The specification of `assemble`.** -/
theorem assemble_eq_ok_iff {header : String} {g : GeneratedModule} :
    assemble c m header kind = .ok g ↔
      ∃ t i, contents c m kind = .ok t ∧ t.names.Nodup ∧ importsFor c m kind t = .ok i ∧
        g = ⟨kind, kind.moduleName c.output, (t.layout c header i).text⟩ := by
  unfold assemble
  rw [bind_eq_ok_iff]
  refine exists_congr fun t => ?_
  have hnodup : firstRepeated? [] t.names = none ↔ t.names.Nodup := by
    rw [firstRepeated?_eq_none_iff]
    simp
  rw [← hnodup]
  cases firstRepeated? [] t.names with
  | some n =>
    constructor
    · rintro ⟨-, h⟩; cases h
    · rintro ⟨i, -, h, -⟩; cases h
  | none =>
    constructor
    · rintro ⟨ht, h⟩
      obtain ⟨i, hi, h⟩ := bind_eq_ok_iff.mp h
      exact ⟨i, ht, rfl, hi, (Except.ok.inj h).symm⟩
    · rintro ⟨i, ht, -, hi, rfl⟩
      exact ⟨ht, bind_eq_ok_iff.mpr ⟨i, hi, rfl⟩⟩

/-- **The specification of `generate`.** -/
theorem generate_eq_ok_iff {ms : List GeneratedModule} :
    generate c k = .ok ms ↔
      ∃ m, Model.ofCheckout c k = .ok m ∧
        List.Forall₂ (fun kind g => assemble c m (k.header c) kind = .ok g) ModuleKind.all ms := by
  unfold generate
  rw [bind_eq_ok_iff]
  simp only [mapM_eq_ok_iff]

/-- The modules are generated in the order of their kinds, and have the names of these. -/
theorem kinds_of_generate {ms : List GeneratedModule} (h : generate c k = .ok ms) :
    ms.map GeneratedModule.kind = ModuleKind.all ∧
      ∀ g ∈ ms, g.name = g.kind.moduleName c.output := by
  obtain ⟨m, -, hall⟩ := generate_eq_ok_iff.mp h
  have hassembled : ∀ kind g, assemble c m (k.header c) kind = .ok g →
      kind = g.kind ∧ g.name = g.kind.moduleName c.output := by
    intro kind g hg
    obtain ⟨t, i, -, -, -, rfl⟩ := assemble_eq_ok_iff.mp hg
    exact ⟨rfl, rfl⟩
  constructor
  · have hkinds := map_eq_map_of_forall₂ hall fun kind g hg => (hassembled kind g hg).1
    rw [← hkinds, List.map_id']
  · intro g hg
    obtain ⟨kind, -, hkind⟩ := exists_left_of_forall₂ hall hg
    exact (hassembled kind g hkind).2

theorem mem_all (kind : ModuleKind) : kind ∈ ModuleKind.all := by
  cases kind <;> decide

end RpcBindings
