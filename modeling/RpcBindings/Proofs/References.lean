import RpcBindings.Proofs.Fallible
import RpcBindings.Proofs.ImportBlock
import RpcBindings.Render.Command
import RpcBindings.Render.Declaration

/-!
# References of classes

The classes to which a rendered class refers are collected while it is rendered.  They are described
here by what the class consists of: a command by its output type and the types of its arguments, a
declaration by the types of all fields in the tree of what it nests.

## Main definitions

* `Declaration.family` — a declaration and all those nested in it.
* `Declaration.Refers`, `Resolved.Refers` — the classes to which a class refers.

## Main results

* `Declaration.declares_iff` — a declaration declares the names of its family.
* `Declaration.mem_references_imports`, `Resolved.mem_references_imports` — **the collected
  references are the classes to which a class refers.**
* `Declaration.outsideOnly_imports`, `Resolved.outsideOnly_imports` — apart from references, only
  names of modules outside of the package are collected.
-/

namespace RpcBindings

open Fallible

/-! ### Declarations -/

namespace Field

variable {x : String}

theorem mem_references_addTo {i : Imports} {f : Field} :
    x ∈ (f.addTo i).references ↔ x ∈ Imports.classesOf f.type ∨ x ∈ i.references := by
  unfold addTo
  simp only
  split
  · rw [Imports.references_add, Imports.references_add, Imports.mem_references_referenceType]
  · rw [Imports.mem_references_referenceType]

theorem outsideOnly_addTo {i : Imports} (h : i.OutsideOnly) (f : Field) :
    (f.addTo i).OutsideOnly := by
  have htype := h.referenceType f.type
  unfold addTo
  simp only
  split
  · exact (htype.add (by decide)).add (by decide)
  · exact htype

end Field

namespace Declaration

variable {x : String}

mutual

/-- A declaration and all those nested in it, at any depth. -/
def family : Declaration → List Declaration
  | record n fields nested s => record n fields nested s :: families nested
  | enumeration n members s => [enumeration n members s]

/-- Several declarations and all those nested in them. -/
def families : List Declaration → List Declaration
  | [] => []
  | d :: ds => family d ++ families ds

end

/-- The fields of a declaration itself. -/
def fields : Declaration → List Field
  | record _ fs _ _ => fs
  | enumeration .. => []

/-- Some field of the declaration, or of one nested in it, has a type with the class. -/
def Refers (d : Declaration) (x : String) : Prop :=
  ∃ e ∈ d.family, ∃ f ∈ e.fields, x ∈ Imports.classesOf f.type

mutual

/-- **A declaration declares the names of its family.** -/
theorem declares_iff : (d : Declaration) → (d.declares x = true ↔ ∃ e ∈ d.family, e.name = x)
  | record n fs nested s => by
    rw [declares, Bool.or_eq_true, anyDeclares_iff nested, family, List.exists_mem_cons_iff]
    simp [name]
  | enumeration n members s => by simp [declares, family, name]

theorem anyDeclares_iff :
    (ds : List Declaration) → (anyDeclares x ds = true ↔ ∃ e ∈ families ds, e.name = x)
  | [] => by simp [anyDeclares, families]
  | d :: ds => by
    rw [anyDeclares, Bool.or_eq_true, declares_iff d, anyDeclares_iff ds, families]
    simp only [List.mem_append, or_and_right, exists_or]

end

mutual

/-- **The references of a declaration** are the classes to which it refers. -/
theorem mem_references_imports :
    (d : Declaration) → (x ∈ d.imports.references ↔ d.Refers x)
  | record n fs nested s => by
    rw [imports, Imports.mem_references_merge, mem_references_importsOfAll nested,
      Imports.mem_references_foldl (p := fun f x => x ∈ Imports.classesOf f.type)
        fun _ _ _ => Field.mem_references_addTo]
    rw [Refers, family, List.exists_mem_cons_iff, fields]
    simp
  | enumeration n members s => by
    have hnone : x ∉ (imports (enumeration n members s)).references := by
      rw [imports]
      split
      · simp
      · simp
    simp [hnone, Refers, family, fields]

theorem mem_references_importsOfAll :
    (ds : List Declaration) → (x ∈ (importsOfAll ds).references ↔
      ∃ e ∈ families ds, ∃ f ∈ e.fields, x ∈ Imports.classesOf f.type)
  | [] => by simp [importsOfAll, families]
  | d :: ds => by
    rw [importsOfAll, Imports.mem_references_merge, mem_references_imports d,
      mem_references_importsOfAll ds, families, Refers]
    simp only [List.mem_append, or_and_right, exists_or]

end

mutual

theorem outsideOnly_imports : (d : Declaration) → d.imports.OutsideOnly
  | record n fs nested s => by
    have hbase : (({} : Imports).add "dataclasses" "dataclass").OutsideOnly :=
      Imports.outsideOnly_empty.add (by decide)
    rw [imports]
    exact (Imports.OutsideOnly.foldl (fun i f _ h => Field.outsideOnly_addTo h f) hbase).merge
      (outsideOnly_importsOfAll nested)
  | enumeration n members s => by
    have hbase : (({} : Imports).add "enum" "StrEnum").OutsideOnly :=
      Imports.outsideOnly_empty.add (by decide)
    rw [imports]
    split
    · exact hbase
    · exact hbase.add (by decide)

theorem outsideOnly_importsOfAll : (ds : List Declaration) → (importsOfAll ds).OutsideOnly
  | [] => by
    rw [importsOfAll]
    exact Imports.outsideOnly_empty
  | d :: ds => by
    rw [importsOfAll]
    exact (outsideOnly_imports d).merge (outsideOnly_importsOfAll ds)

end

/-- A rendered declaration has the name and the needs of the declaration. -/
theorem render_eq_ok {style : Style} {d : Declaration} {out : Rendered}
    (h : d.render style = .ok out) : out.name = d.name ∧ out.imports = d.imports := by
  obtain ⟨link, -, h⟩ := bind_eq_ok_iff.mp h
  cases h
  exact ⟨rfl, rfl⟩

end Declaration

/-! ### Commands -/

namespace Resolved

variable {r : Resolved} {i : Imports} {x : String}

/-- The class of the command refers to a class: it derives from it, its output type names it, or
the type of an argument has it.  Names of the module `typing` are no classes. -/
def Refers (r : Resolved) (x : String) : Prop :=
  x = "RpcCommand" ∨
    (∃ names, TypeExpr.namesIn? r.command.output = some names ∧ x ∈ names ∧
      x ∉ Imports.typingNames) ∨
    ∃ a ∈ r.command.arguments ++ r.overloads.flatten, x ∈ Imports.classesOf a.type

theorem refers_of_output (hnames : TypeExpr.namesIn? r.command.output = some [x])
    (hx : x ∉ Imports.typingNames) : r.Refers x :=
  .inr (.inl ⟨[x], hnames, List.mem_singleton_self x, hx⟩)

/-- What the class of a command needs, step by step. -/
theorem imports_eq_ok_iff :
    r.imports = .ok i ↔ ∃ base,
      ((({} : Imports).add "dataclasses" "dataclass").reference "RpcCommand").referenceText
        r.command.output = .ok base ∧
      i = if r.overloads.isEmpty then
          r.command.arguments.foldl (fun i a => i.referenceType a.type) base
        else
          r.overloads.flatten.foldl (fun i a => i.referenceType a.type)
            ((((r.command.arguments.foldl (fun i a => i.referenceType a.type) base).add
              "typing" "overload").add "dataclasses" "MISSING").add "dataclasses" "fields") := by
  unfold imports
  simp only [bind_eq_ok_iff]
  refine exists_congr fun base => and_congr_right fun _ => ?_
  split
  · exact ⟨fun h => (Except.ok.inj h).symm, fun h => by rw [h]; rfl⟩
  · exact ⟨fun h => (Except.ok.inj h).symm, fun h => by rw [h]; rfl⟩

/-- **The references of a command** are the classes to which it refers. -/
theorem mem_references_imports (h : r.imports = .ok i) : x ∈ i.references ↔ r.Refers x := by
  obtain ⟨base, hbase, rfl⟩ := imports_eq_ok_iff.mp h
  obtain ⟨names, hnames, rfl⟩ := Imports.referenceText_eq_ok_iff.mp hbase
  -- each loop adds the classes of the types that it goes through
  have htypes : ∀ (as : List Argument) (i : Imports),
      x ∈ (as.foldl (fun i a => i.referenceType a.type) i).references ↔
        x ∈ i.references ∨ ∃ a ∈ as, x ∈ Imports.classesOf a.type := by
    intro as i
    rw [Imports.mem_references_foldl (p := fun a x => x ∈ Imports.classesOf a.type)
      (fun _ _ _ => Imports.mem_references_referenceType), or_comm]
  have houtput : x ∈ (names.foldl (fun i n => i.referenceName n)
      ((({} : Imports).add "dataclasses" "dataclass").reference "RpcCommand")).references ↔
        x = "RpcCommand" ∨ x ∈ names ∧ x ∉ Imports.typingNames := by
    rw [Imports.mem_references_foldl (p := fun n x => x = n ∧ x ∉ Imports.typingNames)
      (fun _ _ _ => Imports.mem_references_referenceName), Imports.mem_references_reference,
      or_comm]
    simp
  unfold Refers
  rw [hnames]
  simp only [Option.some.injEq, exists_eq_left', List.mem_append, or_and_right, exists_or]
  split
  · next hempty =>
    rw [htypes, houtput, List.isEmpty_iff.mp hempty, or_assoc]
    simp
  · rw [htypes, Imports.references_add, Imports.references_add, Imports.references_add, htypes,
      houtput, or_assoc, or_assoc]

theorem outsideOnly_imports (h : r.imports = .ok i) : i.OutsideOnly := by
  obtain ⟨base, hbase, rfl⟩ := imports_eq_ok_iff.mp h
  have hstart :
      ((({} : Imports).add "dataclasses" "dataclass").reference "RpcCommand").OutsideOnly :=
    Imports.outsideOnly_empty.add (by decide)
  have htypes : ∀ (as : List Argument) {i : Imports}, i.OutsideOnly →
      (as.foldl (fun i a => i.referenceType a.type) i).OutsideOnly :=
    fun as _ => Imports.OutsideOnly.foldl fun _ a _ hi => hi.referenceType a.type
  have hfields := htypes r.command.arguments (hstart.referenceText hbase)
  split
  · exact hfields
  · exact htypes _ (((hfields.add (by decide)).add (by decide)).add (by decide))

/-- A rendered command has the name and the needs of the command. -/
theorem render_eq_ok {style : Style} {out : Rendered} (h : r.render style = .ok out) :
    out.name = r.command.name ∧ r.imports = .ok out.imports := by
  obtain ⟨i, hi, h⟩ := bind_eq_ok_iff.mp h
  obtain ⟨link, -, h⟩ := bind_eq_ok_iff.mp h
  cases h
  exact ⟨rfl, hi⟩

end Resolved

end RpcBindings
