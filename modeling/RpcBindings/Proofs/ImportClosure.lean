import RpcBindings.Proofs.Assembly
import RpcBindings.Proofs.Registration

/-!
# The imports of generated modules

Which of the classes to which a module refers are imported.  A module leaves out every name that it
declares, at whatever place: a command class hides the result of the same name, and a class that one
declaration nests hides the class of the same name from all the others.

## Main definitions

* `GeneratedModule.HasImports` — the imports that a module prints.
* `Model.ProvidedOutside` — another module provides a class.
* `Model.Unresolved` — a command refers to a class that nothing provides.
* `generates` — evaluates what is generated from files with given lines.

## Main results

* `mem_namesFrom_iff_not_declares` — a class of another module is imported exactly when the module
  does not declare its name.
* `commands_import_closure` — **the imports of the commands**, and the error for unknown classes.
* `declarations_import_closure` — **the imports of the outputs and of the types.**
-/

namespace RpcBindings

open Fallible Source
open Command (ofLines)

variable {c : Config} {k : Checkout} {m : Model} {ms : List GeneratedModule} {kind : ModuleKind}
  {x module : String}

/-- The imports that are found for a module of the model, and with which its text is laid out. -/
def GeneratedModule.HasImports (g : GeneratedModule) (c : Config) (k : Checkout) (m : Model)
    (i : Imports) : Prop :=
  ∃ t, contents c m g.kind = .ok t ∧ importsFor c m g.kind t = .ok i ∧
    g.text = (t.layout c (k.header c) i).text

namespace Model

/-- A class is provided by a module, and this is another one than that of the given kind. -/
def ProvidedOutside (c : Config) (m : Model) (kind : ModuleKind) (x module : String) : Prop :=
  m.moduleOf? c x = some module ∧ module ≠ "." ++ kind.moduleName c.output

/-- Some command refers to a class that no module provides and that is no command class. -/
def Unresolved (c : Config) (m : Model) (x : String) : Prop :=
  (∃ r ∈ m.commands, r.Refers x) ∧ m.moduleOf? c x = none ∧ x ∉ m.classNames .commands

theorem isRelative_of_moduleOf? (h : m.moduleOf? c x = some module) :
    Imports.isRelative module = true := by
  obtain ⟨name, -, rfl⟩ := Option.map_eq_some_iff.mp h
  simp [Imports.isRelative]

end Model

/-- What a declaration refers to, its module refers to. -/
theorem Model.refers_of_mem_declarations {d : Declaration} (hd : d ∈ m.declarations kind)
    (h : d.Refers x) : m.Refers x kind := by
  cases kind with
  | commands => cases hd
  | outputs => exact ⟨d, hd, h⟩
  | types => exact ⟨d, hd, h⟩

/-! ### Successful runs -/

/-- Every kind of module is generated. -/
theorem exists_assemble_of_generate (hm : Model.ofCheckout c k = .ok m)
    (h : generate c k = .ok ms) (kind : ModuleKind) :
    ∃ g ∈ ms, assemble c m (k.header c) kind = .ok g := by
  obtain ⟨m', hm', hall⟩ := generate_eq_ok_iff.mp h
  rw [hm] at hm'
  cases hm'
  exact exists_left_of_forall₂ hall.flip (mem_all kind)

/-- **A class of another module is imported exactly when the module does not declare its name**, be
it at the top or nested in some other class. -/
theorem mem_namesFrom_iff_not_declares (hm : Model.ofCheckout c k = .ok m)
    (h : generate c k = .ok ms) (kind : ModuleKind) :
    ∃ g ∈ ms, g.kind = kind ∧ ∃ i, g.HasImports c k m i ∧
      ∀ x module, m.Refers x kind → m.ProvidedOutside c kind x module →
        (x ∈ i.namesFrom module ↔ ¬ m.Declares x kind) := by
  obtain ⟨g, hg, hassemble⟩ := exists_assemble_of_generate hm h kind
  obtain ⟨t, i, ht, -, hi, rfl⟩ := assemble_eq_ok_iff.mp hassemble
  have hshows := contents_spec ht
  refine ⟨_, hg, rfl, i, ⟨t, ht, hi, rfl⟩, ?_⟩
  rintro x module hrefers ⟨hmodule, hne⟩
  -- the classes themselves collect no name of the package
  have hneeds : t.needs.namesFrom module = [] :=
    hshows.outsideOnly.namesFrom_eq_nil (Model.isRelative_of_moduleOf? hmodule)
  rw [mem_namesFrom_importsFor hi, hneeds, ← hshows.isLocal_iff, Bool.not_eq_true]
  constructor
  · rintro (hnone | ⟨-, hlocal, -⟩)
    · cases hnone
    · exact hlocal
  · intro hlocal
    exact .inr ⟨(hshows.references_iff x).mpr hrefers, hlocal, hmodule, hne⟩

/-! ### Failing runs -/

theorem importOf?_eq_error_of_unresolved {t : Contents} (ht : t.Shows m .commands)
    (h : m.Unresolved c x) : importOf? c m .commands t x = .error (.config (.unknownOutput x)) := by
  obtain ⟨-, hmodule, hname⟩ := h
  refine importOf?_eq_error_iff.mpr ⟨rfl, ?_, hmodule, rfl⟩
  rw [← Bool.not_eq_true, ht.isLocal_iff]
  rintro (hclass | ⟨d, hd, -⟩)
  · exact hname hclass
  · cases hd

/-- Where imports of the commands have been found, no class is unresolved. -/
theorem not_unresolved_of_importsFor {t : Contents} {i : Imports} (ht : t.Shows m .commands)
    (h : importsFor c m .commands t = .ok i) : ¬ m.Unresolved c x := by
  intro hx
  obtain ⟨found, hfound, -⟩ := bind_eq_ok_iff.mp h
  have hmem : x ∈ t.needs.references := (ht.references_iff x).mpr hx.1
  obtain ⟨o, -, ho⟩ := exists_left_of_forall₂ (mapM_eq_ok_iff.mp hfound).flip hmem
  rw [importOf?_eq_error_of_unresolved ht hx] at ho
  cases ho

/-- Where imports of the commands have not been found, an unresolved class is the reason. -/
theorem exists_unresolved_of_importsFor {t : Contents} {e : Error} (ht : t.Shows m .commands)
    (h : importsFor c m .commands t = .error e) :
    ∃ y, m.Unresolved c y ∧ e = .config (.unknownOutput y) := by
  rcases bind_eq_error_iff.mp h with hfound | ⟨found, -, h⟩
  · obtain ⟨y, hy, herror⟩ := exists_mem_of_mapM_eq_error hfound
    obtain ⟨-, hlocal, hmodule, rfl⟩ := importOf?_eq_error_iff.mp herror
    rw [← Bool.not_eq_true, ht.isLocal_iff] at hlocal
    exact ⟨y, ⟨(ht.references_iff y).mp hy, hmodule, fun hname => hlocal (.inl hname)⟩, rfl⟩
  · cases h

/-- A run that succeeds leaves no class of a command unresolved. -/
theorem not_unresolved_of_generate (hm : Model.ofCheckout c k = .ok m)
    (h : generate c k = .ok ms) : ¬ m.Unresolved c x := by
  obtain ⟨g, -, hassemble⟩ := exists_assemble_of_generate hm h .commands
  obtain ⟨t, i, ht, -, hi, -⟩ := assemble_eq_ok_iff.mp hassemble
  exact not_unresolved_of_importsFor (contents_spec ht) hi

/-- The commands come first, so that what is wrong with them is what is reported. -/
theorem generate_eq_error_of_commands {t : Contents} {e : Error}
    (hm : Model.ofCheckout c k = .ok m) (ht : contents c m .commands = .ok t)
    (hnodup : t.names.Nodup) (h : importsFor c m .commands t = .error e) :
    generate c k = .error e := by
  have hrepeated : firstRepeated? [] t.names = none :=
    firstRepeated?_eq_none_iff.mpr ⟨hnodup, fun _ _ => List.not_mem_nil⟩
  have hassemble : assemble c m (k.header c) .commands = .error e := by
    refine bind_eq_error_iff.mpr (.inr ⟨t, ht, ?_⟩)
    rw [hrepeated]
    exact bind_eq_error_iff.mpr (.inl h)
  refine bind_eq_error_iff.mpr (.inr ⟨m, hm, ?_⟩)
  rw [ModuleKind.all, List.mapM_cons]
  exact bind_eq_error_iff.mpr (.inl hassemble)

/-- Nothing else is wrong with commands that can be rendered and have different names. -/
theorem exists_unresolved_of_generate (hm : Model.ofCheckout c k = .ok m)
    (hrender : ∀ r ∈ m.commands, ∃ out, r.render c.output.style = .ok out)
    (hnodup : (m.classNames .commands).Nodup) (hx : m.Unresolved c x) :
    ∃ y, m.Unresolved c y ∧ generate c k = .error (.config (.unknownOutput y)) := by
  cases houts : m.commands.mapM (Resolved.render c.output.style) with
  | error e =>
    obtain ⟨r, hr, herror⟩ := exists_mem_of_mapM_eq_error houts
    obtain ⟨out, hout⟩ := hrender r hr
    rw [hout] at herror
    cases herror
  | ok outs =>
    obtain ⟨t, ht⟩ : ∃ t, contents c m .commands = .ok t :=
      ⟨_, bind_eq_ok_iff.mpr ⟨outs, houts, rfl⟩⟩
    have hshows := contents_spec ht
    have hnames : t.names.Nodup := hshows.names_eq ▸ hnodup
    cases hi : importsFor c m .commands t with
    | ok i => exact absurd hx (not_unresolved_of_importsFor hshows hi)
    | error e =>
      obtain ⟨y, hy, rfl⟩ := exists_unresolved_of_importsFor hshows hi
      exact ⟨y, hy, generate_eq_error_of_commands hm ht hnames hi⟩

/-! ### Checkouts from lines -/

/-- What is read from a file with the given path and lines. -/
def parsed? (f : String × List String) : Option File :=
  File.ofText? f.1 (ofLines f.2)

theorem parsed?_eq (f : String × List String) : parsed? f =
    (Node.ofText? (Text.join ['\n'] (f.2.map String.toList))).map
      fun root => ⟨f.1, ofLines f.2, root⟩ := by
  rw [parsed?, File.ofText?, ofLines, String.toList_ofList]

/-- Whether files with command classes and files with records have a model that satisfies `p`
together with what is generated from it. -/
def generates (c : Config) (commands json : List (String × List String))
    (p : Model → Except Error (List GeneratedModule) → Bool) : Bool :=
  let read := fun f : String × List String =>
    (Node.ofText? (Text.join ['\n'] (f.2.map String.toList))).map
      fun root => (⟨f.1, ofLines f.2, root⟩ : File)
  match commands.mapM read, json.mapM read with
  | some fs, some js => match Model.ofCheckout c ⟨fs, js⟩ with
    | .error _ => false
    | .ok m => p m (ModuleKind.all.mapM (assemble c m (Checkout.header c ⟨fs, js⟩)))
  | _, _ => false

/-- What files generate exists.  Each file is read only once, by the evaluation of `generates`, and
so is the model made. -/
theorem exists_of_generates {commands json : List (String × List String)}
    {p : Model → Except Error (List GeneratedModule) → Bool}
    (h : generates c commands json p = true) :
    ∃ k m, commands.mapM parsed? = some k.commands ∧ json.mapM parsed? = some k.json ∧
      Model.ofCheckout c k = .ok m ∧ p m (generate c k) = true := by
  rw [funext parsed?_eq]
  unfold generates at h
  simp only at h
  split at h
  · next fs js hfs hjs =>
    split at h
    · cases h
    next m hm =>
    refine ⟨⟨fs, js⟩, m, hfs, hjs, hm, ?_⟩
    rw [generate, hm]
    exact h
  · cases h

/-- Whether no text like the start of a statement that imports from the given module stands among
the imports of a module. -/
def lacksImport (c : Config) (m : Model) (kind : ModuleKind) (module : String) : Bool :=
  match contents c m kind with
  | .error _ => false
  | .ok t => match importsFor c m kind t with
    | .error _ => false
    | .ok i =>
      decide (¬ ("from " ++ module ++ " import ").toList <:+: (i.block c.output.lineLength).toList)

theorem exists_of_lacksImport (hm : Model.ofCheckout c k = .ok m) (h : generate c k = .ok ms)
    (hlacks : lacksImport c m kind module = true) :
    ∃ g ∈ ms, g.kind = kind ∧ ∃ i, g.HasImports c k m i ∧
      ∀ x, ¬ Imports.Brings (i.block c.output.lineLength) module x := by
  obtain ⟨g, hg, hassemble⟩ := exists_assemble_of_generate hm h kind
  obtain ⟨t, i, ht, -, hi, rfl⟩ := assemble_eq_ok_iff.mp hassemble
  unfold lacksImport at hlacks
  rw [ht] at hlacks
  simp only [hi] at hlacks
  exact ⟨_, hg, rfl, i, ⟨t, ht, hi, rfl⟩,
    fun x => Imports.not_brings_of_not_infix (of_decide_eq_true hlacks)⟩

/-! ### Closure -/

/-- **The imports of the commands.**  A class of another module to which a command refers is
imported from it, unless a command class has the same name; then it is not imported at all.  A class
that is not known makes the run fail: with the error for it, if the commands can be rendered and
have different names. -/
theorem commands_import_closure (hm : Model.ofCheckout c k = .ok m) :
    (∀ ms, generate c k = .ok ms →
      ∃ g ∈ ms, g.kind = .commands ∧ ∃ i, g.HasImports c k m i ∧
        ∀ r ∈ m.commands, ∀ x module, r.Refers x → m.ProvidedOutside c .commands x module →
          ((∀ r' ∈ m.commands, r'.command.name ≠ x) →
            Imports.Brings (i.block c.output.lineLength) module x) ∧
          ((∃ r' ∈ m.commands, r'.command.name = x) → x ∉ i.namesFrom module)) ∧
    ∀ x, m.Unresolved c x →
      (∀ ms, generate c k ≠ .ok ms) ∧
      ((∀ r ∈ m.commands, ∃ out, r.render c.output.style = .ok out) →
        (m.commands.map fun r => r.command.name).Nodup →
          ∃ y, m.Unresolved c y ∧ generate c k = .error (.config (.unknownOutput y))) := by
  refine ⟨fun ms h => ?_, fun x hx => ⟨fun ms h => ?_, fun hrender hnodup => ?_⟩⟩
  · obtain ⟨g, hg, hkind, i, hi, himported⟩ := mem_namesFrom_iff_not_declares hm h .commands
    refine ⟨g, hg, hkind, i, hi, fun r hr x module hrefers hmodule => ?_⟩
    have hiff := himported x module ⟨r, hr, hrefers⟩ hmodule
    constructor
    · intro hnot
      refine Imports.brings_block _ (hiff.mpr ?_)
      rintro (hname | ⟨d, hd, -⟩)
      · obtain ⟨r', hr', hname⟩ := List.mem_map.mp hname
        exact hnot r' hr' hname
      · cases hd
    · rintro ⟨r', hr', hname⟩ hmem
      exact hiff.mp hmem (.inl (List.mem_map.mpr ⟨r', hr', hname⟩))
  · exact not_unresolved_of_generate hm h hx
  · exact exists_unresolved_of_generate hm hrender hnodup hx

/-- A command class with a record whose name becomes the name of the command. -/
def versionCommand : List String :=
  ["class VersionCommand implements JsonRpcLocalCommand \x7b",
   "String getName() \x7b return \"version\"; \x7d",
   "void attachToSubparser(Subparser p) \x7b\x7d",
   "record JsonVersion(String version) \x7b\x7d",
   "\x7d"]

/-- The configuration with an output for the command. -/
def versionConfig (output : String) : Config where
  commands := { outputs := [("Version", output)] }
  output := { provenance := false }

/-- The command is the only one. -/
def isVersion (output : String) (m : Model) : Bool :=
  m.commands.map (fun r => (r.command.name, r.command.output)) == [("Version", output)]

theorem exists_of_isVersion {output : String} (h : isVersion output m = true)
    (hnames : TypeExpr.namesIn? output = some [output]) (htyping : output ∉ Imports.typingNames) :
    ∃ r, m.commands = [r] ∧ r.command.name = "Version" ∧ r.Refers output := by
  obtain ⟨r, hr, heq⟩ := List.map_eq_singleton_iff.mp (eq_of_beq h)
  obtain ⟨hname, houtput⟩ := Prod.mk.inj heq
  exact ⟨r, hr, hname, Resolved.refers_of_output (houtput ▸ hnames) htyping⟩

theorem generates_version :
    generates (versionConfig "Version") [("c/VersionCommand.java", versionCommand)] []
      (fun m o => isVersion "Version" m &&
        m.moduleOf? (versionConfig "Version") "RpcCommand" == some ".session" &&
        m.moduleOf? (versionConfig "Version") "Version" == some ".outputs" &&
        lacksImport (versionConfig "Version") m .commands ".outputs" &&
        o.toOption.isSome) = true := by
  decide +kernel

theorem generates_missing :
    generates (versionConfig "Missing") [("c/VersionCommand.java", versionCommand)] []
      (fun m _ => isVersion "Missing" m &&
        m.moduleOf? (versionConfig "Missing") "Missing" == none &&
        m.commands.all fun r =>
          (r.render (versionConfig "Missing").output.style).toOption.isSome) = true := by
  decide +kernel

/-- The output `Version` is not imported by the module with the command `Version`. -/
theorem version_output_not_imported :
    ∃ k m ms, [("c/VersionCommand.java", versionCommand)].mapM parsed? = some k.commands ∧
      k.json = [] ∧ Model.ofCheckout (versionConfig "Version") k = .ok m ∧
      generate (versionConfig "Version") k = .ok ms ∧
      (∃ r ∈ m.commands, r.Refers "Version") ∧
      m.ProvidedOutside (versionConfig "Version") .commands "Version" ".outputs" ∧
      ∃ g ∈ ms, g.kind = .commands ∧ ∃ i, g.HasImports (versionConfig "Version") k m i ∧
        ¬ Imports.Brings (i.block 100) ".outputs" "Version" := by
  obtain ⟨k, m, hcommands, hjson, hm, h⟩ := exists_of_generates generates_version
  simp only [Bool.and_eq_true, beq_iff_eq] at h
  obtain ⟨⟨⟨⟨hversion, -⟩, hmodule⟩, hlacks⟩, hsome⟩ := h
  obtain ⟨ms, hms⟩ := exists_ok_of_isSome hsome
  obtain ⟨r, hr, -, hrefers⟩ := exists_of_isVersion hversion (by decide +kernel) (by decide)
  obtain ⟨g, hg, hkind, i, hi, hnot⟩ := exists_of_lacksImport hm hms hlacks
  exact ⟨k, m, ms, hcommands, (Option.some.inj hjson).symm, hm, hms, ⟨r, by simp [hr], hrefers⟩,
    ⟨hmodule, by decide⟩, g, hg, hkind, i, hi, hnot "Version"⟩

theorem version_import_closure :
    (∃ k m ms, Model.ofCheckout (versionConfig "Version") k = .ok m ∧
      generate (versionConfig "Version") k = .ok ms ∧
      ∃ g ∈ ms, ∃ i, g.HasImports (versionConfig "Version") k m i ∧
        Imports.Brings (i.block 100) ".session" "RpcCommand" ∧
        "Version" ∉ i.namesFrom ".outputs") ∧
    ∃ k m y, Model.ofCheckout (versionConfig "Missing") k = .ok m ∧
      generate (versionConfig "Missing") k = .error (.config (.unknownOutput y)) := by
  constructor
  · obtain ⟨k, m, -, -, hm, h⟩ := exists_of_generates generates_version
    simp only [Bool.and_eq_true, beq_iff_eq] at h
    obtain ⟨⟨⟨⟨hversion, hsession⟩, hmodule⟩, -⟩, hsome⟩ := h
    obtain ⟨ms, hms⟩ := exists_ok_of_isSome hsome
    obtain ⟨r, hr, hname, hrefers⟩ := exists_of_isVersion hversion (by decide +kernel) (by decide)
    obtain ⟨g, hg, -, i, hi, himports⟩ := (commands_import_closure hm).1 ms hms
    rw [hr] at himports
    refine ⟨k, m, ms, hm, hms, g, hg, i, hi, ?_, ?_⟩
    · refine (himports r (by simp) "RpcCommand" ".session" (.inl rfl) ⟨hsession, by decide⟩).1 ?_
      simp [hname]
    · refine (himports r (by simp) "Version" ".outputs" hrefers ⟨hmodule, by decide⟩).2 ?_
      simp [hname]
  · obtain ⟨k, m, -, -, hm, h⟩ := exists_of_generates generates_missing
    simp only [Bool.and_eq_true, beq_iff_eq, List.all_eq_true] at h
    obtain ⟨⟨hversion, hmodule⟩, hrender⟩ := h
    obtain ⟨r, hr, hname, hrefers⟩ := exists_of_isVersion hversion (by decide +kernel) (by decide)
    have hunresolved : m.Unresolved (versionConfig "Missing") "Missing" :=
      ⟨⟨r, by simp [hr], hrefers⟩, hmodule, by simp [Model.classNames, hr, hname]⟩
    have hrendered : ∀ r ∈ m.commands,
        ∃ out, r.render (versionConfig "Missing").output.style = .ok out :=
      fun r hr => exists_ok_of_isSome (hrender r hr)
    obtain ⟨y, -, hy⟩ :=
      ((commands_import_closure hm).2 "Missing" hunresolved).2 hrendered (by simp [hr])
    exact ⟨k, m, y, hm, hy⟩

/-- **The imports of the outputs and of the types.**  A class of another module to which a
declaration refers is imported from it, unless some declaration of the module declares the name at
some depth, be it another one than that which refers to it; then it is not imported at all. -/
theorem declarations_import_closure (hm : Model.ofCheckout c k = .ok m)
    (h : generate c k = .ok ms) (kind : ModuleKind) :
    ∃ g ∈ ms, g.kind = kind ∧ ∃ i, g.HasImports c k m i ∧
      ∀ d ∈ m.declarations kind, ∀ x module, d.Refers x → x ∉ m.classNames kind →
        m.ProvidedOutside c kind x module →
          ((∀ d' ∈ m.declarations kind, ∀ e ∈ d'.family, e.name ≠ x) →
            Imports.Brings (i.block c.output.lineLength) module x) ∧
          ((∃ d' ∈ m.declarations kind, ∃ e ∈ d'.family, e.name = x) →
            x ∉ i.namesFrom module) := by
  obtain ⟨g, hg, hkind, i, hi, himported⟩ := mem_namesFrom_iff_not_declares hm h kind
  refine ⟨g, hg, hkind, i, hi, fun d hd x module hrefers htop hmodule => ?_⟩
  have hiff := himported x module (Model.refers_of_mem_declarations hd hrefers) hmodule
  constructor
  · intro hnot
    refine Imports.brings_block _ (hiff.mpr ?_)
    rintro (hname | ⟨d', hd', e, he, hname⟩)
    · exact htop hname
    · exact hnot d' hd' e he hname
  · intro hnested hmem
    exact hiff.mp hmem (.inr hnested)

/-- A class with two records, of which the second nests a record with the given name. -/
def chatRecords (nested : String) : List String :=
  ["class Results \x7b",
   "record JsonChat(JsonContact contact) \x7b\x7d",
   "record JsonCard(int id) \x7b record " ++ nested ++ "(int number) \x7b\x7d \x7d",
   "\x7d"]

/-- A record that is shared. -/
def contactRecord : List String :=
  ["record JsonContact(int uuid) \x7b\x7d"]

/-- The configuration without a note on the origin of the modules. -/
def plainConfig : Config where
  output := { provenance := false }

/-- An output refers to the shared class `Contact` and does not declare it. -/
def refersToContact (m : Model) : Bool :=
  m.moduleOf? plainConfig "Contact" == some ".types" &&
    !(m.classNames .outputs).contains "Contact" &&
    m.outputs.any fun d => d.imports.references.contains "Contact" && !d.declares "Contact"

theorem exists_of_refersToContact (h : refersToContact m = true) :
    m.ProvidedOutside plainConfig .outputs "Contact" ".types" ∧
      "Contact" ∉ m.classNames .outputs ∧
      ∃ d ∈ m.outputs, d.Refers "Contact" ∧ ∀ e ∈ d.family, e.name ≠ "Contact" := by
  simp only [refersToContact, Bool.and_eq_true, beq_iff_eq, Bool.not_eq_true', List.any_eq_true,
    List.contains_iff_mem, ← Bool.not_eq_true] at h
  obtain ⟨⟨hmodule, htop⟩, d, hd, hrefers, hdeclares⟩ := h
  refine ⟨⟨hmodule, by decide⟩, htop, d, hd, d.mem_references_imports.mp hrefers, ?_⟩
  intro e he hname
  exact hdeclares (d.declares_iff.mpr ⟨e, he, hname⟩)

theorem generates_nested :
    generates plainConfig [("c/Results.java", chatRecords "JsonContact")]
      [("j/JsonContact.java", contactRecord)]
      (fun m o => refersToContact m && (m.outputs.any fun d => d.declares "Contact") &&
        lacksImport plainConfig m .outputs ".types" && o.toOption.isSome) = true := by
  decide +kernel

theorem generates_unrelated :
    generates plainConfig [("c/Results.java", chatRecords "JsonNumber")]
      [("j/JsonContact.java", contactRecord)]
      (fun m o => refersToContact m && (m.outputs.all fun d => !d.declares "Contact") &&
        o.toOption.isSome) = true := by
  decide +kernel

/-- The class that one output nests keeps the other one from importing the shared class. -/
theorem shared_contact_not_imported :
    ∃ k m ms, [("c/Results.java", chatRecords "JsonContact")].mapM parsed? = some k.commands ∧
      [("j/JsonContact.java", contactRecord)].mapM parsed? = some k.json ∧
      Model.ofCheckout plainConfig k = .ok m ∧ generate plainConfig k = .ok ms ∧
      "Contact" ∉ m.classNames .outputs ∧
      (∃ d ∈ m.outputs, d.Refers "Contact" ∧ ∀ e ∈ d.family, e.name ≠ "Contact") ∧
      m.ProvidedOutside plainConfig .outputs "Contact" ".types" ∧
      ∃ g ∈ ms, g.kind = .outputs ∧ ∃ i, g.HasImports plainConfig k m i ∧
        ¬ Imports.Brings (i.block 100) ".types" "Contact" := by
  obtain ⟨k, m, hcommands, hjson, hm, h⟩ := exists_of_generates generates_nested
  simp only [Bool.and_eq_true] at h
  obtain ⟨⟨⟨hcontact, -⟩, hlacks⟩, hsome⟩ := h
  obtain ⟨ms, hms⟩ := exists_ok_of_isSome hsome
  obtain ⟨hmodule, htop, hrefers⟩ := exists_of_refersToContact hcontact
  obtain ⟨g, hg, hkind, i, hi, hnot⟩ := exists_of_lacksImport hm hms hlacks
  exact ⟨k, m, ms, hcommands, hjson, hm, hms, htop, hrefers, hmodule, g, hg, hkind, i, hi,
    hnot "Contact"⟩

theorem contact_import_closure :
    (∃ k m ms, Model.ofCheckout plainConfig k = .ok m ∧ generate plainConfig k = .ok ms ∧
      ∃ g ∈ ms, ∃ i, g.HasImports plainConfig k m i ∧
        Imports.Brings (i.block 100) ".types" "Contact") ∧
    ∃ k m ms, Model.ofCheckout plainConfig k = .ok m ∧ generate plainConfig k = .ok ms ∧
      ∃ g ∈ ms, ∃ i, g.HasImports plainConfig k m i ∧ "Contact" ∉ i.namesFrom ".types" := by
  constructor
  · obtain ⟨k, m, -, -, hm, h⟩ := exists_of_generates generates_unrelated
    simp only [Bool.and_eq_true, List.all_eq_true, Bool.not_eq_true'] at h
    obtain ⟨⟨hcontact, hnone⟩, hsome⟩ := h
    obtain ⟨ms, hms⟩ := exists_ok_of_isSome hsome
    obtain ⟨hmodule, htop, d, hd, hrefers, -⟩ := exists_of_refersToContact hcontact
    obtain ⟨g, hg, -, i, hi, himports⟩ := declarations_import_closure hm hms .outputs
    refine ⟨k, m, ms, hm, hms, g, hg, i, hi, ?_⟩
    refine (himports d hd "Contact" ".types" hrefers htop hmodule).1 fun d' hd' e he hname => ?_
    have hdeclares := d'.declares_iff.mpr ⟨e, he, hname⟩
    rw [hnone d' hd'] at hdeclares
    cases hdeclares
  · obtain ⟨k, m, -, -, hm, h⟩ := exists_of_generates generates_nested
    simp only [Bool.and_eq_true, List.any_eq_true] at h
    obtain ⟨⟨⟨hcontact, d', hd', hdeclares⟩, -⟩, hsome⟩ := h
    obtain ⟨ms, hms⟩ := exists_ok_of_isSome hsome
    obtain ⟨hmodule, htop, d, hd, hrefers, -⟩ := exists_of_refersToContact hcontact
    obtain ⟨g, hg, -, i, hi, himports⟩ := declarations_import_closure hm hms .outputs
    refine ⟨k, m, ms, hm, hms, g, hg, i, hi, ?_⟩
    refine (himports d hd "Contact" ".types" hrefers htop hmodule).2 ⟨d', hd', ?_⟩
    exact d'.declares_iff.mp hdeclares

end RpcBindings
