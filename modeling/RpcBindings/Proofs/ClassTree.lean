import RpcBindings.Proofs.Atoms
import RpcBindings.Proofs.Fallible
import RpcBindings.Proofs.Indentation
import RpcBindings.Render.Declaration

/-!
# Reading rendered classes

The text of a rendered declaration is read back by its indentation.  Each line is recognised by
itself, as the head of a class, as a field, as a member or as a part of the stub of a deprecated
field; and what stands below a head makes up the body of the class.  What is read is the tree of the
declaration.  Only the type of a field can be mistaken, if it looks as if a default stood behind it
and there is none; of a deprecated field the stub has the type once more.

## Main definitions

* `ClassTree` — what a class shows; `Declaration.tree` — what the class of a declaration shows.
* `ClassTree.head?`, `ClassTree.item?` — a line by itself, and with what stands below it.
* `ClassTree.body?` — the body of a class, in which `pass` stands for nothing.
* `ClassTree.read?` — the tree of a text.
* `Declaration.Legible` — names are identifiers, and fields have a given property.
* `Declaration.blocks` — a declaration as lines with what stands below them.

## Main results

* `Declaration.lays_text` — the text of a declaration is laid out as its blocks.
* `Declaration.ofBlocks?_blocks` — the blocks of a declaration are read as its tree.
* `Declaration.tree_read` — **a rendered declaration is read as its tree.**
* `Declaration.tree_hidden` — two declarations with different trees and the same text.
-/

namespace RpcBindings

open Text Render

/-! ### Trees of classes -/

/-- What a class shows of a field: the default, and whether a stub for type checkers follows. -/
structure ClassField where
  name : String
  type : String
  default : Option Default
  stub : Bool
  deriving DecidableEq, Repr

/-- What a class shows. -/
inductive ClassTree
  /-- A class with fields, and the classes inside of it. -/
  | record (name : String) (fields : List ClassField) (nested : List ClassTree)
  /-- A class of strings with its members. -/
  | enumeration (name : String) (members : List String)
  deriving Repr

/-- The field as its class shows it. -/
def Field.shown (f : Field) : ClassField :=
  ⟨f.name, f.type.render, f.default, f.deprecated⟩

namespace Declaration

mutual

/-- The tree of the class of a declaration. -/
def tree : Declaration → ClassTree
  | record n fields nested _ => .record n (fields.map Field.shown) (trees nested)
  | enumeration n members _ => .enumeration n members

/-- The trees of the classes of declarations. -/
def trees : List Declaration → List ClassTree
  | [] => []
  | d :: ds => d.tree :: trees ds

end

end Declaration

namespace ClassTree

open Identifier (isNameChar isNameChar_of_isName)

/-! ### Lines -/

/-- What a line is by itself. -/
inductive Head
  | decorator
  | property
  | deprecation
  | guard
  | pass
  | record (name : List Char)
  | enumeration (name : List Char)
  | method (name type : List Char)
  | member (name : List Char)
  /-- A field, with its type and its default in one. -/
  | field (name value : List Char)
  deriving DecidableEq, Repr

/-- The text without an end. -/
def withoutEnd? (suffix cs : List Char) : Option (List Char) :=
  if suffix <:+ cs then some (cs.take (cs.length - suffix.length)) else none

/-- The text without a start. -/
def withoutStart? (start cs : List Char) : Option (List Char) :=
  if start <+: cs then some (cs.drop start.length) else none

/-- A line that starts with a word and a name, given the two and what follows. -/
def opening? (word name after : List Char) : Option Head :=
  if word = "class".toList then
    if after = ":".toList then some (.record name)
    else if after = "(StrEnum):".toList then some (.enumeration name)
    else none
  else if word = "def".toList then
    ((withoutStart? "(self) -> ".toList after).bind (withoutEnd? ": ...".toList)).map (.method name)
  else if word = "if".toList ∧ name = "TYPE_CHECKING".toList ∧ after = ":".toList then some .guard
  else none

/-- A line that starts with a word and a blank, given the word and what follows the blank. -/
def statement? (word more : List Char) : Option Head :=
  if more = "= auto()".toList then some (.member word)
  else opening? word (more.takeWhile isNameChar) (more.dropWhile isNameChar)

/-- A line by itself. -/
def head? (cs : List Char) : Option Head :=
  let word := cs.takeWhile isNameChar
  match cs.dropWhile isNameChar with
  | ':' :: ' ' :: value => some (.field word value)
  | ' ' :: more => statement? word more
  | _ =>
    if cs = "@dataclass(frozen=True, kw_only=True)".toList then some .decorator
    else if cs = "@property".toList then some .property
    else if cs = "@deprecated(\"Deprecated\")".toList then some .deprecation
    else if cs = "pass".toList then some .pass
    else none

/-! ### Bodies -/

/-- What stands in the body of a class. -/
inductive Item
  /-- A line without a body. -/
  | line (h : Head)
  /-- The stub of a deprecated field. -/
  | stub (name type : List Char)
  /-- A class that needs a decorator. -/
  | record (t : ClassTree)
  | enumeration (t : ClassTree)

/-- The default behind a type. -/
def defaultEnd : Default → List Char
  | .noValue => " = None".toList
  | .unset => " = False".toList
  | .emptyTuple => " = ()".toList

/-- A type and a default, read without knowing the type. -/
def readValue (value : List Char) : List Char × Option Default :=
  ([.noValue, .unset, .emptyTuple].findSome? fun d =>
    (withoutEnd? (defaultEnd d) value).map fun type => (type, some d)).getD (value, none)

/-- The default behind a type that is known. -/
def defaultBehind? (type value : List Char) : Option (Option Default) :=
  [none, some .noValue, some .unset, some .emptyTuple].find? fun d =>
    decide (value = type ++ (d.map defaultEnd).getD [])

/-- The fields and the classes in a body. -/
def contents? : List Item → Option (List ClassField × List ClassTree)
  | [] => some ([], [])
  | .line (.field name value) :: .stub name' type :: is =>
    if name' = name then
      (defaultBehind? type value).bind fun default =>
        (contents? is).map fun (fs, ts) =>
          (⟨String.ofList name, String.ofList type, default, true⟩ :: fs, ts)
    else none
  | .line (.field name value) :: is =>
    let (type, default) := readValue value
    (contents? is).map fun (fs, ts) =>
      (⟨String.ofList name, String.ofList type, default, false⟩ :: fs, ts)
  | .line .decorator :: .record t :: is => (contents? is).map fun (fs, ts) => (fs, t :: ts)
  | .enumeration t :: is => (contents? is).map fun (fs, ts) => (fs, t :: ts)
  | _ => none

/-- The member on a line. -/
def member? : Item → Option String
  | .line (.member name) => some (String.ofList name)
  | _ => none

/-- The body of a class, which must not be empty: `pass` stands for nothing. -/
def body? {α : Type} (read : List Item → Option α) : List Item → Option α
  | [] => none
  | [.line .pass] => read []
  | is => read is

/-- A line with what stands below it. -/
def item? : Head → List Item → Option Item
  | .record name, is =>
    (body? contents? is).map fun (fs, ts) => .record (.record (String.ofList name) fs ts)
  | .enumeration name, is =>
    (body? (List.mapM member?) is).map fun ms =>
      .enumeration (.enumeration (String.ofList name) ms)
  | .guard, [.line .property, .line .deprecation, .line (.method name type)] =>
    some (.stub name type)
  | .guard, _ => none
  | h, [] => some (.line h)
  | _, _ => none

mutual

/-- A block as an item. -/
def ofBlock? : Block → Option Item
  | .mk head body => (head? head).bind fun h => (ofBlocks? body).bind (item? h)

/-- Blocks as items. -/
def ofBlocks? : List Block → Option (List Item)
  | [] => some []
  | b :: bs => (ofBlock? b).bind fun i => (ofBlocks? bs).map (i :: ·)

end

/-- The tree of a text that is a class. -/
def read? (text : String) : Option ClassTree :=
  ((blocks? text.toList).bind ofBlocks?).bind fun
    | [.line .decorator, .record t] => some t
    | [.enumeration t] => some t
    | _ => none

/-! ### Reading lines -/

variable {w cs : List Char} {c : Char}

theorem takeWhile_name (hw : ∀ c ∈ w, isNameChar c = true) (hc : isNameChar c = false)
    (cs : List Char) : (w ++ c :: cs).takeWhile isNameChar = w := by
  rw [List.takeWhile_append_of_pos hw, List.takeWhile_cons_of_neg (by simp [hc]), List.append_nil]

theorem dropWhile_name (hw : ∀ c ∈ w, isNameChar c = true) (hc : isNameChar c = false)
    (cs : List Char) : (w ++ c :: cs).dropWhile isNameChar = c :: cs := by
  rw [List.dropWhile_append_of_pos hw, List.dropWhile_cons_of_neg (by simp [hc])]

theorem withoutEnd?_append (cs suffix : List Char) :
    withoutEnd? suffix (cs ++ suffix) = some cs := by
  rw [withoutEnd?, if_pos (List.suffix_append cs suffix), List.length_append,
    Nat.add_sub_cancel_right, List.take_left]

theorem withoutStart?_append (start cs : List Char) :
    withoutStart? start (start ++ cs) = some cs := by
  rw [withoutStart?, if_pos (List.prefix_append start cs), List.drop_left]

theorem head?_field (hw : Identifier.isName w = true) (value : List Char) :
    head? (w ++ ':' :: ' ' :: value) = some (.field w value) := by
  have hw := isNameChar_of_isName hw
  rw [head?, takeWhile_name hw (by decide), dropWhile_name hw (by decide)]
  rfl

theorem head?_statement (hw : Identifier.isName w = true) (more : List Char) :
    head? (w ++ ' ' :: more) = statement? w more := by
  have hw := isNameChar_of_isName hw
  rw [head?, takeWhile_name hw (by decide), dropWhile_name hw (by decide)]
  rfl

theorem head?_member (hw : Identifier.isName w = true) :
    head? (w ++ " = auto()".toList) = some (.member w) := by
  have h := head?_statement hw "= auto()".toList
  rw [statement?, if_pos rfl] at h
  exact h

/-- What starts with a name is no assignment. -/
theorem name_append_ne (hw : Identifier.isName w = true) (cs : List Char) :
    w ++ cs ≠ "= auto()".toList := by
  cases w with
  | nil => cases hw
  | cons d w =>
    intro h
    have hd := isNameChar_of_isName hw d List.mem_cons_self
    obtain rfl : d = '=' := (List.cons.inj h).1
    exact absurd hd (by decide)

theorem head?_opening {word : List Char} (hword : Identifier.isName word = true)
    (hw : Identifier.isName w = true) (hc : isNameChar c = false) (cs : List Char) :
    head? (word ++ ' ' :: (w ++ c :: cs)) = opening? word w (c :: cs) := by
  have hname := isNameChar_of_isName hw
  rw [head?_statement hword, statement?, if_neg (name_append_ne hw _), takeWhile_name hname hc,
    dropWhile_name hname hc]

theorem head?_record (hw : Identifier.isName w = true) :
    head? ("class".toList ++ ' ' :: (w ++ ":".toList)) = some (.record w) :=
  head?_opening (by decide) hw (by decide) []

theorem head?_enumeration (hw : Identifier.isName w = true) :
    head? ("class".toList ++ ' ' :: (w ++ "(StrEnum):".toList)) = some (.enumeration w) :=
  head?_opening (by decide) hw (by decide) "StrEnum):".toList

theorem opening?_method (w type : List Char) :
    opening? "def".toList w ("(self) -> ".toList ++ (type ++ ": ...".toList)) =
      some (.method w type) := by
  rw [opening?, if_neg (by decide), if_pos rfl, withoutStart?_append, Option.bind_some,
    withoutEnd?_append, Option.map_some]

theorem head?_method (hw : Identifier.isName w = true) (type : List Char) :
    head? ("def".toList ++ ' ' :: (w ++ ("(self) -> ".toList ++ (type ++ ": ...".toList)))) =
      some (.method w type) :=
  (head?_opening (by decide) hw (by decide) ("self) -> ".toList ++ (type ++ ": ...".toList))).trans
    (opening?_method w type)

/-! ### Lines of a text -/

theorem noBreak_of_isName (hw : Identifier.isName w = true) : NoBreak w := by
  have hw := isNameChar_of_isName hw
  exact ⟨fun h => absurd (hw _ h) (by decide), fun h => absurd (hw _ h) (by decide)⟩

theorem lays_name_append (n : Nat) (hw : Identifier.isName w = true) (hcs : NoBreak cs) :
    Lays (List.replicate n ' ' ++ (w ++ cs)) [⟨n, w ++ cs⟩] := by
  refine lays_line n ?_ ?_ (noBreak_append.mpr ⟨noBreak_of_isName hw, hcs⟩)
  · cases w with
    | nil => cases hw
    | cons c w => exact List.cons_ne_nil c _
  · cases w with
    | nil => cases hw
    | cons c w =>
      intro h
      have hc := isNameChar_of_isName hw c List.mem_cons_self
      obtain rfl : c = ' ' := Option.some.inj h
      exact absurd hc (by decide)

/-! ### Reading values -/

/-- No end of a text with a default is the end of another default. -/
theorem withoutEnd?_defaultEnd {d d' : Default} (h : d ≠ d') (type : List Char) :
    withoutEnd? (defaultEnd d') (type ++ defaultEnd d) = none := by
  rw [withoutEnd?, if_neg]
  intro hsuffix
  have hboth := List.suffix_or_suffix_of_suffix hsuffix (List.suffix_append type (defaultEnd d))
  revert hboth
  cases d <;> cases d' <;> first | exact absurd rfl h | decide

theorem toList_render (d : Default) : " = ".toList ++ d.render.toList = defaultEnd d := by
  cases d <;> rfl

theorem readValue_default (type : List Char) (d : Default) :
    readValue (type ++ defaultEnd d) = (type, some d) := by
  cases d with
  | noValue => simp [readValue, withoutEnd?_append]
  | unset => simp [readValue, withoutEnd?_append, withoutEnd?_defaultEnd]
  | emptyTuple => simp [readValue, withoutEnd?_append, withoutEnd?_defaultEnd]

theorem readValue_of_not_suffix {type : List Char} (h : ∀ d, ¬defaultEnd d <:+ type) :
    readValue type = (type, none) := by
  simp [readValue, withoutEnd?, h]

theorem defaultBehind?_append (type : List Char) (d : Option Default) :
    defaultBehind? type (type ++ (d.map defaultEnd).getD []) = some d := by
  simp only [defaultBehind?, List.append_cancel_left_eq]
  rcases d with _ | _ | _ | _ <;> decide

end ClassTree

open ClassTree

/-! ### Blocks of declarations -/

namespace Field

variable {f : Field}

/-- The name of the field is an identifier, and its type is printed on one line. -/
structure IsPlain (f : Field) : Prop where
  name : Identifier.isName f.name.toList = true
  type : NoBreak f.type.render.toList

/-- The type of the field does not look as if a default stood behind it, if there is none and no
stub has the type. -/
def IsClear (f : Field) : Prop :=
  f.deprecated = false → f.default = none → ∀ d, ¬defaultEnd d <:+ f.type.render.toList

/-- What stands behind the name of the field. -/
def value (f : Field) : List Char :=
  f.type.render.toList ++ (f.default.map defaultEnd).getD []

/-- The lines of the stub of the field. -/
def stub (f : Field) : Block :=
  .mk "if TYPE_CHECKING:".toList
    [.mk "@property".toList [], .mk "@deprecated(\"Deprecated\")".toList [],
     .mk ("def".toList ++ ' ' :: (f.name.toList ++
       ("(self) -> ".toList ++ (f.type.render.toList ++ ": ...".toList)))) []]

/-- The blocks of the field. -/
def blocks (f : Field) : List Block :=
  .mk (f.name.toList ++ ':' :: ' ' :: f.value) [] :: if f.deprecated then [f.stub] else []

theorem toList_line (f : Field) : f.line.toList = f.name.toList ++ ':' :: ' ' :: f.value := by
  rw [line, value]
  cases f.default with
  | none => simp [fieldLine]
  | some d => simp [fieldLine, ← toList_render]

theorem IsPlain.noBreak_value (hf : f.IsPlain) : NoBreak f.value := by
  have hdefault : NoBreak ((f.default.map defaultEnd).getD []) := by
    rcases f.default with _ | _ | _ | _ <;> decide
  exact noBreak_append.mpr ⟨hf.type, hdefault⟩

theorem IsPlain.lays_line (hf : f.IsPlain) :
    Lays f.line.toList [⟨0, f.name.toList ++ ':' :: ' ' :: f.value⟩] := by
  rw [toList_line]
  have hsigns : NoBreak ":".toList ∧ NoBreak " ".toList := by decide
  exact lays_name_append 0 hf.name
    (noBreak_cons.mpr ⟨hsigns.1, noBreak_cons.mpr ⟨hsigns.2, hf.noBreak_value⟩⟩)

theorem IsPlain.lays_deprecation (hf : f.IsPlain) :
    LaysAll (f.deprecation.map String.toList) (Block.rowsOf 0 [f.stub]) := by
  have hmethod : ("    def " ++ f.name ++ "(self) -> " ++ f.type.render ++ ": ...").toList =
      List.replicate 4 ' ' ++ ("def".toList ++ ' ' :: (f.name.toList ++
        ("(self) -> ".toList ++ (f.type.render.toList ++ ": ...".toList)))) := by
    simp [List.replicate]
  have hname := noBreak_of_isName hf.name
  have hrest : NoBreak (' ' :: (f.name.toList ++
      ("(self) -> ".toList ++ (f.type.render.toList ++ ": ...".toList)))) :=
    noBreak_cons.mpr ⟨by decide, noBreak_append.mpr ⟨hname, noBreak_append.mpr ⟨by decide,
      noBreak_append.mpr ⟨hf.type, by decide⟩⟩⟩⟩
  have hlast := lays_name_append 4 (w := "def".toList) (by decide) hrest
  rw [← hmethod] at hlast
  have hguard : Lays "if TYPE_CHECKING:".toList [⟨0, "if TYPE_CHECKING:".toList⟩] :=
    Text.lays_line 0 (by decide) (by decide) (by decide)
  have hproperty : Lays "    @property".toList [⟨4, "@property".toList⟩] :=
    Text.lays_line 4 (by decide) (by decide) (by decide)
  have hmark : Lays "    @deprecated(\"Deprecated\")".toList
      [⟨4, "@deprecated(\"Deprecated\")".toList⟩] :=
    Text.lays_line 4 (by decide) (by decide) (by decide)
  have hbody := LaysAll.cons lays_nil (.cons hproperty (.cons hmark (.cons hlast .nil)))
  have hall := LaysAll.cons hguard hbody
  exact hall

/-- The rows of the lines of some fields. -/
theorem lays_lines {fs : List Field} (hfs : ∀ f ∈ fs, f.IsPlain) :
    LaysAll ((lines fs).map String.toList) (Block.rowsOf 0 (fs.flatMap blocks)) := by
  induction fs with
  | nil => exact .nil
  | cons f fs ih =>
    obtain ⟨hf, hfs⟩ := List.forall_mem_cons.mp hfs
    -- the blank line behind a stub has no row
    have hstub : LaysAll ((if f.deprecated = true then
        f.deprecation ++ (if fs.isEmpty = true then [] else [""]) else []).map String.toList)
          (Block.rowsOf 0 (if f.deprecated = true then [f.stub] else [])) := by
      split
      · rw [List.map_append, ← List.append_nil (Block.rowsOf _ _)]
        refine hf.lays_deprecation.append ?_
        split
        · exact .nil
        · exact .cons lays_nil .nil
      · exact .nil
    have hall := LaysAll.cons hf.lays_line (hstub.append (ih hfs))
    rw [lines, List.flatMap_cons, Block.rowsOf_append, blocks, List.cons_append, List.map_cons,
      List.map_append]
    exact hall

end Field

namespace Declaration

/-- The names in a declaration are identifiers, and the fields have a property, at every level. -/
inductive Legible (p : Field → Prop) : Declaration → Prop
  | record {n : String} {fields : List Field} {nested : List Declaration} {s : String}
    (hname : Identifier.isName n.toList = true) (hfields : ∀ f ∈ fields, p f)
    (hnested : ∀ d ∈ nested, Legible p d) : Legible p (.record n fields nested s)
  | enumeration {n : String} {members : List String} {s : String}
    (hname : Identifier.isName n.toList = true)
    (hmembers : ∀ m ∈ members, Identifier.isName m.toList = true) :
    Legible p (.enumeration n members s)

theorem Legible.mono {p q : Field → Prop} (hpq : ∀ f, p f → q f) {d : Declaration}
    (h : d.Legible p) : d.Legible q := by
  induction h with
  | record hname hfields _ ih => exact .record hname (fun f hf => hpq f (hfields f hf)) ih
  | enumeration hname hmembers => exact .enumeration hname hmembers

/-- The line of a member. -/
def memberBlock (m : String) : Block :=
  .mk (m.toList ++ " = auto()".toList) []

/-- A body, or `pass` if there is none. -/
def orPass (bs : List Block) : List Block :=
  if bs.isEmpty then [.mk "pass".toList []] else bs

mutual

/-- The blocks of the class of a declaration. -/
def blocks : Declaration → List Block
  | record n fields nested _ =>
    [.mk decorator.toList [],
     .mk ("class".toList ++ ' ' :: (n.toList ++ ":".toList))
       (orPass (fields.flatMap Field.blocks ++ blocksOfAll nested))]
  | enumeration n members _ =>
    [.mk ("class".toList ++ ' ' :: (n.toList ++ "(StrEnum):".toList))
       (orPass (members.map memberBlock))]

/-- The blocks of the classes of declarations. -/
def blocksOfAll : List Declaration → List Block
  | [] => []
  | d :: ds => d.blocks ++ blocksOfAll ds

end

/-! ### The rows of a declaration -/

theorem toList_joinLines (ls : List String) :
    (joinLines ls).toList = ['\n'].intercalate (ls.map String.toList) :=
  String.toList_intercalate

theorem toList_joinSections (ss : List String) :
    (joinSections ss).toList = ['\n', '\n'].intercalate (ss.map String.toList) :=
  String.toList_intercalate

theorem lays_joinLines {ls : List String} {rs : List Row}
    (h : LaysAll (ls.map String.toList) rs) : Lays (joinLines ls).toList rs := by
  rw [toList_joinLines]
  exact lays_intercalate (.inl rfl) h

/-- The body of a class, if its sections have the rows of some blocks. -/
theorem lays_body {sections : List String} {bs : List Block}
    (h : LaysAll (sections.map String.toList) (Block.rowsOf 0 bs))
    (hempty : sections = [] ↔ bs = []) :
    Lays (body sections).toList (Block.rowsOf 0 (orPass bs)) := by
  simp only [body, orPass, List.isEmpty_iff, hempty]
  split
  · exact lays_line 0 (by decide) (by decide) (by decide)
  · rw [toList_joinSections]
    exact lays_intercalate (.inr rfl) h

theorem lays_classText {head sections : List String} {hs bs : List Block}
    (hhead : LaysAll (head.map String.toList) (Block.rowsOf 0 hs))
    (hbody : Lays (body sections).toList (Block.rowsOf 0 bs)) :
    Lays (classText head sections).toList (Block.rowsOf 0 hs ++ Block.rowsOf 4 bs) := by
  have hindented := hbody.indent 4
  rw [Block.map_shift_rowsOf] at hindented
  refine lays_joinLines ?_
  rw [List.map_append, List.map_singleton, through, String.toList_ofList,
    ← List.append_nil (Block.rowsOf 4 bs)]
  exact hhead.append (.cons hindented .nil)

theorem toList_classLine (n tail : String) :
    ("class " ++ n ++ tail).toList = "class".toList ++ ' ' :: (n.toList ++ tail.toList) := by
  simp

variable {n : String}

theorem lays_classLine (hn : Identifier.isName n.toList = true) (tail : String)
    (htail : NoBreak tail.toList) : Lays ("class " ++ n ++ tail).toList
      [⟨0, "class".toList ++ ' ' :: (n.toList ++ tail.toList)⟩] := by
  rw [toList_classLine]
  exact lays_name_append 0 (w := "class".toList) (by decide)
    (noBreak_cons.mpr ⟨by decide, noBreak_append.mpr ⟨noBreak_of_isName hn, htail⟩⟩)

theorem lays_head_record (hn : Identifier.isName n.toList = true) (fields : List Field)
    (nested : List Declaration) (s : String) :
    LaysAll ((head (record n fields nested s)).map String.toList)
      (Block.rowsOf 0 [.mk decorator.toList [],
        .mk ("class".toList ++ ' ' :: (n.toList ++ ":".toList)) []]) := by
  have hdecorator : Lays decorator.toList [⟨0, decorator.toList⟩] :=
    lays_line 0 (by decide) (by decide) (by decide)
  have hall := LaysAll.cons hdecorator (.cons (lays_classLine hn ":" (by decide)) .nil)
  exact hall

theorem lays_head_enumeration (hn : Identifier.isName n.toList = true) (members : List String)
    (s : String) : LaysAll ((head (enumeration n members s)).map String.toList)
      (Block.rowsOf 0 [.mk ("class".toList ++ ' ' :: (n.toList ++ "(StrEnum):".toList)) []]) := by
  have hall := LaysAll.cons (lays_classLine hn "(StrEnum):" (by decide)) .nil
  exact hall

theorem lays_fieldSection {fields : List Field} (h : ∀ f ∈ fields, f.IsPlain) :
    LaysAll ((fieldSection fields).map String.toList)
      (Block.rowsOf 0 (fields.flatMap Field.blocks)) := by
  cases fields with
  | nil => exact .nil
  | cons f fs =>
    rw [← List.append_nil (Block.rowsOf _ _)]
    exact .cons (lays_joinLines (Field.lays_lines h)) .nil

theorem lays_memberSection {members : List String}
    (h : ∀ m ∈ members, Identifier.isName m.toList = true) :
    LaysAll ((memberSection members).map String.toList)
      (Block.rowsOf 0 (members.map memberBlock)) := by
  have hlines : LaysAll ((members.map fun m => m ++ " = auto()").map String.toList)
      (Block.rowsOf 0 (members.map memberBlock)) := by
    induction members with
    | nil => exact .nil
    | cons m ms ih =>
      obtain ⟨hm, hms⟩ := List.forall_mem_cons.mp h
      have hauto : NoBreak " = auto()".toList := by decide
      have hline := lays_name_append 0 hm hauto
      rw [List.map_cons, List.map_cons, String.toList_append]
      exact .cons hline (ih hms)
  cases members with
  | nil => exact .nil
  | cons m ms =>
    rw [← List.append_nil (Block.rowsOf _ _)]
    exact .cons (lays_joinLines hlines) .nil

theorem fieldSection_eq_nil_iff {fields : List Field} :
    fieldSection fields = [] ↔ fields.flatMap Field.blocks = [] := by
  cases fields <;> simp [fieldSection, Field.blocks]

theorem memberSection_eq_nil_iff {members : List String} :
    memberSection members = [] ↔ members.map memberBlock = [] := by
  cases members <;> simp [memberSection]

theorem texts_eq_nil_iff {ds : List Declaration} : texts ds = [] ↔ blocksOfAll ds = [] := by
  cases ds with
  | nil => simp [texts, blocksOfAll]
  | cons d ds => cases d <;> simp [texts, blocksOfAll, blocks]

mutual

/-- **The rows of the text of a declaration**: the text is laid out as the blocks of the class. -/
theorem lays_text : (d : Declaration) → d.Legible Field.IsPlain →
    Lays (d.text []).toList (Block.rowsOf 0 d.blocks)
  | record n fields nested s, .record hname hfields hnested => by
    have hsections := (lays_fieldSection hfields).append (lays_texts nested hnested)
    rw [← List.map_append, ← Block.rowsOf_append] at hsections
    have hempty : fieldSection fields ++ texts nested = [] ↔
        fields.flatMap Field.blocks ++ blocksOfAll nested = [] := by
      rw [List.append_eq_nil_iff, List.append_eq_nil_iff, fieldSection_eq_nil_iff,
        texts_eq_nil_iff]
    -- the body stands below the last line of the head
    have hclass := lays_classText (lays_head_record hname fields nested s)
      (lays_body hsections hempty)
    exact (Block.rowsOf_body [.mk decorator.toList []]).symm ▸ hclass
  | enumeration n members s, .enumeration hname hmembers => by
    have hclass := lays_classText (lays_head_enumeration hname members s)
      (lays_body (lays_memberSection hmembers) memberSection_eq_nil_iff)
    exact (Block.rowsOf_body []).symm ▸ hclass

theorem lays_texts : (ds : List Declaration) → (∀ d ∈ ds, d.Legible Field.IsPlain) →
    LaysAll ((texts ds).map String.toList) (Block.rowsOf 0 (blocksOfAll ds))
  | [], _ => .nil
  | d :: ds, h => by
    obtain ⟨hd, hds⟩ := List.forall_mem_cons.mp h
    rw [texts, List.map_cons, blocksOfAll, Block.rowsOf_append]
    exact .cons (lays_text d hd) (lays_texts ds hds)

end

end Declaration

/-! ### Reading blocks -/

namespace ClassTree

theorem ofBlocks?_append {bs bs' : List Block} {is is' : List Item} (h : ofBlocks? bs = some is)
    (h' : ofBlocks? bs' = some is') : ofBlocks? (bs ++ bs') = some (is ++ is') := by
  induction bs generalizing is with
  | nil =>
    cases h
    exact h'
  | cons b bs ih =>
    rw [ofBlocks?] at h
    obtain ⟨i, hi, h⟩ := Option.bind_eq_some_iff.mp h
    obtain ⟨js, hjs, rfl⟩ := Option.map_eq_some_iff.mp h
    rw [List.cons_append, ofBlocks?, hi, Option.bind_some, ih hjs]
    rfl

section Fields

variable {name type : String} {value : List Char} {default : Option Default} {is : List Item}
  {fs : List ClassField} {ts : List ClassTree}

/-- A field is not deprecated if no stub follows. -/
theorem contents?_field (hvalue : readValue value = (type.toList, default))
    (h : contents? is = some (fs, ts)) : contents? (.line (.field name.toList value) :: is) =
      some (⟨name, type, default, false⟩ :: fs, ts) := by
  rw [contents?, hvalue, h]
  · simp only [Option.map_some, String.ofList_toList]
  · -- a stub by itself is not read, so what follows does not start with one
    rintro name' type' is' rfl
    cases h

theorem contents?_stub (hvalue : defaultBehind? type.toList value = some default)
    (h : contents? is = some (fs, ts)) :
    contents? (.line (.field name.toList value) :: .stub name.toList type.toList :: is) =
      some (⟨name, type, default, true⟩ :: fs, ts) := by
  rw [contents?, if_pos rfl, hvalue, Option.bind_some, h, Option.map_some, String.ofList_toList,
    String.ofList_toList]

end Fields

/-- The body of a class is read whether or not it is empty. -/
theorem body?_orPass {α : Type} {read : List Item → Option α} {bs : List Block} {is : List Item}
    {a : α} (hpass : read [.line .pass] = none) (hbs : ofBlocks? bs = some is)
    (hread : read is = some a) :
    (ofBlocks? (Declaration.orPass bs)).bind (body? read) = some a := by
  cases bs with
  | nil =>
    cases hbs
    have hblock : ofBlocks? (Declaration.orPass []) = some [.line .pass] := by rfl
    rw [hblock, Option.bind_some, body?, hread]
  | cons b bs =>
    have hblock : Declaration.orPass (b :: bs) = b :: bs := rfl
    rw [hblock, hbs, Option.bind_some]
    rw [ofBlocks?] at hbs
    obtain ⟨i, -, hbs⟩ := Option.bind_eq_some_iff.mp hbs
    obtain ⟨is, -, rfl⟩ := Option.map_eq_some_iff.mp hbs
    rw [body?]
    · exact hread
    · exact List.cons_ne_nil i is
    · intro h
      rw [h, hpass] at hread
      cases hread

end ClassTree

namespace Field

/-- What is read of the field. -/
def items (f : Field) : List Item :=
  .line (.field f.name.toList f.value) ::
    if f.deprecated then [.stub f.name.toList f.type.render.toList] else []

theorem IsPlain.ofBlock?_stub {f : Field} (hf : f.IsPlain) :
    ofBlock? f.stub = some (.stub f.name.toList f.type.render.toList) := by
  have hmethod := head?_method hf.name f.type.render.toList
  have hguard : head? "if TYPE_CHECKING:".toList = some .guard := by decide
  have hproperty : ofBlock? (.mk "@property".toList []) = some (.line .property) := by rfl
  have hmark : ofBlock? (.mk "@deprecated(\"Deprecated\")".toList []) =
      some (.line .deprecation) := by rfl
  rw [stub, ofBlock?, hguard, Option.bind_some, ofBlocks?, hproperty, ofBlocks?, hmark, ofBlocks?,
    ofBlock?, hmethod]
  rfl

theorem IsPlain.ofBlocks?_blocks {f : Field} (hf : f.IsPlain) :
    ofBlocks? f.blocks = some f.items := by
  rw [blocks, ofBlocks?, ofBlock?, head?_field hf.name, items]
  cases f.deprecated with
  | false => rfl
  | true =>
    have hstub : ofBlocks? [f.stub] = some [.stub f.name.toList f.type.render.toList] := by
      rw [ofBlocks?, hf.ofBlock?_stub]
      rfl
    rw [if_pos rfl, hstub]
    rfl

theorem ofBlocks?_flatMap {fs : List Field} (hfs : ∀ f ∈ fs, f.IsPlain) :
    ofBlocks? (fs.flatMap blocks) = some (fs.flatMap items) := by
  induction fs with
  | nil => rfl
  | cons f fs ih =>
    obtain ⟨hf, hfs⟩ := List.forall_mem_cons.mp hfs
    rw [List.flatMap_cons, List.flatMap_cons]
    exact ofBlocks?_append hf.ofBlocks?_blocks (ih hfs)

/-- The type and the default of a field are told apart, unless a stub has the type. -/
theorem IsClear.readValue_value {f : Field} (hf : f.IsClear) (hstub : f.deprecated = false) :
    readValue f.value = (f.type.render.toList, f.default) := by
  have hclear := hf hstub
  rw [value]
  cases hdefault : f.default with
  | none =>
    rw [Option.map_none, Option.getD_none, List.append_nil]
    exact readValue_of_not_suffix (hclear hdefault)
  | some d => exact readValue_default f.type.render.toList d

/-- **Fields are read in their order**, whatever follows them. -/
theorem contents?_items {fs : List Field} (hfs : ∀ f ∈ fs, f.IsClear) {is : List Item}
    {shown : List ClassField} {ts : List ClassTree} (h : contents? is = some (shown, ts)) :
    contents? (fs.flatMap items ++ is) = some (fs.map Field.shown ++ shown, ts) := by
  induction fs with
  | nil => exact h
  | cons f fs ih =>
    obtain ⟨hf, hfs⟩ := List.forall_mem_cons.mp hfs
    rw [List.flatMap_cons, List.append_assoc, items, List.map_cons, Field.shown]
    cases hstub : f.deprecated with
    | false => exact contents?_field (hf.readValue_value hstub) (ih hfs)
    | true => exact contents?_stub (defaultBehind?_append _ f.default) (ih hfs)

end Field

namespace Declaration

/-- What is read of the declaration. -/
def items : Declaration → List Item
  | record n fields nested s => [.line .decorator, .record (record n fields nested s).tree]
  | enumeration n members s => [.enumeration (enumeration n members s).tree]

/-- **Classes are read in their order.** -/
theorem contents?_items (ds : List Declaration) :
    contents? (ds.flatMap items) = some ([], trees ds) := by
  induction ds with
  | nil => rfl
  | cons d ds ih =>
    rw [List.flatMap_cons, trees]
    cases d with
    | record n fields nested s =>
      rw [items, List.cons_append, List.cons_append, List.nil_append, contents?, ih,
        Option.map_some]
    | enumeration n members s =>
      rw [items, List.cons_append, List.nil_append, contents?, ih, Option.map_some]

theorem ofBlocks?_members {members : List String}
    (h : ∀ m ∈ members, Identifier.isName m.toList = true) :
    ofBlocks? (members.map memberBlock) =
      some (members.map fun m => .line (.member m.toList)) := by
  induction members with
  | nil => rfl
  | cons m ms ih =>
    obtain ⟨hm, hms⟩ := List.forall_mem_cons.mp h
    rw [List.map_cons, ofBlocks?, memberBlock, ofBlock?, head?_member hm, ih hms]
    rfl

theorem mapM_member? (members : List String) :
    (members.map fun m => Item.line (.member m.toList)).mapM member? = some members := by
  induction members with
  | nil => rfl
  | cons m ms ih =>
    rw [List.map_cons, List.mapM_cons, ih, member?, String.ofList_toList]
    rfl

/-- A class with its body. -/
theorem ofBlock?_class {α : Type} {read : List Item → Option α} {make : α → Item}
    {cs : List Char} {h : Head} {bs : List Block} {is : List Item} {a : α}
    (hhead : head? cs = some h) (hitem : item? h = fun is => (body? read is).map make)
    (hpass : read [.line .pass] = none) (hbs : ofBlocks? bs = some is) (hread : read is = some a) :
    ofBlock? (.mk cs (orPass bs)) = some (make a) := by
  have hbody := body?_orPass hpass hbs hread
  rw [ofBlock?, hhead, Option.bind_some, hitem, ← Option.map_some, ← hbody, Option.map_bind]
  rfl

mutual

/-- **The blocks of a declaration are read as its tree.** -/
theorem ofBlocks?_blocks : (d : Declaration) → d.Legible (fun f => f.IsPlain ∧ f.IsClear) →
    ofBlocks? d.blocks = some d.items
  | record n fields nested s, .record hname hfields hnested => by
    have hplain := Field.ofBlocks?_flatMap fun f hf => (hfields f hf).1
    have hcontents := Field.contents?_items (fun f hf => (hfields f hf).2)
      (contents?_items nested)
    have hclass := ofBlock?_class (head?_record hname) (by rfl) rfl
      (ofBlocks?_append hplain (ofBlocks?_blocksOfAll nested hnested)) hcontents
    have hdecorator : ofBlock? (.mk decorator.toList []) = some (.line .decorator) := by rfl
    rw [String.ofList_toList, List.append_nil] at hclass
    rw [blocks, ofBlocks?, hdecorator, ofBlocks?, hclass]
    rfl
  | enumeration n members s, .enumeration hname hmembers => by
    have hclass := ofBlock?_class (head?_enumeration hname) (by rfl) rfl
      (ofBlocks?_members hmembers) (mapM_member? members)
    rw [String.ofList_toList] at hclass
    rw [blocks, ofBlocks?, hclass]
    rfl

theorem ofBlocks?_blocksOfAll : (ds : List Declaration) →
    (∀ d ∈ ds, d.Legible (fun f => f.IsPlain ∧ f.IsClear)) →
      ofBlocks? (blocksOfAll ds) = some (ds.flatMap items)
  | [], _ => rfl
  | d :: ds, h => by
    obtain ⟨hd, hds⟩ := List.forall_mem_cons.mp h
    exact ofBlocks?_append (ofBlocks?_blocks d hd) (ofBlocks?_blocksOfAll ds hds)

end

variable {d : Declaration} {style : Style}

/-- Without a link, the text of a declaration is its class. -/
theorem render_of_sourceLink (h : style.sourceLink = none) :
    d.render style = .ok ⟨d.name, d.text [], d.imports⟩ := by
  rw [render, h]
  rfl

/-- **A rendered declaration is read as its tree**: the classes with their names and kinds, their
fields with types, defaults and stubs, their members, and the classes that they nest. -/
theorem tree_read (h : d.Legible fun f => f.IsPlain ∧ f.IsClear) (hlink : style.sourceLink = none) :
    ∃ out, d.render style = .ok out ∧ read? out.text = some d.tree := by
  have hlays := lays_text d (h.mono fun _ hf => hf.1)
  refine ⟨_, render_of_sourceLink hlink, ?_⟩
  rw [read?, blocks?_of_lays hlays, Option.bind_some, ofBlocks?_blocks d h]
  cases d <;> rfl

/-- A record with a field of each kind, and with empty classes inside of it. -/
def contact : Declaration :=
  .record "Contact" [⟨"id", .int, none, false⟩, ⟨"number", .str, none, true⟩,
      ⟨"name", .optional .str, some .noValue, false⟩]
    [.record "Profile" [] [] "", .enumeration "Trust" ["ALWAYS", "NEVER"] "",
     .enumeration "Nothing" [] ""] "Contact.java"

theorem contact_legible : contact.Legible fun f => f.IsPlain ∧ f.IsClear := by
  refine .record (by decide) ?_ ?_
  · refine List.forall_mem_cons.mpr ⟨⟨⟨by decide, by decide⟩, fun _ _ d => ?_⟩, ?_⟩
    · cases d <;> decide
    refine List.forall_mem_cons.mpr ⟨⟨⟨by decide, by decide⟩, fun h => ?_⟩, ?_⟩
    · cases h
    exact List.forall_mem_singleton.mpr ⟨⟨by decide, by decide⟩, fun _ h => by cases h⟩
  · refine List.forall_mem_cons.mpr ⟨.record (by decide) (by simp) (by simp), ?_⟩
    exact List.forall_mem_cons.mpr ⟨.enumeration (by decide) (by decide),
      List.forall_mem_singleton.mpr (.enumeration (by decide) (by simp))⟩

theorem contact_tree_read : (contact.Legible fun f => f.IsPlain ∧ f.IsClear) ∧
    ({} : Style).sourceLink = none ∧
      ∃ out, contact.render {} = .ok out ∧ read? out.text = some contact.tree :=
  ⟨contact_legible, rfl, tree_read contact_legible rfl⟩

/-- A type that looks as if a default stood behind it. -/
def hiddenDefault : Declaration :=
  .record "T" [⟨"x", .named ["str = None"], none, false⟩] [] ""

/-- A type with a default. -/
def shownDefault : Declaration :=
  .record "T" [⟨"x", .str, some .noValue, false⟩] [] ""

/-- **Nothing in a text tells a default from a type that looks like one**: no reader has the tree of
each declaration, even if names are identifiers and types have no line breaks. -/
theorem tree_hidden : ¬∃ reader : String → Option ClassTree, ∀ (d : Declaration) (style : Style),
    d.Legible Field.IsPlain → style.sourceLink = none →
      ∃ out, d.render style = .ok out ∧ reader out.text = some d.tree := by
  rintro ⟨reader, hreader⟩
  have hplain : ∀ f : Field, f.IsPlain → (record "T" [f] [] "").Legible Field.IsPlain :=
    fun f hf => .record (by decide) (List.forall_mem_singleton.mpr hf) (by simp)
  obtain ⟨out, hout, hhidden⟩ :=
    hreader hiddenDefault {} (hplain _ ⟨by decide, by decide⟩) rfl
  obtain ⟨out', hout', hshown⟩ :=
    hreader shownDefault {} (hplain _ ⟨by decide, by decide⟩) rfl
  rw [render_of_sourceLink rfl] at hout hout'
  cases hout
  cases hout'
  have htext : hiddenDefault.text [] = shownDefault.text [] := by decide
  rw [htext, hshown] at hhidden
  simp [hiddenDefault, shownDefault, tree, Field.shown] at hhidden

end Declaration

end RpcBindings
