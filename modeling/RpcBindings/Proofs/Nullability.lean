import RpcBindings.Proofs.KnownTypes
import Mathlib.Logic.Function.Iterate

/-!
# Nullability and layers of mapped types

Types that are built from names, primitive types and arrays of bytes with `Optional`, `List` and
`Set`.  Whether such a type may be null is decided at its innermost type alone: a list or a set puts
one sequence around what its argument is mapped to, and an optional type nothing at all.

## Main definitions

* `JavaType` — the types that are built so.
* `JavaType.IsSpelledBy` — the syntax nodes of such a type.
* `JavaType.sequences`, `JavaType.hasCapital` — the lists and sets around the innermost type, and
  whether that type has a capital.
* `JavaType.base`, `JavaType.classes` — what the innermost type is mapped to apart from its `None`,
  and the classes that it names.

## Main results

* `JavaType.ofNode_of_isSpelledBy` — the mapped type of a node, layer by layer.
* `JavaType.nested_types_mapped` — **every such type is mapped**, with one sequence for each list or
  set and at most one `None`, directly around the innermost type.
-/

namespace RpcBindings

open Text Source

/-- The generic types that may stand around another type. -/
inductive Generic
  | optional
  | list
  | set
  deriving DecidableEq, Repr

/-- The name of a generic type. -/
def Generic.name : Generic → String
  | optional => "Optional"
  | list => "List"
  | set => "Set"

/-- How many sequences a generic type becomes. -/
def Generic.layers : Generic → Nat
  | optional => 0
  | list | set => 1

/-- What a generic type does with the type of its argument. -/
def Generic.wrapper : Generic → TypeExpr.Wrapper
  | optional => .transparent
  | list | set => .sequence

theorem Generic.wrapper?_name (g : Generic) :
    TypeExpr.wrapper? g.name.toList = some g.wrapper := by
  cases g <;> rfl

theorem Generic.apply_wrapper (g : Generic) (t : TypeExpr) :
    g.wrapper.apply t = TypeExpr.tuple^[g.layers] t := by
  cases g <;> rfl

/-- A type built with generic types around an innermost one. -/
inductive JavaType
  /-- The array `byte[]`. -/
  | bytes
  /-- A primitive type of the given name. -/
  | primitive (name : String)
  /-- A class of the given name. -/
  | simple (name : String)
  /-- A nested class, by the names with dots between them. -/
  | dotted (names : List String)
  | generic (g : Generic) (argument : JavaType)
  deriving DecidableEq, Repr

namespace JavaType

/-- The known primitive types. -/
def primitives : List String :=
  ["int", "long", "float", "double", "boolean"]

/-- The syntax nodes of a type.  All names of classes have a capital. -/
inductive IsSpelledBy : JavaType → Node → Prop
  | bytes {n : Node} (hkind : n.kind? = some .arrayType)
    (htext : compact n.text = ['b', 'y', 't', 'e', '[', ']']) : IsSpelledBy bytes n
  | primitive {n : Node} (hkind : n.kind? = some .integralType ∨
      n.kind? = some .floatingPointType ∨ n.kind? = some .booleanType)
    (hname : n.word ∈ primitives) : IsSpelledBy (primitive n.word) n
  | simple {n : Node} (hkind : n.kind? = some .typeIdentifier)
    (hcapital : isCapitalized n.text = true) : IsSpelledBy (simple n.word) n
  | dotted {n : Node} {ws : List (List Char)} (hkind : n.kind? = some .scopedTypeIdentifier)
    (hwords : n.Names ws) (hcapitals : ws.all isCapitalized = true) :
    IsSpelledBy (dotted (ws.map String.ofList)) n
  | generic {n name argument : Node} {g : Generic} {T : JavaType}
    (hn : n.IsGeneric name argument) (hkind : name.kind? = some .typeIdentifier)
    (hname : name.word = g.name) (hargument : IsSpelledBy T argument) :
    IsSpelledBy (generic g T) n

/-- How many lists and sets stand around the innermost type. -/
def sequences : JavaType → Nat
  | generic g T => g.layers + T.sequences
  | _ => 0

/-- Whether the name of the innermost type has a capital. -/
def hasCapital : JavaType → Bool
  | bytes => isCapitalized "byte[]".toList
  | primitive name | simple name => isCapitalized name.toList
  | dotted names => names.all fun name => isCapitalized name.toList
  | generic _ T => T.hasCapital

/-- What the innermost type is mapped to, apart from its `None`. -/
def base (pre : String) : JavaType → TypeExpr
  | bytes => .bytes
  | primitive name | simple name =>
    (TypeExpr.builtin? name).getD (.named [unprefixed pre name])
  | dotted names => .named (names.map (unprefixed pre))
  | generic _ T => T.base pre

/-- The classes that the innermost type names: none if the type is built in. -/
def classes (pre : String) : JavaType → List (List String)
  | simple name =>
    if (TypeExpr.builtin? name).isSome then [] else [[unprefixed pre name]]
  | dotted names => [names.map (unprefixed pre)]
  | generic _ T => T.classes pre
  | _ => []

end JavaType

namespace TypeExpr

/-- Whether a type consists of no other type. -/
def isAtom : TypeExpr → Bool
  | str | int | float | bool | bytes | named _ => true
  | _ => false

/-- The type, with `None` added if it may be null. -/
def orNoneIf (nullable : Bool) (t : TypeExpr) : TypeExpr :=
  if nullable then optional t else t

end TypeExpr

namespace JavaType

open TypeExpr

variable {T : JavaType} {n : Node} {pre path : String}

/-! ### The innermost type -/

theorem isAtom_of_builtin? {name : String} {t : TypeExpr} (h : builtin? name = some t) :
    t.isAtom = true := by
  unfold builtin? at h
  split at h
  case h_12 => cases h
  all_goals
    cases h
    rfl

theorem isAtom_named (pre name : String) :
    ((builtin? name).getD (.named [unprefixed pre name])).isAtom = true := by
  cases h : builtin? name with
  | none => rfl
  | some t => exact isAtom_of_builtin? h

theorem isAtom_base (pre : String) (T : JavaType) : (T.base pre).isAtom = true := by
  induction T with
  | bytes => rfl
  | primitive name => exact isAtom_named pre name
  | simple name => exact isAtom_named pre name
  | dotted names => rfl
  | generic g T ih => exact ih

theorem orNone_of_isAtom {t : TypeExpr} (h : t.isAtom = true) : t.orNone = optional t := by
  cases t <;> first | rfl | cases h

/-- The primitive types are built in, and have no capital. -/
theorem spec_of_mem_primitives {name : String} (h : name ∈ primitives) :
    isCapitalized name.toList = false ∧ (builtin? name).isSome = true := by
  have hall : ∀ name ∈ primitives,
      isCapitalized name.toList = false ∧ (builtin? name).isSome = true := by decide
  exact hall name h

/-- A simple name is mapped to its base, which may be null if the name has a capital. -/
theorem ofName?_eq (pre name : String)
    (h : isCapitalized name.toList = true ∨ (builtin? name).isSome = true) :
    ofName? pre name = some (orNoneIf (isCapitalized name.toList)
      ((builtin? name).getD (.named [unprefixed pre name]))) := by
  rw [ofName?, orNoneIf]
  split
  · rw [orNone_of_isAtom (isAtom_named pre name)]
  · next hcapital =>
    obtain ⟨t, ht⟩ := Option.isSome_iff_exists.mp (h.resolve_left hcapital)
    rw [ht, Option.getD_some]

theorem references_orNoneIf (nullable : Bool) (t : TypeExpr) :
    (orNoneIf nullable t).references = t.references := by
  cases nullable <;> rfl

theorem references_tuples (k : Nat) (t : TypeExpr) :
    (tuple^[k] t).references = t.references := by
  induction k with
  | zero => rfl
  | succ k ih =>
    rw [Function.iterate_succ_apply']
    exact ih

/-- The innermost type names its classes. -/
theorem references_base (h : T.IsSpelledBy n) (pre : String) :
    (T.base pre).references = T.classes pre := by
  induction h with
  | bytes => rfl
  | @primitive n hkind hname =>
    obtain ⟨t, ht⟩ := Option.isSome_iff_exists.mp (spec_of_mem_primitives hname).2
    rw [base, ht]
    exact references_of_builtin? ht
  | @simple n hkind hcapital =>
    rw [base, classes]
    cases hbuiltin : builtin? n.word with
    | none => rfl
    | some t => exact references_of_builtin? hbuiltin
  | dotted => rfl
  | generic _ _ _ _ ih => exact ih

/-! ### Layers -/

/-- The mapped type of a node, layer by layer. -/
theorem ofNode_of_isSpelledBy (h : T.IsSpelledBy n) (pre path : String) :
    ofNode pre path n = .ok (tuple^[T.sequences] (orNoneIf T.hasCapital (T.base pre))) := by
  have hplain : ∀ {n : Node} {k : Kind} {t : TypeExpr}, n.kind? = some k → k ≠ .genericType →
      ofPlain pre n = .ok t → ofNode pre path n = .ok t := by
    intro n k t hk hne ht
    rw [ofNode_of_ne (by simpa [hk] using hne), ht]
    rfl
  -- all but the last case are innermost types, which no sequence surrounds
  induction h with
  | @bytes n hkind htext =>
    refine hplain hkind (by decide) ?_
    rw [ofPlain, hkind]
    simp only [htext, beq_self_eq_true, if_true]
    rfl
  | @primitive n hkind hname =>
    have hspec := spec_of_mem_primitives hname
    have hname := ofName?_eq pre n.word (.inr hspec.2)
    rcases hkind with hkind | hkind | hkind
    all_goals
      refine hplain hkind (by decide) ?_
      rw [ofPlain, hkind]
      simp only [hname]
      rfl
  | @simple n hkind hcapital =>
    have hname := ofName?_eq pre n.word (.inl (by rwa [Node.word, String.toList_ofList]))
    refine hplain hkind (by decide) ?_
    rw [ofPlain, hkind]
    simp only [hname]
    rfl
  | @dotted n ws hkind hwords hcapitals =>
    have hpath := ofPath?_of_names pre hwords
    rw [if_pos hcapitals] at hpath
    have hcapital : hasCapital (dotted (ws.map String.ofList)) = true := by
      rw [hasCapital, List.all_map]
      simpa [Function.comp_def] using hcapitals
    refine hplain hkind (by decide) ?_
    rw [ofPlain, hkind, hcapital]
    simp only [hpath, sequences, base, orNoneIf, if_true, List.map_map, Function.comp_def]
    rfl
  | @generic n name argument g T hn hkind hname _ ih =>
    have htext : name.text = g.name.toList := by
      rw [← hname, Node.word, String.toList_ofList]
    have hwrapper : wrapper? name.text = some g.wrapper := by rw [htext, g.wrapper?_name]
    -- the layer of the wrapper comes around those of its argument
    rw [ofNode_generic hn (by simp [hkind]) hwrapper, ih, sequences, Function.iterate_add_apply,
      ← g.apply_wrapper]
    rfl

/-- **Every type that is built so is mapped**, whatever the prefix.  One sequence stands for each
list and each set around the innermost type.  `None` is added at most once, directly around what the
innermost type is mapped to, and if and only if its name has a capital.  The classes that are named
are those of the innermost type, and further `Optional`s around the type change nothing. -/
theorem nested_types_mapped (h : T.IsSpelledBy n) (pre path : String) :
    (∃ t, ofNode pre path n = .ok t ∧
      t = tuple^[T.sequences] (if T.hasCapital then optional (T.base pre) else T.base pre) ∧
        (T.base pre).isAtom = true ∧ t.references = T.classes pre) ∧
    ∀ k m, ((generic .optional)^[k] T).IsSpelledBy m → ofNode pre path m = ofNode pre path n := by
  have hsame : ∀ k, ((generic .optional)^[k] T).sequences = T.sequences ∧
      ((generic .optional)^[k] T).hasCapital = T.hasCapital ∧
        ((generic .optional)^[k] T).base pre = T.base pre := by
    intro k
    induction k with
    | zero => exact ⟨rfl, rfl, rfl⟩
    | succ k ih =>
      rw [Function.iterate_succ_apply', sequences, Generic.layers, Nat.zero_add]
      exact ih
  have hresult := ofNode_of_isSpelledBy h pre path
  refine ⟨⟨_, hresult, rfl, isAtom_base pre T, ?_⟩, fun k m hm => ?_⟩
  · rw [references_tuples, references_orNoneIf, references_base h]
  · obtain ⟨hsequences, hcapital, hbase⟩ := hsame k
    rw [ofNode_of_isSpelledBy hm, hresult, hsequences, hcapital, hbase]

/-- Whether a node is a generic type of the given name whose argument has the property. -/
def isGenericWith (g : Generic) (p : Node → Bool) (n : Node) : Bool :=
  match n.members with
  | [name, arguments] =>
    n.is .genericType && name.is .typeIdentifier && name.word == g.name &&
      arguments.is .typeArguments && match arguments.members with
        | [argument] => p argument
        | _ => false
  | _ => false

theorem isSpelledBy_of_isGenericWith {g : Generic} {p : Node → Bool}
    (h : isGenericWith g p n = true)
    (hp : ∀ m ∈ n.preorder, p m = true → T.IsSpelledBy m) : (generic g T).IsSpelledBy n := by
  unfold isGenericWith at h
  split at h
  · next name arguments hmembers =>
    simp only [Bool.and_eq_true, Node.is, beq_iff_eq] at h
    obtain ⟨⟨⟨⟨hn, hkind⟩, hname⟩, harguments⟩, h⟩ := h
    split at h
    · next argument hargument =>
      have hgeneric : n.IsGeneric name argument := ⟨hn, arguments, hmembers, harguments, hargument⟩
      exact .generic hgeneric hkind hname (hp argument (mem_preorder_of_isGeneric hgeneric) h)
    · cases h
  · cases h

/-- Whether a node is a plain dotted type of the given names, which have a capital. -/
def isDottedAs (names : List String) (n : Node) : Bool :=
  n.is .scopedTypeIdentifier && decide n.IsPlain &&
    ((splitOn '.' n.text).map fun s => String.ofList (trim s)) == names &&
      names.all fun name => isCapitalized name.toList

theorem isSpelledBy_of_isDottedAs {names : List String} (hn : n.Everywhere Node.Conforms)
    (h : isDottedAs names n = true) : (dotted names).IsSpelledBy n := by
  simp only [isDottedAs, Bool.and_eq_true, Node.is, beq_iff_eq, decide_eq_true_eq] at h
  obtain ⟨⟨⟨hkind, hplain⟩, hnames⟩, hcapitals⟩ := h
  obtain ⟨ws, hws⟩ := Node.exists_names n hn hkind hplain
  have hnone : ∀ c ∈ ([] : List Char), isBlank c = true := by simp
  have hwords : (splitOn '.' n.text).map trim = ws := by
    simpa using hws.map_trim_splitOn hnone hnone
  have heq : names = ws.map String.ofList := by
    rw [← hnames, ← hwords, List.map_map]
    rfl
  subst heq
  rw [List.all_map] at hcapitals
  exact .dotted hkind hws (by simpa [Function.comp_def] using hcapitals)

/-- A nested class in a set in a list, with optional types around the set and around the list. -/
def nestedTypes : String :=
  "record JsonT(Optional<List<Optional<Set<Outer.JsonInner>>>> value) \x7b\x7d"

theorem hasComponent_nestedTypes :
    hasComponent nestedTypes (isGenericWith .optional (isGenericWith .list
      (isGenericWith .optional (isGenericWith .set (isDottedAs ["Outer", "JsonInner"])))))
      = true := by
  decide +kernel

/-- Two sequences stand around the nested class, which is the only part that may be null, and the
outer `Optional` changes nothing. -/
theorem nestedTypes_nested_types_mapped :
    ∃ file n m, File.ofText? "JsonT.java" nestedTypes = some file ∧ n ∈ file.root.preorder ∧
      (generic .list (generic .optional (generic .set
        (dotted ["Outer", "JsonInner"])))).IsSpelledBy m ∧
      (generic .optional (generic .list (generic .optional (generic .set
        (dotted ["Outer", "JsonInner"]))))).IsSpelledBy n ∧
      ofNode "Json" "JsonT.java" m = .ok (tuple (tuple (optional (named ["Outer", "Inner"])))) ∧
      ofNode "Json" "JsonT.java" n = ofNode "Json" "JsonT.java" m := by
  obtain ⟨file, n, hfile, hn, h⟩ := exists_of_hasComponent hasComponent_nestedTypes "JsonT.java"
  have hconforms := (File.conforms hfile).of_mem hn
  have hspelled : (generic .optional (generic .list (generic .optional (generic .set
      (dotted ["Outer", "JsonInner"]))))).IsSpelledBy n := by
    refine isSpelledBy_of_isGenericWith h fun m hm h => ?_
    refine isSpelledBy_of_isGenericWith h fun l hl h => ?_
    refine isSpelledBy_of_isGenericWith h fun k hk h => ?_
    refine isSpelledBy_of_isGenericWith h fun j hj h => ?_
    have hconforms := (((hconforms.of_mem hm).of_mem hl).of_mem hk).of_mem hj
    exact isSpelledBy_of_isDottedAs hconforms h
  cases hspelled with
  | @generic _ _ m _ _ hgeneric hkind hname hargument =>
    obtain ⟨⟨t, ht, heq, -⟩, hsame⟩ := nested_types_mapped hargument "Json" "JsonT.java"
    have hspelled := IsSpelledBy.generic hgeneric hkind hname hargument
    refine ⟨file, n, m, hfile, hn, hargument, hspelled, ?_, hsame 1 n hspelled⟩
    rw [ht, heq]
    decide

end JavaType

end RpcBindings
