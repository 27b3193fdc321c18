import RpcBindings.Config
import RpcBindings.Proofs.Fallible
import Mathlib.Data.List.Basic

/-!
# Keys of converters

Converters are found by a normal form of source text.  It is computed from the front to the back,
but which `.class` goes is a matter of the places where it stands: no two of them overlap, because
the dot stands only at their start.

## Main definitions

* `classMark`, `IsMarkAt` — a `.class` that ends a class literal, at a place of a text.
* `withoutMarks` — the characters of a text that belong to no such mark.
* `InsertsBlanks` — a text with blanks put in anywhere.

## Main results

* `dropClassMarks_eq` — the pass over a text takes out the marks, and nothing else.
* `InsertsBlanks.converterKey_eq` — blanks do not show in the normal form.
* `CommandTable.converters_found` — **what the normal form is, and that look-ups go by it.**
-/

namespace RpcBindings

open Text

/-! ### Marks of class literals -/

variable {c : Char} {cs ds : List Char} {i k : Nat}

/-- The end of a class literal. -/
def classMark : List Char := ['.', 'c', 'l', 'a', 's', 's']

/-- At the place `k` of a text stands a `.class` that the end of the text, a closing parenthesis or
a comma follows. -/
def IsMarkAt (cs : List Char) (k : Nat) : Prop :=
  classMark <+: cs.drop k ∧ ∀ c ∈ cs[k + classMark.length]?, c = ')' ∨ c = ','

-- The character behind is looked up: a search through all characters would decide the same.
instance : Decidable (IsMarkAt cs k) :=
  haveI : Decidable (∀ c ∈ cs[k + classMark.length]?, c = ')' ∨ c = ',') :=
    Option.decidableForallMem _
  inferInstanceAs (Decidable (_ ∧ ∀ c ∈ cs[k + classMark.length]?, c = ')' ∨ c = ','))

/-- The place `i` of a text belongs to a mark. -/
def IsInMark (cs : List Char) (i : Nat) : Prop :=
  ∃ k ≤ i, i < k + classMark.length ∧ IsMarkAt cs k

instance : Decidable (IsInMark cs i) :=
  inferInstanceAs (Decidable (∃ k ≤ i, _))

/-- The characters of a text that belong to no mark, in their order. -/
def withoutMarks (cs : List Char) : List Char :=
  (cs.zipIdx.filter fun p => ¬IsInMark cs p.2).map Prod.fst

theorem isMarkAt_append : IsMarkAt (ds ++ cs) (ds.length + k) ↔ IsMarkAt cs k := by
  have hplace : (ds ++ cs)[ds.length + k + classMark.length]? = cs[k + classMark.length]? := by
    rw [Nat.add_assoc, List.getElem?_append_right (Nat.le_add_right _ _), Nat.add_sub_cancel_left]
  rw [IsMarkAt, IsMarkAt, List.drop_length_add_append, hplace]

/-- A mark starts with a dot. -/
theorem IsMarkAt.getElem?_eq (h : IsMarkAt cs k) : cs[k]? = some '.' := by
  obtain ⟨rest, hrest⟩ := h.1
  have hfirst : (cs.drop k)[0]? = some '.' := by
    rw [← hrest]
    rfl
  rwa [List.getElem?_drop] at hfirst

theorem isMarkAt_zero_iff : IsMarkAt (classMark ++ cs) 0 ↔ endsClassLiteral cs = true := by
  rw [IsMarkAt, List.drop_zero, and_iff_right (List.prefix_append _ _), Nat.zero_add,
    List.getElem?_append_right (Nat.le_refl _), Nat.sub_self]
  cases cs <;> simp [endsClassLiteral]

/-- Where no mark in the first text reaches into the second one, the places of the second text
belong to the same marks as before. -/
theorem isInMark_append
    (h : ∀ k < ds.length, IsMarkAt (ds ++ cs) k → k + classMark.length ≤ ds.length) :
    IsInMark (ds ++ cs) (ds.length + i) ↔ IsInMark cs i := by
  constructor
  · rintro ⟨k, hk, hi, hmark⟩
    rcases Nat.lt_or_ge k ds.length with hinside | hbehind
    · have hreach := h k hinside hmark
      omega
    · obtain ⟨j, rfl⟩ := Nat.exists_eq_add_of_le hbehind
      exact ⟨j, by omega, by omega, isMarkAt_append.mp hmark⟩
  · rintro ⟨k, hk, hi, hmark⟩
    exact ⟨ds.length + k, by omega, by omega, isMarkAt_append.mpr hmark⟩

theorem withoutMarks_append
    (h : ∀ k < ds.length, IsMarkAt (ds ++ cs) k → k + classMark.length ≤ ds.length) :
    withoutMarks (ds ++ cs)
      = (ds.zipIdx.filter fun p => ¬IsInMark (ds ++ cs) p.2).map Prod.fst ++ withoutMarks cs := by
  have hshift : cs.zipIdx (0 + ds.length) = cs.zipIdx.map fun p => (p.1, ds.length + p.2) := by
    rw [Nat.zero_add, List.zipIdx_eq_map_add]
  rw [withoutMarks, List.zipIdx_append, List.filter_append, List.map_append, hshift,
    List.filter_map, List.map_map]
  congr 1
  simp only [Function.comp_def, isInMark_append h]
  rfl

/-- A character that no mark starts with is kept. -/
theorem withoutMarks_cons (h : ¬IsMarkAt (c :: cs) 0) :
    withoutMarks (c :: cs) = c :: withoutMarks cs := by
  have hreach : ∀ k < [c].length, IsMarkAt ([c] ++ cs) k → k + classMark.length ≤ [c].length := by
    intro k hk hmark
    obtain rfl : k = 0 := by simpa using hk
    exact absurd hmark h
  have hkept : ¬IsInMark (c :: cs) 0 := by
    rintro ⟨k, hk, -, hmark⟩
    obtain rfl := Nat.le_zero.mp hk
    exact h hmark
  have happend := withoutMarks_append hreach
  simpa [List.filter_cons, hkept] using happend

theorem withoutMarks_cons_of_ne (h : c ≠ '.') : withoutMarks (c :: cs) = c :: withoutMarks cs := by
  refine withoutMarks_cons fun hmark => h ?_
  simpa using hmark.getElem?_eq

/-- A mark goes as a whole. -/
theorem withoutMarks_classMark_append (h : endsClassLiteral cs = true) :
    withoutMarks (classMark ++ cs) = withoutMarks cs := by
  have hmark := isMarkAt_zero_iff.mpr h
  -- the other characters of a mark are no dots
  have hreach : ∀ k < classMark.length, IsMarkAt (classMark ++ cs) k →
      k + classMark.length ≤ classMark.length := by
    intro k hk hk'
    have hdot := hk'.getElem?_eq
    rw [List.getElem?_append_left hk] at hdot
    have honly : ∀ k < classMark.length, classMark[k]? = some '.' → k = 0 := by decide
    exact Nat.le_of_eq (by rw [honly k hk hdot, Nat.zero_add])
  have hnone : (classMark.zipIdx.filter fun p => ¬IsInMark (classMark ++ cs) p.2) = [] := by
    refine List.filter_eq_nil_iff.mpr fun p hp => ?_
    have hlt := List.snd_lt_of_mem_zipIdx hp
    simp only [decide_not, Bool.not_eq_true', decide_eq_false_iff_not, not_not]
    exact ⟨0, Nat.zero_le _, by omega, hmark⟩
  rw [withoutMarks_append hreach, hnone]
  rfl

/-- **The pass over a text takes out the marks, and nothing else.** -/
theorem dropClassMarks_eq (cs : List Char) : dropClassMarks cs = withoutMarks cs := by
  fun_induction dropClassMarks cs with
  | case1 cs hends ih =>
    rw [ih]
    exact (withoutMarks_classMark_append hends).symm
  | case2 cs hends ih =>
    have hkept : ¬IsMarkAt (classMark ++ cs) 0 := fun hmark => hends (isMarkAt_zero_iff.mp hmark)
    have hletters : withoutMarks ('c' :: 'l' :: 'a' :: 's' :: 's' :: cs)
        = 'c' :: 'l' :: 'a' :: 's' :: 's' :: withoutMarks cs := by
      simp only [withoutMarks_cons_of_ne, ne_eq, Char.reduceEq, not_false_eq_true]
    rw [ih, ← hletters]
    exact (withoutMarks_cons hkept).symm
  | case3 c cs hno ih =>
    rw [ih]
    refine (withoutMarks_cons ?_).symm
    rintro ⟨⟨rest, hrest⟩, -⟩
    obtain ⟨rfl, rfl⟩ := List.cons_eq_cons.mp hrest
    exact hno rest rfl rfl
  | case4 => rfl

/-! ### Blanks -/

/-- The second text is the first one with blanks put in anywhere. -/
inductive InsertsBlanks : List Char → List Char → Prop
  | nil : InsertsBlanks [] []
  | keep {cs ds : List Char} (c : Char) (h : InsertsBlanks cs ds) :
      InsertsBlanks (c :: cs) (c :: ds)
  | blank {cs ds : List Char} {c : Char} (hc : isBlank c = true) (h : InsertsBlanks cs ds) :
      InsertsBlanks cs (c :: ds)

namespace InsertsBlanks

theorem compact_eq (h : InsertsBlanks cs ds) : compact ds = compact cs := by
  induction h with
  | nil => rfl
  | keep c h ih =>
    rw [compact, compact] at ih ⊢
    rw [List.filter_cons, List.filter_cons, ih]
  | blank hc h ih =>
    rw [← ih, compact, compact, List.filter_cons_of_neg (by simp [hc])]

/-- **Blanks do not show in the normal form.** -/
theorem converterKey_eq (h : InsertsBlanks cs ds) : converterKey ds = converterKey cs := by
  rw [converterKey, converterKey, h.compact_eq]

end InsertsBlanks

/-! ### Look-ups -/

namespace CommandTable

variable {table : CommandTable} {text : List Char} {converter : Converter}

theorem isSome_converter?_iff :
    (table.converter? text).isSome = true ↔
      ∃ key ∈ table.converters.map Prod.fst, converterKey key.toList = converterKey text := by
  simp [converter?, List.find?_isSome]

theorem exists_of_converter?_eq_some (h : table.converter? text = some converter) :
    ∃ key, (key, converter) ∈ table.converters ∧
      converterKey key.toList = converterKey text := by
  obtain ⟨⟨key, k⟩, hfind, rfl⟩ := Option.map_eq_some_iff.mp h
  have hkey := List.find?_some hfind
  exact ⟨key, List.mem_of_find?_eq_some hfind, by simpa using hkey⟩

theorem converter?_congr {text' : List Char} (h : converterKey text' = converterKey text) :
    table.converter? text' = table.converter? text := by
  rw [converter?, converter?, h]

/-- **What the normal form is, and that look-ups go by it.**  The normal form of a text is the text
without its blanks and without the marks of class literals in what is left.  A look-up finds
something exactly if some key has the same normal form as the text, and what it finds has such a
key.  Blanks that are put into the text do not change what is found, and blanks that are put into
the keys of a table do not change whether anything is found. -/
theorem converters_found (table : CommandTable) (cs : List Char) {text text' : List Char}
    (htext : InsertsBlanks text text') {ps qs : List (String × Converter)}
    (hkeys : List.Forall₂ (fun p q => InsertsBlanks p.1.toList q.1.toList) ps qs) :
    converterKey cs = withoutMarks (cs.filter fun c => !isBlank c) ∧
      ((table.converter? text).isSome = true ↔
        ∃ key ∈ table.converters.map Prod.fst, converterKey key.toList = converterKey text) ∧
        (∀ converter, table.converter? text = some converter →
          ∃ key, (key, converter) ∈ table.converters ∧
            converterKey key.toList = converterKey text) ∧
          table.converter? text' = table.converter? text ∧
            ({ table with converters := Sorted.ofPairs qs }.converter? text).isSome
              = ({ table with converters := Sorted.ofPairs ps }.converter? text).isSome := by
  refine ⟨dropClassMarks_eq _, isSome_converter?_iff, fun _ => exists_of_converter?_eq_some,
    converter?_congr htext.converterKey_eq, ?_⟩
  rw [Bool.eq_iff_iff, isSome_converter?_iff, isSome_converter?_iff]
  simp only [Sorted.mem_keys_ofPairs]
  simp only [List.mem_map, exists_exists_and_eq_and]
  refine (Fallible.exists_mem_iff_of_forall₂ hkeys fun p q hpq => ?_).symm
  rw [hpq.converterKey_eq]

/-- One of the class literals is of a class whose name starts like a mark, and the blanks stand in a
text and in a key. -/
theorem spacedKeys_converters_found :
    converterKey "f( A.class , B.classy.class )".toList = "f(A,B.classy)".toList ∧
      ({} : CommandTable).converter? "int .class".toList
          = ({} : CommandTable).converter? "int.class".toList ∧
        (({ converters := Sorted.ofPairs [("in t", .int)] } : CommandTable).converter?
          "int.class".toList).isSome = true := by
  have htext : InsertsBlanks "int.class".toList "int .class".toList :=
    .keep _ <| .keep _ <| .keep _ <| .blank (by decide) <| .keep _ <| .keep _ <| .keep _ <|
      .keep _ <| .keep _ <| .keep _ .nil
  have hkey : InsertsBlanks "int".toList "in t".toList :=
    .keep _ <| .keep _ <| .blank (by decide) <| .keep _ .nil
  have hfound := converters_found {} "f( A.class , B.classy.class )".toList htext
    (.cons hkey .nil : List.Forall₂ _ [("int", Converter.int)] [("in t", Converter.int)])
  refine ⟨hfound.1.trans ?_, hfound.2.2.2.1, hfound.2.2.2.2.trans ?_⟩
  · decide
  · decide

end CommandTable

end RpcBindings
