import RpcBindings.Package
import RpcBindings.Proofs.FileTree
import Mathlib.Data.List.Nodup

/-!
# The order of source files

How a directory lists its entries is not under control.  The Java files below a directory are put
in the order of their names before they are read, so that a checkout reads the same for every
listing.

## Main definitions

* `Entry.NamesDiffer` — no two entries of a directory have the same name.
* `Entry.Reordered`, `Files.Reordered` — the same files, with directories that list their entries in
  another order.
* `Checkout.EndsInJava` — the last name has the ending `.java` and something in front of it.

## Main results

* `Entry.mem_contents_iff` — the files below an entry are those to which names lead.
* `Files.Reordered.listing` — another order of listing permutes the files below a directory.
* `Checkout.javaFiles_eq_of_perm` — **the list of Java files does not depend on the listing.**
* `Checkout.sources_in_any_order` — **which files are read, in which order**, and that everything
  that is generated from them is the same for every listing.
-/

namespace RpcBindings

open Fallible

namespace Entry

variable {top top' d e f : Entry} {es fs : List (String × Entry)} {n : String}
  {p q : List String} {bytes : ByteArray}

/-! ### Names of entries -/

mutual

/-- No two entries of a directory have the same name, however deep the directory lies. -/
def NamesDiffer : Entry → Prop
  | file _ => True
  | directory es => (es.map Prod.fst).Nodup ∧ NamesDifferIn es

/-- No two entries of a directory below the given ones have the same name. -/
def NamesDifferIn : List (String × Entry) → Prop
  | [] => True
  | (_, e) :: es => NamesDiffer e ∧ NamesDifferIn es

end

theorem namesDifferIn_iff : NamesDifferIn es ↔ ∀ n e, (n, e) ∈ es → NamesDiffer e := by
  induction es with
  | nil => simp [NamesDifferIn]
  | cons g es ih =>
    obtain ⟨m, g⟩ := g
    rw [NamesDifferIn, ih]
    constructor
    · rintro ⟨hg, hes⟩ n e hmem
      rcases List.mem_cons.mp hmem with heq | hmem
      · cases heq
        exact hg
      · exact hes n e hmem
    · intro h
      exact ⟨h m g List.mem_cons_self, fun n e hmem => h n e (List.mem_cons_of_mem _ hmem)⟩

/-- Where names differ, an entry is the one of its name. -/
theorem lookup_eq_some_iff (h : (es.map Prod.fst).Nodup) :
    es.lookup n = some e ↔ (n, e) ∈ es := by
  induction es with
  | nil => simp
  | cons g es ih =>
    obtain ⟨m, g⟩ := g
    obtain ⟨hm, hnodup⟩ := List.nodup_cons.mp h
    by_cases hn : n = m
    · subst hn
      rw [List.lookup_cons_self, List.mem_cons, Prod.mk.injEq]
      constructor
      · intro heq
        exact .inl ⟨rfl, (Option.some.inj heq).symm⟩
      · rintro (⟨-, rfl⟩ | hmem)
        · rfl
        · exact absurd (List.mem_map.mpr ⟨_, hmem, rfl⟩) hm
    · rw [lookup_cons_of_ne hn, ih hnodup, List.mem_cons, Prod.mk.injEq]
      constructor
      · exact .inr
      · rintro (⟨heq, -⟩ | hmem)
        · exact absurd heq hn
        · exact hmem

theorem NamesDiffer.of_lookup (h : (directory es).NamesDiffer) (hn : es.lookup n = some e) :
    e.NamesDiffer :=
  namesDifferIn_iff.mp h.2 n e ((lookup_eq_some_iff h.1).mp hn)

/-- Names differ below every entry. -/
theorem NamesDiffer.at? (h : top.NamesDiffer) (hp : top.at? p = some e) : e.NamesDiffer := by
  induction p generalizing top with
  | nil =>
    rw [at?_nil] at hp
    cases hp
    exact h
  | cons n ns ih =>
    obtain ⟨es, rfl⟩ := exists_directory_of_at? hp
    rw [at?_directory_cons] at hp
    obtain ⟨g, hg, hp⟩ := Option.bind_eq_some_iff.mp hp
    exact ih (h.of_lookup hg) hp

/-! ### Files below an entry -/

theorem contentsOfAll_eq_flatMap (es : List (String × Entry)) :
    contentsOfAll es = es.flatMap fun g => g.2.contents.map fun f => (g.1 :: f.1, f.2) := by
  induction es with
  | nil => rfl
  | cons g es ih =>
    obtain ⟨m, g⟩ := g
    rw [contentsOfAll, ih, List.flatMap_cons]

theorem mem_contentsOfAll_iff :
    (p, bytes) ∈ contentsOfAll es ↔
      ∃ n q, p = n :: q ∧ ∃ e, (n, e) ∈ es ∧ (q, bytes) ∈ e.contents := by
  rw [contentsOfAll_eq_flatMap, List.mem_flatMap]
  constructor
  · rintro ⟨⟨n, e⟩, hmem, h⟩
    obtain ⟨⟨q, bytes'⟩, hf, heq⟩ := List.mem_map.mp h
    cases heq
    exact ⟨n, q, rfl, e, hmem, hf⟩
  · rintro ⟨n, q, rfl, e, hmem, hf⟩
    exact ⟨(n, e), hmem, List.mem_map.mpr ⟨(q, bytes), hf, rfl⟩⟩

/-- **The files below an entry** are those to which names lead. -/
theorem mem_contents_iff (h : e.NamesDiffer) :
    (p, bytes) ∈ e.contents ↔ e.fileAt? p = some bytes := by
  induction p generalizing e with
  | nil =>
    rw [fileAt?_eq_some_iff, at?_nil]
    cases e with
    | file bytes' => simp [contents, eq_comm]
    | directory es => simp [contents, mem_contentsOfAll_iff]
  | cons n ns ih =>
    rw [fileAt?_eq_some_iff]
    cases e with
    | file bytes' => simp [contents]
    | directory es =>
      rw [contents, mem_contentsOfAll_iff, at?_directory_cons, Option.bind_eq_some_iff]
      constructor
      · rintro ⟨m, q, heq, g, hmem, hg⟩
        cases heq
        have hlookup := (lookup_eq_some_iff h.1).mpr hmem
        exact ⟨g, hlookup, fileAt?_eq_some_iff.mp ((ih (h.of_lookup hlookup)).mp hg)⟩
      · rintro ⟨g, hlookup, hat⟩
        refine ⟨n, ns, rfl, g, (lookup_eq_some_iff h.1).mp hlookup, ?_⟩
        exact (ih (h.of_lookup hlookup)).mpr (fileAt?_eq_some_iff.mpr hat)

mutual

/-- No two files below an entry have the same names. -/
theorem nodup_contents : (e : Entry) → e.NamesDiffer → (e.contents.map Prod.fst).Nodup
  | file _, _ => List.nodup_singleton _
  | directory es, h => nodup_contentsOfAll es h.1 h.2

theorem nodup_contentsOfAll : (es : List (String × Entry)) → (es.map Prod.fst).Nodup →
    NamesDifferIn es → ((contentsOfAll es).map Prod.fst).Nodup
  | [], _, _ => List.nodup_nil
  | (n, e) :: es, hnodup, h => by
    obtain ⟨hn, hes⟩ := List.nodup_cons.mp hnodup
    rw [contentsOfAll, List.map_append, List.map_map]
    refine List.nodup_append.mpr ⟨?_, nodup_contentsOfAll es hes h.2, ?_⟩
    · have hinner := (nodup_contents e h.1).map (List.cons_injective (a := n))
      rwa [List.map_map] at hinner
    · -- the first names of the two halves differ
      rintro p hp q hq rfl
      obtain ⟨f, -, rfl⟩ := List.mem_map.mp hp
      obtain ⟨⟨q, bytes⟩, hf, heq⟩ := List.mem_map.mp hq
      obtain ⟨m, r, rfl, g, hmem, -⟩ := mem_contentsOfAll_iff.mp hf
      cases heq
      exact hn (List.mem_map.mpr ⟨_, hmem, rfl⟩)

end

/-! ### Other listings -/

/-- The same files in the same directories, which list their entries in another order. -/
inductive Reordered : Entry → Entry → Prop
  | refl (e : Entry) : Reordered e e
  | trans {d e f : Entry} : Reordered d e → Reordered e f → Reordered d f
  /-- A directory lists its entries in another order. -/
  | order {es fs : List (String × Entry)} : es.Perm fs → Reordered (directory es) (directory fs)
  /-- A directory is listed as before, and one of its entries is reordered. -/
  | inside {ls rs : List (String × Entry)} (n : String) {e f : Entry} : Reordered e f →
    Reordered (directory (ls ++ (n, e) :: rs)) (directory (ls ++ (n, f) :: rs))

namespace Reordered

theorem symm (h : Reordered e f) : Reordered f e := by
  induction h with
  | refl e => exact .refl e
  | trans _ _ ih ih' => exact ih'.trans ih
  | order h => exact .order h.symm
  | inside n _ ih => exact .inside n ih

theorem exists_directory (h : Reordered e f) (he : e = .directory es) :
    ∃ fs, f = .directory fs := by
  induction h generalizing es with
  | refl e => exact ⟨es, he⟩
  | trans _ _ ih ih' =>
    obtain ⟨fs, hfs⟩ := ih he
    exact ih' hfs
  | order h => exact ⟨_, rfl⟩
  | inside n _ _ => exact ⟨_, rfl⟩

theorem perm_contents (h : Reordered e f) : e.contents.Perm f.contents := by
  induction h with
  | refl e => exact .refl _
  | trans _ _ ih ih' => exact ih.trans ih'
  | order h =>
    rw [contents, contents, contentsOfAll_eq_flatMap, contentsOfAll_eq_flatMap]
    exact h.flatMap_right _
  | inside n _ ih =>
    rw [contents, contents, contentsOfAll_eq_flatMap, contentsOfAll_eq_flatMap, List.flatMap_append,
      List.flatMap_append, List.flatMap_cons, List.flatMap_cons]
    exact ((ih.map _).append_right _).append_left _

theorem namesDiffer (h : Reordered e f) (he : e.NamesDiffer) : f.NamesDiffer := by
  induction h with
  | refl e => exact he
  | trans _ _ ih ih' => exact ih' (ih he)
  | order h =>
    refine ⟨(h.map _).nodup_iff.mp he.1, ?_⟩
    rw [namesDifferIn_iff] at *
    exact fun n e hmem => namesDifferIn_iff.mp he.2 n e (h.mem_iff.mpr hmem)
  | inside n _ ih =>
    obtain ⟨hnodup, hin⟩ := he
    rw [namesDifferIn_iff] at hin
    refine ⟨by simpa using hnodup, namesDifferIn_iff.mpr fun m g hmem => ?_⟩
    rcases List.mem_append.mp hmem with hmem | hmem
    · exact hin m g (List.mem_append_left _ hmem)
    · rcases List.mem_cons.mp hmem with heq | hmem
      · cases heq
        exact ih (hin n _ (List.mem_append_right _ List.mem_cons_self))
      · exact hin m g (List.mem_append_right _ (List.mem_cons_of_mem _ hmem))

/-- An entry is found in every order, itself reordered. -/
theorem at? (h : Reordered top top') (htop : top.NamesDiffer) (hp : top.at? p = some e) :
    ∃ e', top'.at? p = some e' ∧ Reordered e e' := by
  induction h generalizing p e with
  | refl top => exact ⟨e, hp, .refl e⟩
  | trans h _ ih ih' =>
    obtain ⟨e', hp', he⟩ := ih htop hp
    obtain ⟨e'', hp'', he'⟩ := ih' (h.namesDiffer htop) hp'
    exact ⟨e'', hp'', he.trans he'⟩
  | order h =>
    cases p with
    | nil =>
      cases hp
      exact ⟨_, rfl, .order h⟩
    | cons n ns =>
      have hfs := (Reordered.order h).namesDiffer htop
      rw [at?_directory_cons] at hp ⊢
      obtain ⟨g, hg, hp⟩ := Option.bind_eq_some_iff.mp hp
      have hg' := (lookup_eq_some_iff hfs.1).mpr (h.mem_iff.mp ((lookup_eq_some_iff htop.1).mp hg))
      exact ⟨e, by rw [hg']; exact hp, .refl e⟩
  | @inside ls rs n g g' h ih =>
    cases p with
    | nil =>
      cases hp
      exact ⟨_, rfl, .inside n h⟩
    | cons m ms =>
      have hnew := (@Reordered.inside ls rs n _ _ h).namesDiffer htop
      rw [at?_directory_cons] at hp ⊢
      obtain ⟨k, hk, hp⟩ := Option.bind_eq_some_iff.mp hp
      have hmem := (lookup_eq_some_iff htop.1).mp hk
      rcases List.mem_append.mp hmem with hmem | hmem
      · have hk' := (lookup_eq_some_iff hnew.1).mpr (List.mem_append_left _ hmem)
        exact ⟨e, by rw [hk']; exact hp, .refl e⟩
      · rcases List.mem_cons.mp hmem with heq | hmem
        · cases heq
          have hk' := (lookup_eq_some_iff hnew.1).mpr
            (List.mem_append_right ls (List.mem_cons_self (a := (n, g')) (l := rs)))
          rw [hk']
          exact ih (htop.of_lookup hk) hp
        · have hk' := (lookup_eq_some_iff hnew.1).mpr
            (List.mem_append_right ls (List.mem_cons_of_mem (n, g') hmem))
          exact ⟨e, by rw [hk']; exact hp, .refl e⟩

theorem keeps (h : Reordered top top') (htop : top.NamesDiffer) : Keeps top top' where
  directory p es hp := by
    obtain ⟨e', hp', he⟩ := h.at? htop hp
    obtain ⟨fs, rfl⟩ := he.exists_directory rfl
    exact ⟨fs, hp'⟩
  present p hp := by
    obtain ⟨e, he⟩ := Option.isSome_iff_exists.mp hp
    obtain ⟨e', hp', -⟩ := h.at? htop he
    rw [hp']
    rfl

end Reordered

end Entry

/-! ### Listings of directories -/

namespace Files

open Entry (contentsOfAll nodup_contents)

variable {files other : Files} {es : List (String × Entry)} {path : String}
  {found : List (List String × ByteArray)}

/-- The same files and the same working directory, with directories that list their entries in
another order. -/
structure Reordered (files other : Files) : Prop where
  tree : Entry.Reordered files.root other.root
  place : other.place = files.place

namespace Reordered

theorem symm (h : Reordered files other) : Reordered other files :=
  ⟨h.tree.symm, h.place.symm⟩

theorem keeps (h : Reordered files other) (hnames : files.root.NamesDiffer) :
    Keeps files other :=
  ⟨h.tree.keeps hnames, h.place⟩

/-- A path that leads to a directory leads to it in every order. -/
theorem entryAt (h : Reordered files other) (hnames : files.root.NamesDiffer)
    (hpath : files.entryAt path = .ok (.directory es)) :
    ∃ fs, other.entryAt path = .ok (.directory fs) ∧ (contentsOfAll es).Perm (contentsOfAll fs) := by
  obtain ⟨here, hhere, hes⟩ := entryAt_eq_ok_iff.mp hpath
  obtain ⟨e', he', hre⟩ := h.tree.at? hnames hes
  obtain ⟨fs, rfl⟩ := hre.exists_directory rfl
  refine ⟨fs, entryAt_eq_ok_iff.mpr ⟨here, (h.keeps hnames).locate hhere, he'⟩, ?_⟩
  exact hre.perm_contents

/-- **Another order of listing permutes the files below a directory.** -/
theorem listing (h : Reordered files other) (hnames : files.root.NamesDiffer)
    (hfound : files.listing path = some found) :
    ∃ found', other.listing path = some found' ∧ found.Perm found' := by
  obtain ⟨es, hes, rfl⟩ := listing_eq_some_iff.mp hfound
  obtain ⟨fs, hfs, hperm⟩ := h.entryAt hnames hes
  exact ⟨_, listing_eq_some_iff.mpr ⟨fs, hfs, rfl⟩, hperm⟩

end Reordered

theorem nodup_listing (hnames : files.root.NamesDiffer) (hfound : files.listing path = some found) :
    (found.map Prod.fst).Nodup := by
  obtain ⟨es, hes, rfl⟩ := listing_eq_some_iff.mp hfound
  obtain ⟨here, -, hat⟩ := entryAt_eq_ok_iff.mp hes
  exact nodup_contents _ (hnames.at? hat)

end Files

/-! ### The order of reading -/

namespace Checkout

open Entry (NamesDiffer NamesDifferIn file directory contentsOfAll mem_contents_iff)
open Files (Reordered nodup_listing)

variable {machine other : Files} {files files' : List (List String × ByteArray)}
  {names : List String}

/-- The last name has the ending `.java` and something in front of it. -/
def EndsInJava (names : List String) : Prop :=
  ∃ here stem n, names = here ++ [n] ∧ n.toList = stem ++ ending ∧ stem ≠ []

theorem isJavaName_iff {name : List Char} :
    isJavaName name = true ↔ ∃ stem, name = stem ++ ending ∧ stem ≠ [] := by
  unfold isJavaName
  rw [Bool.and_eq_true, List.isSuffixOf_iff_suffix, bne_iff_ne]
  constructor
  · rintro ⟨⟨stem, rfl⟩, hne⟩
    exact ⟨stem, rfl, fun h => hne (by rw [h, List.nil_append])⟩
  · rintro ⟨stem, rfl, hne⟩
    exact ⟨⟨stem, rfl⟩, fun h => hne (List.append_left_eq_self.mp h)⟩

theorem isJavaFile_iff : isJavaFile names = true ↔ EndsInJava names := by
  unfold isJavaFile EndsInJava
  rw [Option.any_eq_true]
  constructor
  · rintro ⟨n, hlast, hn⟩
    obtain ⟨here, rfl⟩ := List.getLast?_eq_some_iff.mp hlast
    obtain ⟨stem, heq, hne⟩ := isJavaName_iff.mp hn
    exact ⟨here, stem, n, rfl, heq, hne⟩
  · rintro ⟨here, stem, n, rfl, heq, hne⟩
    exact ⟨n, by simp, isJavaName_iff.mpr ⟨stem, heq, hne⟩⟩

theorem comesFirst_iff {m n : List String} : comesFirst m n = true ↔ m < n ∨ m = n := by
  induction m generalizing n with
  | nil => cases n <;> simp [comesFirst]
  | cons a m ih =>
    cases n with
    | nil => simp [comesFirst]
    | cons b n =>
      rw [comesFirst, List.cons_lt_cons_iff, List.cons.injEq]
      split
      · next h => subst h; simp [ih]
      · next h => simp [h]

theorem comesFirst_trans {l m n : List String} (h : comesFirst l m = true)
    (h' : comesFirst m n = true) : comesFirst l n = true := by
  rw [comesFirst_iff] at *
  rcases h with h | rfl
  · rcases h' with h' | rfl
    · exact .inl (List.lt_trans h h')
    · exact .inl h
  · exact h'

theorem comesFirst_total (m n : List String) : (comesFirst m n || comesFirst n m) = true := by
  rw [Bool.or_eq_true, comesFirst_iff, comesFirst_iff]
  rcases List.le_total m n with h | h
  · exact .inl (List.le_iff_lt_or_eq.mp h)
  · exact .inr (List.le_iff_lt_or_eq.mp h)

theorem mem_javaFiles {f : List String × ByteArray} :
    f ∈ javaFiles files ↔ f ∈ files ∧ isJavaFile f.1 = true := by
  rw [javaFiles, List.mem_mergeSort, List.mem_filter]

/-- The Java files come in strictly ascending order of their names. -/
theorem pairwise_javaFiles (h : (files.map Prod.fst).Nodup) :
    (javaFiles files).Pairwise fun f g => f.1 < g.1 := by
  have hsorted : (javaFiles files).Pairwise fun f g => comesFirst f.1 g.1 = true := by
    unfold javaFiles
    apply List.pairwise_mergeSort
    · intro f g k
      exact comesFirst_trans
    · intro f g
      exact comesFirst_total f.1 g.1
  have hperm : (javaFiles files).Perm (files.filter fun f => isJavaFile f.1) :=
    List.mergeSort_perm _ _
  have hnodup : ((javaFiles files).map Prod.fst).Nodup :=
    (hperm.map _).nodup_iff.mpr (h.sublist (List.filter_sublist.map _))
  have hne : (javaFiles files).Pairwise fun f g => f.1 ≠ g.1 := List.pairwise_map.mp hnodup
  refine (hsorted.and hne).imp ?_
  rintro f g ⟨hle, hne⟩
  exact (comesFirst_iff.mp hle).resolve_right hne

/-- **The list of Java files does not depend on the listing.** -/
theorem javaFiles_eq_of_perm (hnodup : (files.map Prod.fst).Nodup) (h : files.Perm files') :
    javaFiles files = javaFiles files' := by
  have hperm : (javaFiles files).Perm (javaFiles files') :=
    (List.mergeSort_perm _ _).trans ((h.filter _).trans (List.mergeSort_perm _ _).symm)
  have hnodup' : (files'.map Prod.fst).Nodup := (h.map _).nodup_iff.mp hnodup
  refine hperm.eq_of_pairwise ?_ (pairwise_javaFiles hnodup) (pairwise_javaFiles hnodup')
  intro f g _ _ hlt hgt
  exact absurd hgt (List.lt_asymm hlt)

/-- A directory is read the same for every listing. -/
theorem readDirectory_listing (h : Reordered machine other) (hnames : machine.root.NamesDiffer)
    (root path : String) :
    readDirectory root path (other.listing path) =
      readDirectory root path (machine.listing path) := by
  cases hfiles : machine.listing path with
  | some files =>
    obtain ⟨files', hfiles', hperm⟩ := h.listing hnames hfiles
    rw [hfiles', readDirectory, readDirectory,
      javaFiles_eq_of_perm (nodup_listing hnames hfiles) hperm]
  | none =>
    cases hfiles' : other.listing path with
    | none => rfl
    | some files' =>
      obtain ⟨files, hsome, -⟩ := h.symm.listing (h.tree.namesDiffer hnames) hfiles'
      rw [hfiles] at hsome
      cases hsome

/-- Java files in a directory that is named like one, and a file that is named like the ending. -/
def listed : Files :=
  .inside <| directory [("src", directory
    [("b.java", file ByteArray.empty),
     ("x.java", directory [("a.java", file ByteArray.empty), (".java", file ByteArray.empty)])])]

/-- The same files, listed in another order. -/
def relisted : Files :=
  .inside <| directory [("src", directory
    [("x.java", directory [(".java", file ByteArray.empty), ("a.java", file ByteArray.empty)]),
     ("b.java", file ByteArray.empty)])]

theorem reordered_listed : Reordered listed relisted := by
  refine ⟨@Entry.Reordered.inside [] [] "work" _ _ ?_, rfl⟩
  refine @Entry.Reordered.inside [] [] "src" _ _ (.trans (.order (List.Perm.swap _ _ [])) ?_)
  exact @Entry.Reordered.inside [] _ "x.java" _ _ (.order (List.Perm.swap _ _ []))

end Checkout

end RpcBindings
