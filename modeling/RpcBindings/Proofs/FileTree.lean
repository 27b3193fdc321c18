import RpcBindings.Checkout
import RpcBindings.Proofs.Fallible

/-!
# File trees that grow

What changing one entry does to a tree of files, seen through the names that lead to its entries.
Operations that write files or make directories take nothing away, so that everything that could be
found before is found again, and a directory holds the Java files that it held.

## Main definitions

* `Entry.fileAt?` — the bytes of the file that names lead to.
* `Entry.javaBelow` — the Java files below the entries of a directory.
* `Entry.Grows`, `Files.Grows` — one tree has come from another by writing some files and making
  directories.
* `Entry.Keeps`, `Files.Keeps` — whatever is found in one tree is found in another.

## Main results

* `Entry.at?_put`, `Entry.put_eq_self` — the entry that was put is found, and putting an entry where
  it is changes nothing.
* `Entry.Grows.put` — **a tree grows when the entry of a directory does.**
* `Entry.next_eq_ok_iff`, `Entry.Keeps.next` — **what a step does**, and that a step that could be
  taken leads to the same place.
* `Files.Keeps.locate` — **a path that could be followed leads to the same place.**
-/

namespace RpcBindings

open Fallible

namespace Entry

open Checkout (isJavaFile isJavaName)

variable {top after last e e' : Entry} {es : List (String × Entry)} {n : String}
  {here p q : List String} {written : List String → Prop}

/-! ### Names and entries -/

theorem lookup_cons_of_ne {m n : String} (h : m ≠ n) (e : Entry) (es : List (String × Entry)) :
    ((n, e) :: es).lookup m = es.lookup m := by
  rw [List.lookup_cons, beq_eq_false_iff_ne.mpr h]

theorem lookup_setEntry (m n : String) (e : Entry) (es : List (String × Entry)) :
    (setEntry n e es).lookup m = if m = n then some e else es.lookup m := by
  induction es with
  | nil =>
    rw [setEntry]
    split
    · next h => rw [h, List.lookup_cons_self]
    · next h => rw [lookup_cons_of_ne h]
  | cons f es ih =>
    obtain ⟨k, f⟩ := f
    rw [setEntry]
    by_cases hk : k = n
    · subst hk
      rw [if_pos rfl]
      split
      · next h => rw [h, List.lookup_cons_self]
      · next h => rw [lookup_cons_of_ne h, lookup_cons_of_ne h]
    · rw [if_neg hk]
      by_cases hm : m = k
      · subst hm
        rw [List.lookup_cons_self, List.lookup_cons_self, if_neg hk]
      · rw [lookup_cons_of_ne hm, lookup_cons_of_ne hm, ih]

@[simp] theorem at?_nil (e : Entry) : e.at? [] = some e := by
  cases e <;> rfl

@[simp] theorem put_nil (top e : Entry) : top.put [] e = e := by
  cases top <;> rfl

@[simp] theorem at?_file_cons (bytes : ByteArray) (n : String) (ns : List String) :
    (file bytes).at? (n :: ns) = none := rfl

theorem at?_directory_cons (es : List (String × Entry)) (n : String) (ns : List String) :
    (directory es).at? (n :: ns) = (es.lookup n).bind fun e => e.at? ns := rfl

theorem at?_append (e : Entry) (p q : List String) :
    e.at? (p ++ q) = (e.at? p).bind fun f => f.at? q := by
  induction p generalizing e with
  | nil => simp
  | cons n ns ih =>
    cases e with
    | file bytes => rfl
    | directory es =>
      rw [List.cons_append, at?_directory_cons, at?_directory_cons, Option.bind_assoc]
      congr 1
      funext f
      exact ih f

/-- A name leads to something in a directory exactly when the directory has it. -/
theorem at?_concat (h : top.at? here = some (directory es)) (n : String) :
    top.at? (here ++ [n]) = es.lookup n := by
  rw [at?_append, h, Option.bind_some, at?_directory_cons]
  cases es.lookup n <;> simp

/-- What leads somewhere beyond an entry leads to a directory. -/
theorem exists_directory_of_at? (h : e.at? (n :: q) = some e') : ∃ es, e = directory es := by
  cases e with
  | file bytes => cases h
  | directory es => exact ⟨es, rfl⟩

/-- **The entry that was put is found.** -/
theorem at?_put (top : Entry) (p q : List String) (e : Entry) :
    (top.put p e).at? (p ++ q) = e.at? q := by
  induction p generalizing top with
  | nil => rw [put_nil, List.nil_append]
  | cons n ns ih =>
    cases top with
    | file bytes =>
      rw [put, List.cons_append, at?_directory_cons, List.lookup_cons_self]
      exact ih empty
    | directory es =>
      rw [put, List.cons_append, at?_directory_cons, lookup_setEntry, if_pos rfl]
      exact ih _

theorem setEntry_eq_self (h : es.lookup n = some e) : setEntry n e es = es := by
  induction es with
  | nil => cases h
  | cons f es ih =>
    obtain ⟨k, f⟩ := f
    rw [setEntry]
    by_cases hk : k = n
    · subst hk
      rw [List.lookup_cons_self] at h
      cases h
      rw [if_pos rfl]
    · rw [lookup_cons_of_ne (Ne.symm hk)] at h
      rw [if_neg hk, ih h]

/-- **Putting an entry where it is changes nothing.** -/
theorem put_eq_self (h : top.at? p = some e) : top.put p e = top := by
  induction p generalizing top with
  | nil =>
    rw [at?_nil] at h
    rw [put_nil, Option.some.inj h]
  | cons n ns ih =>
    obtain ⟨es, rfl⟩ := exists_directory_of_at? h
    rw [at?_directory_cons] at h
    obtain ⟨f, hf, hat⟩ := Option.bind_eq_some_iff.mp h
    rw [put, hf, Option.getD_some, ih hat, setEntry_eq_self hf]

theorem put_append (h : top.at? p = some e) (q : List String) (e' : Entry) :
    top.put (p ++ q) e' = top.put p (e.put q e') := by
  induction p generalizing top with
  | nil =>
    rw [at?_nil] at h
    rw [List.nil_append, put_nil, Option.some.inj h]
  | cons n ns ih =>
    obtain ⟨es, rfl⟩ := exists_directory_of_at? h
    rw [at?_directory_cons] at h
    obtain ⟨f, hf, hat⟩ := Option.bind_eq_some_iff.mp h
    rw [List.cons_append, put, put, hf, Option.getD_some, ih hat]

/-- The bytes of the file that names lead to, if they lead to one. -/
def fileAt? (top : Entry) (names : List String) : Option ByteArray :=
  match top.at? names with
  | some (file bytes) => some bytes
  | _ => none

theorem fileAt?_eq_some_iff {bytes : ByteArray} :
    top.fileAt? p = some bytes ↔ top.at? p = some (file bytes) := by
  unfold fileAt?
  split
  · next h => simp [h]
  · next h =>
    constructor
    · intro h'
      cases h'
    · intro h'
      exact absurd h' (h bytes)

/-! ### Java files -/

/-- The Java files below the entries of a directory. -/
def javaBelow (es : List (String × Entry)) : List (List String × ByteArray) :=
  (contentsOfAll es).filter fun f => isJavaFile f.1

/-- The Java files that an entry adds to those of the directory in which it has the given name. -/
def javaFrom (n : String) (e : Entry) : List (List String × ByteArray) :=
  (e.contents.map fun f => (n :: f.1, f.2)).filter fun f => isJavaFile f.1

theorem javaBelow_cons (n : String) (e : Entry) (es : List (String × Entry)) :
    javaBelow ((n, e) :: es) = javaFrom n e ++ javaBelow es := by
  rw [javaBelow, contentsOfAll, List.filter_append]
  rfl

/-- The names that lead to a file below a directory are not empty. -/
theorem ne_nil_of_mem_contentsOfAll {f : List String × ByteArray} (h : f ∈ contentsOfAll es) :
    f.1 ≠ [] := by
  induction es with
  | nil => cases h
  | cons e es ih =>
    obtain ⟨n, e⟩ := e
    rw [contentsOfAll] at h
    rcases List.mem_append.mp h with h | h
    · obtain ⟨g, -, rfl⟩ := List.mem_map.mp h
      exact List.cons_ne_nil _ _
    · exact ih h

/-- Whether a file is a Java file does not depend on the directories above it. -/
theorem isJavaFile_cons (n : String) (hq : q ≠ []) : isJavaFile (n :: q) = isJavaFile q := by
  rw [isJavaFile, isJavaFile, List.getLast?_cons_of_ne_nil hq]

theorem javaFrom_directory (n : String) (es : List (String × Entry)) :
    javaFrom n (directory es) = (javaBelow es).map fun f => (n :: f.1, f.2) := by
  rw [javaFrom, contents, List.filter_map, javaBelow]
  congr 1
  refine List.filter_congr fun f hf => ?_
  exact isJavaFile_cons n (ne_nil_of_mem_contentsOfAll hf)

theorem javaFrom_file {bytes : ByteArray} (h : isJavaName n.toList = false) :
    javaFrom n (file bytes) = [] := by
  simp [javaFrom, contents, isJavaFile, h]

/-- An entry that adds the Java files that were there, if any, does not change those of the
directory. -/
theorem javaBelow_setEntry (h : javaFrom n e = ((es.lookup n).map (javaFrom n)).getD []) :
    javaBelow (setEntry n e es) = javaBelow es := by
  induction es with
  | nil => rw [setEntry, javaBelow_cons, h]; rfl
  | cons f es ih =>
    obtain ⟨k, f⟩ := f
    rw [setEntry]
    by_cases hk : k = n
    · subst hk
      rw [List.lookup_cons_self] at h
      rw [if_pos rfl, javaBelow_cons, javaBelow_cons, h]
      rfl
    · rw [lookup_cons_of_ne (Ne.symm hk)] at h
      rw [if_neg hk, javaBelow_cons, javaBelow_cons, ih h]

/-! ### Growth -/

/-- The tree `after` has come from `top` by writing files at the names that satisfy `written` and by
making directories. -/
structure Grows (written : List String → Prop) (top after : Entry) : Prop where
  /-- A directory stays one, with the Java files below it. -/
  directory : ∀ p es, top.at? p = some (directory es) →
    ∃ es', after.at? p = some (.directory es') ∧ javaBelow es' = javaBelow es
  /-- Nothing is taken away. -/
  present : ∀ p, (top.at? p).isSome → (after.at? p).isSome
  /-- No file but those that are written is changed or made. -/
  fileAt : ∀ p, ¬ written p → after.fileAt? p = top.fileAt? p

namespace Grows

theorem refl (written : List String → Prop) (top : Entry) : Grows written top top where
  directory _ es h := ⟨es, h, rfl⟩
  present _ h := h
  fileAt _ _ := rfl

theorem trans (h : Grows written top after) (h' : Grows written after last) :
    Grows written top last where
  directory p es hp := by
    obtain ⟨es', hp', hjava⟩ := h.directory p es hp
    obtain ⟨es'', hp'', hjava'⟩ := h'.directory p es' hp'
    exact ⟨es'', hp'', hjava'.trans hjava⟩
  present p hp := h'.present p (h.present p hp)
  fileAt p hp := (h'.fileAt p hp).trans (h.fileAt p hp)

theorem mono {written' : List String → Prop} (h : Grows written top after)
    (hsub : ∀ p, written p → written' p) : Grows written' top after where
  directory := h.directory
  present := h.present
  fileAt p hp := h.fileAt p fun hw => hp (hsub p hw)

/-- A file grows into any other one. -/
theorem ofFile (bytes bytes' : ByteArray) : Grows (· = []) (file bytes) (file bytes') where
  directory p es h := by
    cases p with
    | nil => cases h
    | cons n ns => cases h
  present p h := by
    cases p with
    | nil => rfl
    | cons n ns => cases h
  fileAt p hp := by
    cases p with
    | nil => exact absurd rfl hp
    | cons n ns => rfl

/-- A directory grows when one of its entries does, or when it gets an entry of a new name with no
files but those that are written. -/
theorem setEntry (hentry : ∀ old, es.lookup n = some old → Grows written old e)
    (hnew : es.lookup n = none → ∀ p, ¬ written p → e.fileAt? p = none)
    (hjava : javaFrom n e = ((es.lookup n).map (javaFrom n)).getD []) :
    Grows (fun p => ∃ q, p = n :: q ∧ written q) (.directory es)
      (.directory (setEntry n e es)) where
  directory p fs h := by
    cases p with
    | nil =>
      cases h
      exact ⟨_, rfl, javaBelow_setEntry hjava⟩
    | cons m ms =>
      rw [at?_directory_cons] at h ⊢
      rw [lookup_setEntry]
      split
      · next hm =>
        subst hm
        obtain ⟨old, hold, h⟩ := Option.bind_eq_some_iff.mp h
        exact (hentry old hold).directory ms fs h
      · exact ⟨fs, h, rfl⟩
  present p h := by
    cases p with
    | nil => rfl
    | cons m ms =>
      rw [at?_directory_cons] at h ⊢
      rw [lookup_setEntry]
      split
      · next hm =>
        subst hm
        obtain ⟨f, h⟩ := Option.isSome_iff_exists.mp h
        obtain ⟨old, hold, h⟩ := Option.bind_eq_some_iff.mp h
        exact (hentry old hold).present ms (by rw [h]; rfl)
      · exact h
  fileAt p hp := by
    cases p with
    | nil => rfl
    | cons m ms =>
      by_cases hm : m = n
      · subst hm
        have hms : ¬ written ms := fun hw => hp ⟨ms, rfl, hw⟩
        rw [fileAt?, fileAt?, at?_directory_cons, at?_directory_cons, lookup_setEntry, if_pos rfl]
        cases hold : es.lookup m with
        | none => exact hnew hold ms hms
        | some old => exact (hentry old hold).fileAt ms hms
      · rw [fileAt?, fileAt?, at?_directory_cons, at?_directory_cons, lookup_setEntry, if_neg hm]

/-- **A tree grows when the entry of a directory does.** -/
theorem put (hhere : top.at? here = some (.directory es)) (h : Grows written (.directory es) e) :
    Grows (fun p => ∃ q, p = here ++ q ∧ written q) top (top.put here e) := by
  induction here generalizing top with
  | nil =>
    rw [at?_nil] at hhere
    cases hhere
    exact h.mono fun p hp => ⟨p, rfl, hp⟩
  | cons n ns ih =>
    obtain ⟨fs, rfl⟩ := exists_directory_of_at? hhere
    rw [at?_directory_cons] at hhere
    obtain ⟨f, hf, hat⟩ := Option.bind_eq_some_iff.mp hhere
    have hgrows := ih hat
    -- the entry on the way is a directory, and stays one with the same Java files
    obtain ⟨gs, rfl⟩ : ∃ gs, f = .directory gs := by
      cases ns with
      | nil => exact ⟨es, Option.some.inj hat⟩
      | cons m ms => exact exists_directory_of_at? hat
    obtain ⟨gs', hgs', hjava⟩ := hgrows.directory [] gs rfl
    rw [at?_nil, Option.some.injEq] at hgs'
    have hset : Grows (fun p => ∃ q, p = n :: q ∧ ∃ r, q = ns ++ r ∧ written r) (.directory fs)
        (.directory (Entry.setEntry n ((Entry.directory gs).put ns e) fs)) := by
      refine setEntry ?_ ?_ ?_
      · intro old hold
        rw [hf] at hold
        cases hold
        exact hgrows
      · intro hnone
        rw [hf] at hnone
        cases hnone
      · rw [hf, hgs', javaFrom_directory, hjava, ← javaFrom_directory]
        rfl
    rw [Entry.put, hf]
    refine hset.mono ?_
    rintro p ⟨q, rfl, r, rfl, hr⟩
    exact ⟨r, rfl, hr⟩

end Grows

/-! ### Following steps -/

theorem entriesAt_eq_ok_iff :
    top.entriesAt here = .ok es ↔ top.at? here = some (.directory es) := by
  unfold entriesAt
  split
  · next fs h => rw [h]; simp
  · next bytes h => rw [h]; simp
  · next h => rw [h]; simp

theorem find?_eq_ok_iff {o : Option Entry} :
    find? n es = .ok o ↔ n.utf8ByteSize ≤ nameLimit ∧ es.lookup n = o := by
  unfold find?
  split
  · next h => simp [Nat.not_le_of_lt h]
  · next h => simp [Nat.le_of_not_lt h]

/-- Where a step leads from the directory to which the names lead. -/
def Step.place (here : List String) : Step → List String
  | .stay => here
  | .up => here.dropLast
  | .into n => here ++ [n]

/-- **What a step does.**  It starts in a directory, and a name that it goes into is that of an entry
and not too long. -/
theorem next_eq_ok_iff {s : Step} :
    top.next here s = .ok p ↔
      (∃ es, top.at? here = some (.directory es)) ∧
        (∀ n, s = .into n → n.utf8ByteSize ≤ nameLimit ∧ (top.at? (here ++ [n])).isSome) ∧
        p = s.place here := by
  unfold next
  rw [bind_eq_ok_iff]
  simp only [entriesAt_eq_ok_iff]
  constructor
  · rintro ⟨es, hes, h⟩
    cases s with
    | stay => exact ⟨⟨es, hes⟩, by simp, (Except.ok.inj h).symm⟩
    | up => exact ⟨⟨es, hes⟩, by simp, (Except.ok.inj h).symm⟩
    | into n =>
      obtain ⟨o, ho, h⟩ := bind_eq_ok_iff.mp h
      obtain ⟨hlimit, rfl⟩ := find?_eq_ok_iff.mp ho
      split at h
      · next e he =>
        refine ⟨⟨es, hes⟩, ?_, (Except.ok.inj h).symm⟩
        rintro _ ⟨⟩
        rw [at?_concat hes, he]
        exact ⟨hlimit, rfl⟩
      · cases h
  · rintro ⟨⟨es, hes⟩, hinto, rfl⟩
    refine ⟨es, hes, ?_⟩
    cases s with
    | stay => rfl
    | up => rfl
    | into n =>
      obtain ⟨hlimit, hsome⟩ := hinto n rfl
      rw [at?_concat hes] at hsome
      obtain ⟨e, he⟩ := Option.isSome_iff_exists.mp hsome
      exact bind_eq_ok_iff.mpr ⟨some e, find?_eq_ok_iff.mpr ⟨hlimit, he⟩, rfl⟩

theorem follow_cons (top : Entry) (here : List String) (s : Step) (ss : List Step) :
    follow top here (s :: ss) = top.next here s >>= fun there => follow top there ss := rfl

theorem follow_append (top : Entry) (here : List String) (ss ts : List Step) :
    follow top here (ss ++ ts) = follow top here ss >>= fun there => follow top there ts := by
  induction ss generalizing here with
  | nil => rfl
  | cons s ss ih =>
    rw [List.cons_append, follow_cons, follow_cons, bind_assoc]
    exact bind_congr ih

theorem follow_concat (top : Entry) (here : List String) (ss : List Step) (s : Step) :
    follow top here (ss ++ [s]) = follow top here ss >>= fun there => top.next there s := by
  rw [follow_append]
  refine bind_congr fun there => ?_
  rw [follow_cons]
  exact bind_pure _

/-- Whatever is found in `top` is found in `after`, and a directory as a directory. -/
structure Keeps (top after : Entry) : Prop where
  directory : ∀ p es, top.at? p = some (directory es) → ∃ es', after.at? p = some (.directory es')
  present : ∀ p, (top.at? p).isSome → (after.at? p).isSome

theorem Grows.keeps (h : Grows written top after) : Keeps top after where
  directory p es hp :=
    let ⟨es', hp', _⟩ := h.directory p es hp
    ⟨es', hp'⟩
  present := h.present

/-- A step that could be taken leads to the same place. -/
theorem Keeps.next {s : Step} (h : Keeps top after) (hnext : top.next here s = .ok p) :
    after.next here s = .ok p := by
  obtain ⟨⟨es, hes⟩, hinto, rfl⟩ := next_eq_ok_iff.mp hnext
  refine next_eq_ok_iff.mpr ⟨h.directory here es hes, fun n hn => ?_, rfl⟩
  obtain ⟨hlimit, hsome⟩ := hinto n hn
  exact ⟨hlimit, h.present _ hsome⟩

/-- **Steps that could be followed lead to the same place.** -/
theorem Keeps.follow {ss : List Step} (h : Keeps top after)
    (hfollow : Entry.follow top here ss = .ok p) : Entry.follow after here ss = .ok p := by
  induction ss generalizing here with
  | nil => exact hfollow
  | cons s ss ih =>
    obtain ⟨there, hnext, hrest⟩ := bind_eq_ok_iff.mp hfollow
    exact bind_eq_ok_iff.mpr ⟨there, h.next hnext, ih hrest⟩

end Entry

/-! ### Following paths -/

namespace Files

open Entry (Step contentsOfAll javaBelow)

variable {files after last : Files} {written : List String → Prop} {path : String}
  {here : List String} {e : Entry} {es : List (String × Entry)}

/-- The place of a path is found by its steps. -/
theorem locate_eq_ok_iff :
    files.locate path = .ok here ↔
      ∃ ss, steps path = .ok ss ∧ files.root.follow (files.start path) ss = .ok here :=
  bind_eq_ok_iff

theorem entryAt_eq_ok_iff :
    files.entryAt path = .ok e ↔
      ∃ here, files.locate path = .ok here ∧ files.root.at? here = some e := by
  unfold entryAt
  rw [bind_eq_ok_iff]
  refine exists_congr fun here => and_congr_right fun _ => ?_
  cases files.root.at? here with
  | none => exact ⟨fun h => (nomatch h), fun h => (nomatch h)⟩
  | some f =>
    constructor
    · intro h
      rw [Except.ok.inj h]
    · intro h
      rw [Option.some.inj h]
      rfl

/-- What is listed below a path is what the directory there holds. -/
theorem listing_eq_some_iff {found : List (List String × ByteArray)} :
    files.listing path = some found ↔
      ∃ es, files.entryAt path = .ok (.directory es) ∧ found = contentsOfAll es := by
  unfold listing
  split
  · next es h =>
    rw [h]
    constructor
    · intro h'
      cases h'
      exact ⟨es, rfl, rfl⟩
    · rintro ⟨es', heq, rfl⟩
      cases heq
      rfl
  · next h =>
    constructor
    · intro h'
      cases h'
    · rintro ⟨es, heq, -⟩
      exact absurd heq (h es)

/-- The tree of the files has been kept, and the working directory. -/
structure Keeps (files after : Files) : Prop where
  tree : Entry.Keeps files.root after.root
  place : after.place = files.place

/-- The tree of the files has grown, and the working directory is the same. -/
structure Grows (written : List String → Prop) (files after : Files) : Prop where
  tree : Entry.Grows written files.root after.root
  place : after.place = files.place

theorem Grows.refl (written : List String → Prop) (files : Files) : Grows written files files :=
  ⟨.refl _ files.root, rfl⟩

theorem Grows.trans (h : Grows written files after) (h' : Grows written after last) :
    Grows written files last :=
  ⟨h.tree.trans h'.tree, h'.place.trans h.place⟩

theorem Grows.mono {written' : List String → Prop} (h : Grows written files after)
    (hsub : ∀ p, written p → written' p) : Grows written' files after :=
  ⟨h.tree.mono hsub, h.place⟩

theorem Grows.keeps (h : Grows written files after) : Keeps files after :=
  ⟨h.tree.keeps, h.place⟩

/-- Paths start where they did. -/
theorem Keeps.start (h : Keeps files after) (path : String) :
    after.start path = files.start path := by
  rw [Files.start, Files.start, h.place]

/-- **A path that could be followed leads to the same place.** -/
theorem Keeps.locate (h : Keeps files after) (hpath : files.locate path = .ok here) :
    after.locate path = .ok here := by
  obtain ⟨ss, hss, hfollow⟩ := locate_eq_ok_iff.mp hpath
  refine locate_eq_ok_iff.mpr ⟨ss, hss, ?_⟩
  rw [h.start]
  exact h.tree.follow hfollow

/-- A path that led to a directory leads to one with the same Java files. -/
theorem Grows.entryAt (h : Grows written files after)
    (hpath : files.entryAt path = .ok (.directory es)) :
    ∃ es', after.entryAt path = .ok (.directory es') ∧ javaBelow es' = javaBelow es := by
  obtain ⟨here, hhere, hes⟩ := entryAt_eq_ok_iff.mp hpath
  obtain ⟨es', hes', hjava⟩ := h.tree.directory here es hes
  exact ⟨es', entryAt_eq_ok_iff.mpr ⟨here, h.keeps.locate hhere, hes'⟩, hjava⟩

end Files

end RpcBindings
