import RpcBindings.Proofs.Route

/-!
# Writing files and making directories

What the operations that change files do to the tree.  Both are described by its growth: a text is
written at one place, and directories come without files.

## Main results

* `Files.writeText_eq_ok_iff`, `Files.Grows.writeText` — what writing a text does.
* `Files.readText_of_at?` — a text that was written is read again.
* `Files.grows_makeDirectories` — **making directories changes no file**, whether it succeeds or
  not.
* `Files.makeDirectories_of_isDirectory` — a directory that is there is not made again.
-/

namespace RpcBindings

open Fallible

/-- The entry of one name grows. -/
theorem Entry.Grows.putEntry {top e : Entry} {here : List String} {n : String}
    {es : List (String × Entry)} {written : List String → Prop}
    (hes : top.at? here = some (.directory es))
    (hentry : ∀ old, es.lookup n = some old → Grows written old e)
    (hnew : es.lookup n = none → ∀ p, ¬ written p → e.fileAt? p = none)
    (hjava : javaFrom n e = ((es.lookup n).map (javaFrom n)).getD []) :
    Grows (fun p => ∃ q, p = here ++ n :: q ∧ written q) top (top.put (here ++ [n]) e) := by
  have hset := (Grows.setEntry hentry hnew hjava).put hes
  rw [put_append hes, Entry.put, put_nil]
  refine hset.mono ?_
  rintro p ⟨q, rfl, r, rfl, hr⟩
  exact ⟨r, rfl, hr⟩

namespace Files

open Checkout (isJavaName)
open Entry (file)

variable {files after : Files} {es : List (String × Entry)} {n path directory : String}
  {here : List String}

/-! ### Writing a text -/

theorem writeText_eq_ok_iff {text : String} :
    files.writeText path text = .ok after ↔
      ∃ here n es, files.target path = .ok (some (here, n)) ∧
        files.root.at? here = some (.directory es) ∧ n.utf8ByteSize ≤ Entry.nameLimit ∧
        (∀ old, es.lookup n = some old → ∃ bytes, old = file bytes) ∧
        after = { files with root := files.root.put (here ++ [n]) (file text.toUTF8) } := by
  unfold writeText
  rw [bind_eq_ok_iff]
  constructor
  · rintro ⟨o, ho, h⟩
    split at h
    · cases h
    · next here n =>
      obtain ⟨es, hes, h⟩ := bind_eq_ok_iff.mp h
      obtain ⟨old, hold, h⟩ := bind_eq_ok_iff.mp h
      obtain ⟨hlimit, hlookup⟩ := Entry.find?_eq_ok_iff.mp hold
      split at h
      · cases h
      · next hfile =>
        cases h
        refine ⟨here, n, es, ho, Entry.entriesAt_eq_ok_iff.mp hes, hlimit, ?_, rfl⟩
        rintro old' hlookup'
        cases old' with
        | file bytes => exact ⟨bytes, rfl⟩
        | directory fs => exact absurd (hlookup.symm.trans hlookup') (hfile fs)
  · rintro ⟨here, n, es, htarget, hes, hlimit, hold, rfl⟩
    refine ⟨_, htarget, bind_eq_ok_iff.mpr ⟨es, Entry.entriesAt_eq_ok_iff.mpr hes, ?_⟩⟩
    refine bind_eq_ok_iff.mpr ⟨es.lookup n, Entry.find?_eq_ok_iff.mpr ⟨hlimit, rfl⟩, ?_⟩
    split
    · next fs hlookup =>
      obtain ⟨bytes, hfile⟩ := hold _ hlookup
      cases hfile
    · rfl

/-- Writing a text changes one file, which is no Java file. -/
theorem Grows.writeText {text : String} (h : files.writeText path text = .ok after)
    (htarget : files.target path = .ok (some (here, n))) (hname : isJavaName n.toList = false) :
    Grows (· = here ++ [n]) files after ∧
      after.root.at? (here ++ [n]) = some (file text.toUTF8) := by
  obtain ⟨here', n', es, htarget', hes, -, hold, rfl⟩ := writeText_eq_ok_iff.mp h
  rw [htarget] at htarget'
  cases htarget'
  refine ⟨⟨?_, rfl⟩, ?_⟩
  · have hgrows : Entry.Grows (fun p => ∃ q, p = here ++ n :: q ∧ q = []) files.root
        (files.root.put (here ++ [n]) (file text.toUTF8)) := by
      refine Entry.Grows.putEntry hes ?_ ?_ ?_
      · intro old hlookup
        obtain ⟨bytes, rfl⟩ := hold old hlookup
        exact Entry.Grows.ofFile bytes _
      · intro _ p hp
        obtain ⟨m, ms, rfl⟩ := List.exists_cons_of_ne_nil hp
        rfl
      · rw [Entry.javaFrom_file hname]
        cases hlookup : es.lookup n with
        | none => rfl
        | some old =>
          obtain ⟨bytes, rfl⟩ := hold old hlookup
          exact (Entry.javaFrom_file hname).symm
    refine hgrows.mono ?_
    rintro p ⟨q, rfl, rfl⟩
    rfl
  · have hput := Entry.at?_put files.root (here ++ [n]) [] (file text.toUTF8)
    rwa [List.append_nil] at hput

theorem decode_toUTF8 (text : String) : Entry.decode text.toUTF8 = .ok text := by
  have hvalid : String.fromUTF8? text.toUTF8 = some text := dif_pos text.isValidUTF8
  rw [Entry.decode, hvalid]

theorem readText_eq_ok_iff {text : String} :
    files.readText path = .ok text ↔
      ∃ bytes, files.entryAt path = .ok (file bytes) ∧ Entry.decode bytes = .ok text := by
  unfold readText
  rw [bind_eq_ok_iff]
  constructor
  · rintro ⟨e, he, h⟩
    split at h
    · next bytes => exact ⟨bytes, he, h⟩
    · cases h
  · rintro ⟨bytes, hbytes, h⟩
    exact ⟨file bytes, hbytes, h⟩

/-- A text at the place of a path is read from it. -/
theorem readText_of_at? {text : String} (htarget : files.target path = .ok (some (here, n)))
    (hlimit : n.utf8ByteSize ≤ Entry.nameLimit)
    (hfile : files.root.at? (here ++ [n]) = some (file text.toUTF8)) :
    files.readText path = .ok text := by
  obtain ⟨ss, hss, hfollow⟩ := target_eq_ok_some_iff.mp htarget
  obtain ⟨es, hes, -⟩ := exists_directory_of_at?_concat hfile
  have hnext : files.root.next here (.into n) = .ok (here ++ [n]) := by
    refine Entry.next_eq_ok_iff.mpr ⟨⟨es, hes⟩, ?_, rfl⟩
    rintro _ ⟨⟩
    rw [hfile]
    exact ⟨hlimit, rfl⟩
  refine readText_eq_ok_iff.mpr ⟨_, entryAt_eq_ok_iff.mpr ⟨_, ?_, hfile⟩, decode_toUTF8 text⟩
  refine locate_eq_ok_iff.mpr ⟨_, hss, ?_⟩
  rw [Entry.follow_concat, hfollow]
  exact hnext

/-- What is not there below an unobstructed path cannot be read because it is missing. -/
theorem Unobstructed.readText_eq_missing (h : files.Unobstructed directory) (hn : IsName n)
    (husable : IsUsable (Path.join directory n))
    (habsent : files.isPresent (Path.join directory n) = false) :
    files.readText (Path.join directory n) = .error .missing := by
  cases hentry : files.entryAt (Path.join directory n) with
  | ok e =>
    rw [isPresent, hentry] at habsent
    cases habsent
  | error f =>
    rw [readText, hentry, h.entryAt_join hn husable hentry]
    rfl

/-! ### Making directories -/

theorem makeDirectory_eq_ok_iff :
    files.makeDirectory path = .ok after ↔
      ∃ ss here n es, steps path = .ok ss ∧
        files.target (dropSlashes path) = .ok (some (here, n)) ∧
        files.root.at? here = some (.directory es) ∧ n.utf8ByteSize ≤ Entry.nameLimit ∧
        es.lookup n = none ∧
        after = { files with root := files.root.put (here ++ [n]) .empty } := by
  unfold makeDirectory
  rw [bind_eq_ok_iff]
  constructor
  · rintro ⟨ss, hss, h⟩
    obtain ⟨o, ho, h⟩ := bind_eq_ok_iff.mp h
    split at h
    · cases h
    · next here n =>
      obtain ⟨es, hes, h⟩ := bind_eq_ok_iff.mp h
      obtain ⟨old, hold, h⟩ := bind_eq_ok_iff.mp h
      obtain ⟨hlimit, rfl⟩ := Entry.find?_eq_ok_iff.mp hold
      split at h
      · cases h
      · next hnone =>
        cases h
        exact ⟨ss, here, n, es, hss, ho, Entry.entriesAt_eq_ok_iff.mp hes, hlimit, hnone, rfl⟩
  · rintro ⟨ss, here, n, es, hss, htarget, hes, hlimit, hnone, rfl⟩
    refine ⟨ss, hss, bind_eq_ok_iff.mpr ⟨_, htarget, ?_⟩⟩
    refine bind_eq_ok_iff.mpr ⟨es, Entry.entriesAt_eq_ok_iff.mpr hes, ?_⟩
    exact bind_eq_ok_iff.mpr ⟨none, Entry.find?_eq_ok_iff.mpr ⟨hlimit, hnone⟩, rfl⟩

theorem grows_makeDirectory (h : files.makeDirectory path = .ok after) :
    Grows (fun _ => False) files after := by
  obtain ⟨-, here, n, es, -, -, hes, -, hnone, rfl⟩ := makeDirectory_eq_ok_iff.mp h
  have hgrows : Entry.Grows (fun p => ∃ q, p = here ++ n :: q ∧ False) files.root
      (files.root.put (here ++ [n]) .empty) := by
    refine Entry.Grows.putEntry hes ?_ ?_ ?_
    · intro old hold
      rw [hnone] at hold
      cases hold
    · intro _ p _
      cases p <;> rfl
    · rw [hnone]
      rfl
  refine ⟨hgrows.mono ?_, rfl⟩
  rintro p ⟨q, -, hfalse⟩
  exact hfalse

theorem grows_settle {outcome : Except FileFault Files}
    (h : ∀ last, outcome = .ok last → Grows (fun _ => False) files last) :
    Grows (fun _ => False) files (files.settle path outcome).2 := by
  unfold settle
  split
  · exact h _ rfl
  · split
    · exact .refl _ files
    · exact .refl _ files

/-- **Making directories changes no file**, whether it succeeds or not. -/
theorem grows_makeDirectoriesFrom (fuel : Nat) (path : String) (files : Files) :
    Grows (fun _ => False) files (makeDirectoriesFrom fuel path files).2 := by
  induction fuel generalizing path files with
  | zero => exact .refl _ files
  | succ fuel ih =>
    rw [makeDirectoriesFrom]
    split
    · exact .refl _ files
    · split
      · split
        · exact .refl _ files
        · next parent _ =>
          have hparent := ih parent files
          split
          · next heq =>
            rw [heq] at hparent
            exact hparent
          · next heq =>
            rw [heq] at hparent
            exact hparent.trans (grows_settle fun last => grows_makeDirectory)
      · exact grows_settle fun last => grows_makeDirectory

theorem grows_makeDirectories {outcome : Except FileFault Unit}
    (h : files.makeDirectories path = (outcome, after)) : Grows (fun _ => False) files after := by
  have hgrows := grows_makeDirectoriesFrom (path.length + 1) path files
  rw [makeDirectories] at h
  rw [h] at hgrows
  exact hgrows

/-! ### Directories that are there -/

theorem isDirectory_iff :
    files.isDirectory path = true ↔ ∃ es, files.entryAt path = .ok (.directory es) := by
  unfold isDirectory
  split
  · next es h => simp [h]
  · next h =>
    simp only [Bool.false_eq_true, false_iff, not_exists]
    exact h

theorem makeDirectory_of_isDirectory (h : files.isDirectory path = true) :
    files.makeDirectory path = .error .taken := by
  obtain ⟨es, hes⟩ := isDirectory_iff.mp h
  obtain ⟨there, hthere, -⟩ := entryAt_eq_ok_iff.mp hes
  obtain ⟨ss, hss, hfollow⟩ := locate_eq_ok_iff.mp hthere
  obtain ⟨ts, hts, hfollow⟩ := follow_dropSlashes hss hfollow
  refine bind_eq_error_iff.mpr (.inr ⟨ss, hss, ?_⟩)
  rcases target_of_follow hts hfollow with hnone | ⟨here, n, fs, e, hplace, hfs, he⟩
  · exact bind_eq_error_iff.mpr (.inr ⟨none, hnone, rfl⟩)
  · refine bind_eq_error_iff.mpr (.inr ⟨_, hplace, ?_⟩)
    refine bind_eq_error_iff.mpr (.inr ⟨fs, Entry.entriesAt_eq_ok_iff.mpr hfs, ?_⟩)
    exact bind_eq_error_iff.mpr (.inr ⟨some e, he, rfl⟩)

/-- **A directory that is there is not made again.** -/
theorem makeDirectories_of_isDirectory (h : files.isDirectory path = true) :
    files.makeDirectories path = (.ok (), files) := by
  rw [makeDirectories, makeDirectoriesFrom, makeDirectory_of_isDirectory h]
  split
  · rfl
  · simp only [settle, h, if_true]

/-- The directory in which something has been written is not made again. -/
theorem makeDirectories_of_target {m : String} (hn : IsName n)
    (h : files.target (Path.join directory n) = .ok (some (here, m)))
    (hes : files.root.at? here = some (.directory es)) :
    files.makeDirectories directory = (.ok (), files) := by
  by_cases hempty : directory = ""
  · -- the working directory has no parts
    subst hempty
    rfl
  · obtain ⟨-, hfollow⟩ := follow_route_of_target hn h hes
    obtain ⟨ss, hss, -⟩ := target_eq_ok_some_iff.mp h
    have hfault : pathFault? directory = none :=
      pathFault?_of_start (steps_eq_ok_iff.mp hss).1 (prefix_join hn directory) hempty
    have hsteps : steps directory = .ok (route directory) := steps_eq_ok_iff.mpr ⟨hfault, rfl⟩
    have hlocate : files.locate directory = .ok here :=
      locate_eq_ok_iff.mpr ⟨_, hsteps, hfollow⟩
    apply makeDirectories_of_isDirectory
    exact isDirectory_iff.mpr ⟨es, entryAt_eq_ok_iff.mpr ⟨here, hlocate, hes⟩⟩

end Files

end RpcBindings
