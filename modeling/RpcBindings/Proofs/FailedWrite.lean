import RpcBindings.Package
import RpcBindings.Proofs.Writing

/-!
# Writing modules

What the files hold after the modules of a package have been written, and after only some of them
have been because one could not be.  Nothing is written before all modules have been generated; but
modules are written one after another, and those that come before the one that fails are not taken
back.

## Main definitions

* `Package.place?` — the names that lead to the file of a module.
* `Package.lastAt?` — the last of some modules that has its file at a place.
* `Package.Wrote` — some modules have been written.
* `Package.Fails` — the ways in which writing fails, each with the modules written before.

## Main results

* `Package.wrote_of_writeAll` — **the specification of `writeAll`.**
* `Package.failed_write_keeps_iff` — **what the files hold after a failure**, and when this is what
  they held before.
-/

namespace RpcBindings.Package

open Fallible
open Files (Grows Keeps)

variable {c : Config} {directory : String} {files made after last : Files} {m : GeneratedModule}
  {ms : List GeneratedModule} {paths : List String} {e : Error} {q : List String}

/-! ### Places of modules -/

/-- The names that lead to the file of a module. -/
def place? (top : Files) (directory : String) (m : GeneratedModule) : Option (List String) :=
  match top.target (filePath directory m) with
  | .ok (some (here, n)) => some (here ++ [n])
  | _ => none

theorem place?_eq_some_iff :
    place? files directory m = some q ↔
      ∃ here n, files.target (filePath directory m) = .ok (some (here, n)) ∧ q = here ++ [n] := by
  unfold place?
  split
  · next here n h =>
    rw [h, Option.some.injEq]
    constructor
    · intro heq
      exact ⟨here, n, rfl, heq.symm⟩
    · rintro ⟨here', n', heq, rfl⟩
      cases heq
      rfl
  · next h =>
    constructor
    · intro hnone
      cases hnone
    · rintro ⟨here, n, heq, -⟩
      exact absurd heq (h here n)

/-- The last of some modules that has its file at the place to which the names lead. -/
def lastAt? (top : Files) (directory : String) : List GeneratedModule → List String →
    Option GeneratedModule
  | [], _ => none
  | m :: ms, q =>
    (lastAt? top directory ms q).or (if place? top directory m = some q then some m else none)

theorem lastAt?_eq_none_iff :
    lastAt? files directory ms q = none ↔ ∀ m ∈ ms, place? files directory m ≠ some q := by
  induction ms with
  | nil => simp [lastAt?]
  | cons m ms ih =>
    rw [lastAt?, Option.or_eq_none_iff, ih, List.forall_mem_cons, and_comm]
    simp

/-- The path of a module ends like the names of modules do. -/
theorem suffix_filePath (directory : String) (m : GeneratedModule) :
    ".py".toList <:+ (filePath directory m).toList := by
  have hname : ".py".toList <:+ m.fileName.toList := by
    rw [GeneratedModule.fileName, String.toList_append]
    exact List.suffix_append _ _
  exact hname.trans (Files.suffix_join directory m.fileName)

/-! ### Written modules -/

/-- The files `last` have come from `files` by writing modules into a directory. -/
structure Wrote (directory : String) (ms : List GeneratedModule) (files last : Files) : Prop where
  /-- Nothing but the files of the modules has changed. -/
  grows : Grows (fun q => ∃ m ∈ ms, place? last directory m = some q) files last
  /-- Each module has a place. -/
  placed : ∀ m ∈ ms, ∃ here n es, last.target (filePath directory m) = .ok (some (here, n)) ∧
    n.utf8ByteSize ≤ Entry.nameLimit ∧ last.root.at? here = some (.directory es)
  /-- A file holds the text of the module that was last written at its place, or what it held. -/
  fileAt : ∀ q, last.root.fileAt? q =
    ((lastAt? last directory ms q).map fun m => m.text.toUTF8).or (files.root.fileAt? q)

theorem wrote_nil (directory : String) (files : Files) : Wrote directory [] files files where
  grows := .refl _ files
  placed := by
    intro m hm
    cases hm
  fileAt _ := rfl

/-- One more module is written before the others. -/
theorem Wrote.cons (hm : files.writeText (filePath directory m) m.text = .ok made)
    (h : Wrote directory ms made last) : Wrote directory (m :: ms) files last := by
  obtain ⟨here, n, es, htarget, hes, hlimit, -, -⟩ := Files.writeText_eq_ok_iff.mp hm
  have hname := Files.isJavaName_of_target htarget (suffix_filePath directory m)
  obtain ⟨hgrows, hfile⟩ := Grows.writeText hm htarget hname
  -- the file keeps its place while the others are written
  have hlast : last.target (filePath directory m) = .ok (some (here, n)) :=
    h.grows.keeps.target (hgrows.keeps.target htarget)
  have hplace : place? last directory m = some (here ++ [n]) :=
    place?_eq_some_iff.mpr ⟨here, n, hlast, rfl⟩
  constructor
  · have hfirst : Grows (fun q => ∃ m' ∈ m :: ms, place? last directory m' = some q) files made :=
      hgrows.mono fun q hq => ⟨m, List.mem_cons_self, hq ▸ hplace⟩
    have hrest : Grows (fun q => ∃ m' ∈ m :: ms, place? last directory m' = some q) made last :=
      h.grows.mono fun q ⟨m', hm', hq⟩ => ⟨m', List.mem_cons_of_mem _ hm', hq⟩
    exact hfirst.trans hrest
  · intro m' hm'
    rcases List.mem_cons.mp hm' with rfl | hm'
    · obtain ⟨es', hes', -⟩ := hgrows.tree.directory here es hes
      obtain ⟨es'', hes'', -⟩ := h.grows.tree.directory here es' hes'
      exact ⟨here, n, es'', hlast, hlimit, hes''⟩
    · exact h.placed m' hm'
  · intro q
    rw [h.fileAt q, lastAt?, hplace]
    cases hlater : lastAt? last directory ms q with
    | some m' => rfl
    | none =>
      by_cases hq : here ++ [n] = q
      · subst hq
        have hmade : made.root.fileAt? (here ++ [n]) = some m.text.toUTF8 :=
          Entry.fileAt?_eq_some_iff.mpr hfile
        simp [hmade]
      · have hmade : made.root.fileAt? q = files.root.fileAt? q := hgrows.tree.fileAt q (Ne.symm hq)
        simp [hmade, hq]

/-- **The specification of `writeAll`.** -/
theorem wrote_of_writeAll (h : writeAll directory ms files = (.ok paths, last)) :
    Wrote directory ms files last ∧ paths = ms.map (filePath directory) := by
  induction ms generalizing files paths with
  | nil =>
    rw [writeAll_nil] at h
    cases h
    exact ⟨wrote_nil directory _, rfl⟩
  | cons m ms ih =>
    rw [writeAll_cons] at h
    split at h
    · cases h
    · next made hmade =>
      split at h
      · next paths' last' hrest =>
        cases h
        obtain ⟨hwrote, rfl⟩ := ih hrest
        exact ⟨hwrote.cons hmade, rfl⟩
      · cases h

/-- When some modules cannot be written, the first of these that cannot is the reason, and those
before it have been written. -/
theorem exists_of_writeAll_eq_error (h : writeAll directory ms files = (.error e, last)) :
    ∃ done m rest f, ms = done ++ m :: rest ∧
      writeAll directory done files = (.ok (done.map (filePath directory)), last) ∧
      last.writeText (filePath directory m) m.text = .error f ∧ e = .file f := by
  induction ms generalizing files with
  | nil =>
    rw [writeAll_nil] at h
    cases h
  | cons m ms ih =>
    rw [writeAll_cons] at h
    split at h
    · next f hf =>
      cases h
      exact ⟨[], m, ms, f, rfl, rfl, hf, rfl⟩
    · next made hmade =>
      split at h
      · cases h
      · next e' last' hrest =>
        cases h
        obtain ⟨done, m', rest, f, rfl, hdone, hfault, rfl⟩ := ih hrest
        refine ⟨m :: done, m', rest, f, rfl, ?_, hfault, rfl⟩
        rw [writeAll_cons, hmade]
        simp only [hdone]
        rfl

/-! ### Failures -/

/-- The ways in which writing a package fails, with the modules that have been written before, the
error, and the files afterwards. -/
inductive Fails (c : Config) (directory : String) (files : Files) :
    List GeneratedModule → Error → Files → Prop
  /-- The modules cannot be generated. -/
  | generating {e : Error} : modules c files = .error e → Fails c directory files [] e files
  /-- The directory cannot be made. -/
  | making {ms : List GeneratedModule} {f : FileFault} {after : Files} :
    modules c files = .ok ms → files.makeDirectories directory = (.error f, after) →
    Fails c directory files [] (.file f) after
  /-- A module cannot be written; those before it have been written. -/
  | writing {done rest : List GeneratedModule} {m : GeneratedModule} {f : FileFault}
      {made after : Files} :
    modules c files = .ok (done ++ m :: rest) → files.makeDirectories directory = (.ok (), made) →
    writeAll directory done made = (.ok (done.map (filePath directory)), after) →
    after.writeText (filePath directory m) m.text = .error f →
    Fails c directory files done (.file f) after

theorem exists_fails_of_write (h : write c directory files = (.error e, after)) :
    ∃ done, Fails c directory files done e after := by
  rw [write_eq] at h
  split at h
  · next e' hmodules =>
    cases h
    exact ⟨[], .generating hmodules⟩
  · next ms hmodules =>
    split at h
    · next f after' hmake =>
      cases h
      exact ⟨[], .making hmodules hmake⟩
    · next made hmade =>
      obtain ⟨done, m, rest, f, rfl, hdone, hfault, rfl⟩ := exists_of_writeAll_eq_error h
      exact ⟨done, .writing hmodules hmade hdone hfault⟩

/-- Only the modules that were written before a failure have changed files. -/
theorem Fails.fileAt {done : List GeneratedModule} (h : Fails c directory files done e after)
    (q : List String) : after.root.fileAt? q =
      ((lastAt? after directory done q).map fun m => m.text.toUTF8).or (files.root.fileAt? q) := by
  cases h with
  | generating _ => rfl
  | making _ hmake =>
    exact (Files.grows_makeDirectories hmake).tree.fileAt q id
  | writing _ hmade hdone _ =>
    rw [(wrote_of_writeAll hdone).1.fileAt q, (Files.grows_makeDirectories hmade).tree.fileAt q id]

/-- **What the files hold after a failure.**  Each way of failing says which modules have been
written; a file holds the text of the last of these whose place it has, and otherwise what it held
before.  So all files are as they were exactly when these modules were up to date, in particular
when nothing has been written. -/
theorem failed_write_keeps_iff (h : write c directory files = (.error e, after)) :
    ∃ done, Fails c directory files done e after ∧
      (∀ q, after.root.fileAt? q =
        ((lastAt? after directory done q).map fun m => m.text.toUTF8).or (files.root.fileAt? q)) ∧
      ((∀ q, after.root.fileAt? q = files.root.fileAt? q) ↔
        ∀ q m, lastAt? after directory done q = some m →
          files.root.fileAt? q = some m.text.toUTF8) := by
  obtain ⟨done, hfails⟩ := exists_fails_of_write h
  refine ⟨done, hfails, hfails.fileAt, ?_⟩
  constructor
  · intro hsame q m hm
    rw [← hsame q, hfails.fileAt q, hm]
    rfl
  · intro hcurrent q
    rw [hfails.fileAt q]
    cases hm : lastAt? after directory done q with
    | none => rfl
    | some m => rw [hcurrent q m hm]; rfl

/-! ### A directory in place of a module -/

/-- Two source directories without files, and a directory where the second module belongs. -/
def blocked : Files :=
  .inside <| .directory [("up", .directory [("c", .empty), ("j", .empty)]),
    ("out", .directory [("outputs.py", .empty), ("commands.py", .file "# old\n".toUTF8)])]

/-- The configuration for these source directories. -/
def blockedConfig : Config where
  checkout := "up"
  sources := { commandsDir := "c", jsonDir := "j" }
  output := { provenance := false }

/-- The text of the file that names lead to. -/
def textAt? (files : Files) (names : List String) : Option String :=
  (files.root.fileAt? names).bind String.fromUTF8?

/-- Whether writing fails because something is a directory, with a file of the given text. -/
def leaves (names : List String) (text : String) : Written → Bool
  | (.error (.file f), after) => f = .isDirectory ∧ textAt? after names = some text
  | _ => false

theorem exists_of_leaves {names : List String} {text : String} {w : Written}
    (h : leaves names text w = true) : ∃ after, w = (.error (.file .isDirectory), after) ∧
      textAt? after names = some text := by
  unfold leaves at h
  split at h
  · next f after =>
    obtain ⟨rfl, htext⟩ := of_decide_eq_true h
    exact ⟨after, rfl, htext⟩
  · cases h

theorem leaves_blocked :
    leaves ["work", "out", "commands.py"] "__all__ = []\n" (write blockedConfig "out" blocked) =
      true := by
  decide +kernel

theorem textAt?_blocked : textAt? blocked ["work", "out", "commands.py"] = some "# old\n" := by
  decide +kernel

/-- The first module is replaced although the second one cannot be written. -/
theorem failed_write_replaces_first_module :
    ∃ after, write blockedConfig "out" blocked = (.error (.file .isDirectory), after) ∧
      textAt? blocked ["work", "out", "commands.py"] = some "# old\n" ∧
      textAt? after ["work", "out", "commands.py"] = some "__all__ = []\n" := by
  obtain ⟨after, hwrite, htext⟩ := exists_of_leaves leaves_blocked
  exact ⟨after, hwrite, textAt?_blocked, htext⟩

theorem blocked_failed_write_keeps_iff :
    ∃ after done, write blockedConfig "out" blocked = (.error (.file .isDirectory), after) ∧
      Fails blockedConfig "out" blocked done (.file .isDirectory) after ∧
      ∃ q m, lastAt? after "out" done q = some m ∧ blocked.root.fileAt? q ≠ some m.text.toUTF8 := by
  obtain ⟨after, hwrite, htext⟩ := exists_of_leaves leaves_blocked
  obtain ⟨done, hfails, -, hkeeps⟩ := failed_write_keeps_iff hwrite
  refine ⟨after, done, hwrite, hfails, ?_⟩
  by_contra hnone
  push Not at hnone
  have hsame := hkeeps.mpr hnone ["work", "out", "commands.py"]
  have holdText := textAt?_blocked
  rw [textAt?, ← hsame] at holdText
  rw [textAt?, holdText] at htext
  exact absurd htext (by decide)

end RpcBindings.Package
