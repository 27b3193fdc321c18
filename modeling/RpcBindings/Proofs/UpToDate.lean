import RpcBindings.CommandLine.Run
import RpcBindings.Config.Check
import RpcBindings.Proofs.Assembly
import RpcBindings.Proofs.FailedWrite
import Mathlib.Data.List.Nodup
import Mathlib.Data.List.Infix

/-!
# Packages that are up to date

A package that has just been written is up to date, and writing it once more changes nothing.  This
is so wherever the directory lies, because files of modules are no Java files: the checkout reads
the same afterwards, and gives the same modules.  The files of different modules do not overwrite
each other, because a configuration with repeated or unusual module names is refused.  All this
needs files with one name each that may be read and written: links, and files that may only be
written, break it.

## Main definitions

* `Package.isCurrent` — whether the file of a module holds its text.
* `Package.IsPackage` — modules whose names are different and stand for files of one directory.
* `Package.Holds` — the file of a module, in a directory that is there, holds its text.
* `Package.linked`, `Package.writeOnly` — file systems with a link, and with a file that may only be
  written.

## Main results

* `Package.modules_of_grows` — **written files do not change what is generated.**
* `Package.isPackage_of_modules` — the modules of a configuration that is not refused.
* `Package.check_eq_ok` — the modules that are out of date.
* `Package.write_then_check` — **writing and checking agree.**
* `Package.write_check_disagree` — where they do not.
-/

namespace RpcBindings

open Fallible Text

/-! ### Names of modules -/

/-- Nothing is wrong with module names exactly when they are identifiers and differ from each other
and from those before. -/
theorem moduleFault?_eq_none_iff {before : List String} {ps : List (String × String)} :
    moduleFault? before ps = none ↔
      (∀ p ∈ ps, Identifier.isAsciiName p.2.toList = true) ∧ (ps.map Prod.snd).Nodup ∧
        ∀ p ∈ ps, p.2 ∉ before := by
  induction ps generalizing before with
  | nil => simp [moduleFault?]
  | cons p ps ih =>
    obtain ⟨key, name⟩ := p
    rw [moduleFault?]
    by_cases hname : Identifier.isAsciiName name.toList = true
    · by_cases hbefore : name ∈ before
      · simp [hname, hbefore]
      · simp [hname, hbefore, ih]
        grind
    · simp [hname]

/-- A configuration that is not refused has module names that are identifiers and different. -/
theorem Config.moduleNames_of_check {c : Config} (h : c.check = .ok ()) :
    (∀ p ∈ c.output.moduleNames, Identifier.isAsciiName p.2.toList = true) ∧
      (c.output.moduleNames.map Prod.snd).Nodup := by
  have hfault : moduleFault? [] c.output.moduleNames = none := by
    rw [Config.check, Config.fault?] at h
    cases hfault : moduleFault? [] c.output.moduleNames with
    | none => rfl
    | some fault =>
      rw [hfault] at h
      cases h
  obtain ⟨hnames, hnodup, -⟩ := moduleFault?_eq_none_iff.mp hfault
  exact ⟨hnames, hnodup⟩

theorem slash_notMem_of_isAsciiName {cs : List Char} (h : Identifier.isAsciiName cs = true) :
    '/' ∉ cs := by
  cases cs with
  | nil => exact List.not_mem_nil
  | cons c cs =>
    rw [Identifier.isAsciiName, Bool.and_eq_true, List.all_eq_true] at h
    obtain ⟨hstart, hrest⟩ := h
    intro hslash
    rcases List.mem_cons.mp hslash with rfl | hslash
    · exact absurd hstart (by decide)
    · exact absurd (hrest _ hslash) (by decide)

namespace Package

open Files (Grows IsName IsUsable Unobstructed)

variable {c : Config} {directory : String} {files made after last : Files} {m : GeneratedModule}
  {ms : List GeneratedModule} {paths : List String}

/-- Modules whose names are different and stand for files of one directory. -/
structure IsPackage (ms : List GeneratedModule) : Prop where
  nonempty : ms ≠ []
  isName : ∀ m ∈ ms, IsName m.fileName
  nodup : (ms.map GeneratedModule.name).Nodup

/-- The modules of a configuration that is not refused have the names in the configuration. -/
theorem names_of_modules (h : modules c files = .ok ms) :
    ms.map GeneratedModule.kind = ModuleKind.all ∧
      ms.map GeneratedModule.name =
        [c.output.commandsModule, c.output.outputsModule, c.output.typesModule] := by
  obtain ⟨k, -, hgenerate⟩ := bind_eq_ok_iff.mp h
  obtain ⟨hkinds, hnames⟩ := kinds_of_generate hgenerate
  refine ⟨hkinds, ?_⟩
  calc ms.map GeneratedModule.name
      = ms.map fun g => g.kind.moduleName c.output := List.map_congr_left hnames
    _ = (ms.map GeneratedModule.kind).map (ModuleKind.moduleName c.output) := by
        rw [List.map_map]; rfl
    _ = _ := by rw [hkinds]; rfl

theorem isPackage_of_modules (hc : c.check = .ok ()) (h : modules c files = .ok ms) :
    IsPackage ms := by
  obtain ⟨-, hnames⟩ := names_of_modules h
  obtain ⟨hascii, hnodup⟩ := Config.moduleNames_of_check hc
  have hlisted : ms.map GeneratedModule.name <+: c.output.moduleNames.map Prod.snd := by
    rw [hnames]
    exact List.prefix_append _ [c.output.sessionModule, c.output.utilsModule]
  constructor
  · rintro rfl
    cases hnames
  · intro m hm
    obtain ⟨p, hp, hname⟩ := List.mem_map.mp (hlisted.subset (List.mem_map_of_mem hm))
    apply Files.isName_append_py
    rw [← hname]
    exact slash_notMem_of_isAsciiName (hascii p hp)
  · exact hlisted.sublist.nodup hnodup

/-! ### What is generated afterwards -/

/-- Reading a directory again gives the same, when only files that are no Java files have been
written. -/
theorem readDirectory_of_grows {written : List String → Prop} {root path : String}
    {sources : List Source.File} (h : Grows written files after)
    (hread : Checkout.readDirectory root path (files.listing path) = .ok sources) :
    Checkout.readDirectory root path (after.listing path) = .ok sources := by
  cases hlisting : files.listing path with
  | none =>
    rw [hlisting] at hread
    cases hread
  | some found =>
    obtain ⟨es, hes, rfl⟩ := Files.listing_eq_some_iff.mp hlisting
    obtain ⟨es', hes', hjava⟩ := h.entryAt hes
    have hafter : after.listing path = some (Entry.contentsOfAll es') :=
      Files.listing_eq_some_iff.mpr ⟨es', hes', rfl⟩
    have hsame : Checkout.javaFiles (Entry.contentsOfAll es') =
        Checkout.javaFiles (Entry.contentsOfAll es) :=
      congrArg (List.mergeSort · _) hjava
    rw [hlisting, Checkout.readDirectory] at hread
    rw [hafter, Checkout.readDirectory, hsame, hread]

/-- **Written files do not change what is generated.** -/
theorem modules_of_grows {written : List String → Prop} (h : Grows written files after)
    (hms : modules c files = .ok ms) : modules c after = .ok ms := by
  rw [modules_eq] at hms ⊢
  obtain ⟨k, hread, hgenerate⟩ := bind_eq_ok_iff.mp hms
  obtain ⟨commands, hcommands, hread⟩ := bind_eq_ok_iff.mp hread
  obtain ⟨json, hjson, hread⟩ := bind_eq_ok_iff.mp hread
  refine bind_eq_ok_iff.mpr ⟨k, bind_eq_ok_iff.mpr ⟨commands, ?_, ?_⟩, hgenerate⟩
  · exact readDirectory_of_grows h hcommands
  · exact bind_eq_ok_iff.mpr ⟨json, readDirectory_of_grows h hjson, hread⟩

theorem write_eq_ok_iff :
    write c directory files = (.ok paths, after) ↔
      ∃ ms made, modules c files = .ok ms ∧ files.makeDirectories directory = (.ok (), made) ∧
        writeAll directory ms made = (.ok paths, after) := by
  rw [write_eq]
  constructor
  · intro h
    split at h
    · cases h
    · next ms hms =>
      split at h
      · cases h
      · next made hmade => exact ⟨ms, made, hms, hmade, h⟩
  · rintro ⟨ms, made, hms, hmade, h⟩
    rw [hms]
    simp only [hmade]
    exact h

/-! ### Modules that are up to date -/

/-- Whether the file of a module holds its text. -/
def isCurrent (directory : String) (files : Files) (m : GeneratedModule) : Bool :=
  match files.readText (filePath directory m) with
  | .ok text => text == m.text
  | .error _ => false

theorem isCurrent_iff :
    isCurrent directory files m = true ↔ files.readText (filePath directory m) = .ok m.text := by
  unfold isCurrent
  split
  · next text h => rw [h, beq_iff_eq, Except.ok.injEq]
  · next f h => simp [h]

theorem isCurrent_eq_false {f : FileFault} (h : files.readText (filePath directory m) = .error f) :
    isCurrent directory files m = false := by
  unfold isCurrent
  rw [h]

/-- A module that is looked up is out of date, unless its file holds its text. -/
theorem drift?_eq_ok (h : files.readText (filePath directory m) = .error .missing ∨
      ∃ text, files.readText (filePath directory m) = .ok text) :
    drift? m (files.readText (filePath directory m)) =
      .ok (if isCurrent directory files m then none else some m.name) := by
  unfold isCurrent
  rcases h with h | ⟨text, h⟩
  · rw [h]
    rfl
  · rw [h]
    simp [drift?]

theorem filterMap_id_map_ite {α β : Type} (p : α → Bool) (f : α → β) (xs : List α) :
    (xs.map fun x => if p x then none else some (f x)).filterMap id =
      (xs.filter fun x => !p x).map f := by
  induction xs with
  | nil => rfl
  | cons x xs ih =>
    rw [List.map_cons, List.filterMap_cons, List.filter_cons, ih]
    cases p x <;> rfl

/-- **The modules that are out of date** are those whose files do not hold their texts. -/
theorem check_eq_ok (hms : modules c files = .ok ms)
    (hread : ∀ m ∈ ms, files.readText (filePath directory m) = .error .missing ∨
      ∃ text, files.readText (filePath directory m) = .ok text) :
    check c directory files =
      .ok ((ms.filter fun m => !isCurrent directory files m).map GeneratedModule.name) := by
  have hdrifts : ms.mapM (fun m => drift? m (files.readText (filePath directory m))) =
      .ok (ms.map fun m => if isCurrent directory files m then none else some m.name) := by
    refine mapM_eq_ok_iff.mpr (List.forall₂_map_right_iff.mpr (List.forall₂_same.mpr ?_))
    intro m hm
    exact drift?_eq_ok (hread m hm)
  rw [check_eq, hms, ← filterMap_id_map_ite]
  exact congrArg (Except.map _) hdrifts

/-! ### After writing -/

theorem mem_of_lastAt?_eq_some {q : List String} (h : lastAt? files directory ms q = some m) :
    m ∈ ms ∧ place? files directory m = some q := by
  induction ms with
  | nil => cases h
  | cons m' ms ih =>
    rw [lastAt?, Option.or_eq_some_iff] at h
    rcases h with hlater | ⟨-, hfirst⟩
    · obtain ⟨hmem, hplace⟩ := ih hlater
      exact ⟨List.mem_cons_of_mem _ hmem, hplace⟩
    · split at hfirst
      · next hplace =>
        cases hfirst
        exact ⟨List.mem_cons_self, hplace⟩
      · cases hfirst

/-- The file of a module, in a directory that is there, holds its text. -/
def Holds (directory : String) (files : Files) (m : GeneratedModule) : Prop :=
  ∃ here n es, files.target (filePath directory m) = .ok (some (here, n)) ∧
    n.utf8ByteSize ≤ Entry.nameLimit ∧ files.root.at? here = some (.directory es) ∧
    files.root.at? (here ++ [n]) = some (.file m.text.toUTF8)

theorem Holds.isCurrent (h : Holds directory files m) : isCurrent directory files m = true := by
  obtain ⟨here, n, es, htarget, hlimit, -, hfile⟩ := h
  exact isCurrent_iff.mpr (Files.readText_of_at? htarget hlimit hfile)

/-- Modules with different names have different places. -/
theorem IsPackage.eq_of_place? {m' : GeneratedModule} {here here' : List String} {n n' : String}
    {es es' : List (String × Entry)} (hms : IsPackage ms) (hm : m ∈ ms) (hm' : m' ∈ ms)
    (h : files.target (filePath directory m) = .ok (some (here, n)))
    (hes : files.root.at? here = some (.directory es))
    (h' : files.target (filePath directory m') = .ok (some (here', n')))
    (hes' : files.root.at? here' = some (.directory es')) (heq : here' ++ [n'] = here ++ [n]) :
    m' = m := by
  obtain ⟨-, hn⟩ := List.append_inj' heq rfl
  obtain ⟨hname, -⟩ := Files.follow_route_of_target (hms.isName m hm) h hes
  obtain ⟨hname', -⟩ := Files.follow_route_of_target (hms.isName m' hm') h' hes'
  have hfiles : m'.name ++ ".py" = m.name ++ ".py" := by
    rw [List.singleton_inj, hname, hname'] at hn
    exact hn
  have hnames : m'.name = m.name := by
    rw [← String.toList_inj, String.toList_append, String.toList_append] at hfiles
    exact String.toList_inj.mp (List.append_cancel_right hfiles)
  exact List.inj_on_of_nodup_map hms.nodup hm' hm hnames

/-- After the modules of a package have been written, each file holds its text. -/
theorem Wrote.holds (h : Wrote directory ms files last) (hms : IsPackage ms) (hm : m ∈ ms) :
    Holds directory last m := by
  obtain ⟨here, n, es, htarget, hlimit, hes⟩ := h.placed m hm
  have hplace : place? last directory m = some (here ++ [n]) :=
    place?_eq_some_iff.mpr ⟨here, n, htarget, rfl⟩
  have hlast : lastAt? last directory ms (here ++ [n]) = some m := by
    cases hlast : lastAt? last directory ms (here ++ [n]) with
    | none => exact absurd hplace (lastAt?_eq_none_iff.mp hlast m hm)
    | some m' =>
      obtain ⟨hm', hplace'⟩ := mem_of_lastAt?_eq_some hlast
      obtain ⟨here', n', es', htarget', -, hes'⟩ := h.placed m' hm'
      have heq : here' ++ [n'] = here ++ [n] := by
        rw [place?_eq_some_iff.mpr ⟨here', n', htarget', rfl⟩] at hplace'
        exact Option.some.inj hplace'
      rw [hms.eq_of_place? hm hm' htarget hes htarget' hes' heq]
  have hfile : last.root.fileAt? (here ++ [n]) = some m.text.toUTF8 := by
    rw [h.fileAt, hlast]
    rfl
  exact ⟨here, n, es, htarget, hlimit, hes, Entry.fileAt?_eq_some_iff.mp hfile⟩

/-- Modules whose files hold their texts are written without any effect. -/
theorem writeAll_of_holds (h : ∀ m ∈ ms, Holds directory files m) :
    writeAll directory ms files = (.ok (ms.map (filePath directory)), files) := by
  induction ms with
  | nil => rfl
  | cons m ms ih =>
    rw [List.forall_mem_cons] at h
    obtain ⟨⟨here, n, es, htarget, hlimit, hes, hfile⟩, hrest⟩ := h
    have hold : ∀ old, es.lookup n = some old → ∃ bytes, old = .file bytes := by
      intro old hlookup
      rw [← Entry.at?_concat hes, hfile] at hlookup
      exact ⟨_, (Option.some.inj hlookup).symm⟩
    have hwrite : files.writeText (filePath directory m) m.text = .ok files := by
      refine Files.writeText_eq_ok_iff.mpr ⟨here, n, es, htarget, hes, hlimit, hold, ?_⟩
      rw [Entry.put_eq_self hfile]
    rw [writeAll_cons, hwrite]
    simp only [ih hrest]
    rfl

/-- A package that is held by a directory is written without any effect. -/
theorem write_of_holds (hmodules : modules c files = .ok ms) (hms : IsPackage ms)
    (h : ∀ m ∈ ms, Holds directory files m) :
    write c directory files = (.ok (ms.map (filePath directory)), files) := by
  obtain ⟨m, hm⟩ := List.exists_mem_of_ne_nil ms hms.nonempty
  obtain ⟨here, n, es, htarget, -, hes, -⟩ := h m hm
  have hmade : files.makeDirectories directory = (.ok (), files) :=
    Files.makeDirectories_of_target (hms.isName m hm) htarget hes
  exact write_eq_ok_iff.mpr ⟨ms, files, hmodules, hmade, writeAll_of_holds h⟩

/-- What a successful run of writing leaves behind. -/
theorem holds_of_write (hc : c.check = .ok ())
    (h : write c directory files = (.ok paths, after)) :
    ∃ ms, modules c after = .ok ms ∧ IsPackage ms ∧ (∀ m ∈ ms, Holds directory after m) ∧
      paths = ms.map (filePath directory) := by
  obtain ⟨ms, made, hms, hmade, hwritten⟩ := write_eq_ok_iff.mp h
  have hpackage := isPackage_of_modules hc hms
  obtain ⟨hwrote, rfl⟩ := wrote_of_writeAll hwritten
  have hmodules : modules c made = .ok ms :=
    modules_of_grows (Files.grows_makeDirectories hmade) hms
  have hafter : modules c after = .ok ms := modules_of_grows hwrote.grows hmodules
  exact ⟨ms, hafter, hpackage, fun m hm => hwrote.holds hpackage hm, rfl⟩

/-- Source directories with the file of one record, in the working directory `/w`. -/
def sample : Files where
  root := .directory [("w", .directory [("c", .empty), ("j", .directory
    [("JsonContact.java", .file "record JsonContact(int uuid) \x7b\x7d".toUTF8)])])]
  place := ["w"]

/-- The configuration for these source directories. -/
def sampleConfig : Config where
  checkout := "."
  sources := { commandsDir := "c", jsonDir := "j" }
  output := { provenance := false }

theorem check_sampleConfig : sampleConfig.check = .ok () := by
  have hfault : sampleConfig.fault? = none := by decide +kernel
  rw [Config.check, hfault]
  rfl

theorem writes_sample : (write sampleConfig "/w/j/g" sample).1.toOption.isSome = true := by
  decide +kernel

section

variable {m : Type → Type} (fs : FileSystem m) (link target path : String)

/-- The same files, but `link` is another name of the file `target`. -/
def linked : FileSystem m where
  isPresent p := fs.isPresent (if p = link then target else p)
  readText p := fs.readText (if p = link then target else p)
  listing := fs.listing
  makeDirectories := fs.makeDirectories
  writeText p := fs.writeText (if p = link then target else p)

/-- The same files, but the one that has the path may only be written. -/
def writeOnly [Monad m] : FileSystem m :=
  { fs with readText := fun p => if p = path then return .error .denied else fs.readText p }

end

/-- The outcome of a check after writing, if writing succeeds. -/
def checkAfterWrite (fs : FileSystem (StateM Files)) (c : Config) (directory : String)
    (files : Files) : Option (Except Error (List String)) :=
  match files.run (writeTo fs c directory) with
  | (.ok _, after) => some (after.run (checkIn fs c directory)).1
  | (.error _, _) => none

theorem exists_of_checkAfterWrite {fs : FileSystem (StateM Files)}
    {outcome : Except Error (List String)}
    (h : checkAfterWrite fs c directory files = some outcome) :
    ∃ paths after, files.run (writeTo fs c directory) = (.ok paths, after) ∧
      (after.run (checkIn fs c directory)).1 = outcome := by
  unfold checkAfterWrite at h
  split at h
  · next paths after hwrite => exact ⟨paths, after, hwrite, Option.some.inj h⟩
  · cases h

/-- A directory for the modules, and two source directories, all of them without files. -/
def bare : Files :=
  .inside <| .directory [("c", .empty), ("j", .empty), ("o", .empty)]

/-- A name that no file can have. -/
def longName : String :=
  String.ofList (List.replicate 300 'a')

theorem toList_longName : longName.toList = List.replicate 300 'a' :=
  String.toList_ofList

/-- The configuration for these source directories, with a module of that name. -/
def longConfig : Config :=
  { sampleConfig with output := { provenance := false, commandsModule := longName } }

theorem check_longConfig : longConfig.check = .ok () := by
  have hnames : moduleFault? [] longConfig.output.moduleNames = none := by
    have hlong : Identifier.isAsciiName longName.toList = true := by
      rw [toList_longName]
      decide +kernel
    refine moduleFault?_eq_none_iff.mpr ⟨?_, by decide +kernel, fun _ _ => List.not_mem_nil⟩
    exact List.forall_mem_cons.mpr ⟨hlong, by decide +kernel⟩
  have hfault : longConfig.fault? = none := by
    rw [Config.fault?, hnames]
    decide +kernel
  rw [Config.check, hfault]
  rfl

theorem modules_longConfig : (modules longConfig bare).toOption.isSome = true := by
  decide +kernel

/-- The operating system refuses the name. -/
theorem entryAt_longName :
    bare.entryAt (Path.join "o" (longName ++ ".py")) = .error .nameTooLong := by
  have hout : bare.isDirectory "o" = true := by decide +kernel
  obtain ⟨es, hes⟩ := Files.isDirectory_iff.mp hout
  have hchars : ∀ c ∈ longName.toList, c = 'a' := by
    intro c hc
    rw [toList_longName] at hc
    exact List.eq_of_mem_replicate hc
  have hname : IsName (longName ++ ".py") :=
    Files.isName_append_py fun h => absurd (hchars _ h) (by decide)
  have hsize : (longName ++ ".py").utf8ByteSize = 303 := by decide +kernel
  have hjoin : Path.join "o" (longName ++ ".py") = "o/" ++ (longName ++ ".py") := by
    rw [Files.join_of_isName hname, if_neg (by decide), if_neg (by decide)]
    rfl
  refine Files.entryAt_join_eq_nameTooLong hes hname (by rw [hsize]; decide)
    (hname.pathFault?_join ?_ ?_)
  · rw [hjoin]
    intro h
    rw [String.toList_append, String.toList_append, List.mem_append, List.mem_append] at h
    rcases h with h | h | h
    · exact absurd h (by decide)
    · exact absurd (hchars _ h) (by decide)
    · exact absurd h (by decide)
  · rw [hjoin, String.utf8ByteSize_append, hsize]
    decide

/-- A module that cannot be looked up makes a check fail. -/
theorem check_eq_error {f : FileFault} (hms : modules c files = .ok (m :: ms))
    (hread : files.readText (filePath directory m) = .error f) (hf : f ≠ .missing) :
    check c directory files = .error (.file f) := by
  have hdrift : drift? m (files.readText (filePath directory m)) = .error (.file f) := by
    rw [hread]
    cases f <;> first | rfl | exact absurd rfl hf
  rw [check_eq, hms, Except.bind, List.mapM_cons, hdrift]
  rfl

/-- None of the modules is there, and the first one cannot be looked up. -/
theorem check_bare : ∃ ms, modules longConfig bare = .ok ms ∧
    (∀ m ∈ ms, bare.isPresent (filePath "o" m) = false) ∧
      check longConfig "o" bare = .error (.file .nameTooLong) := by
  obtain ⟨ms, hms⟩ := exists_ok_of_isSome modules_longConfig
  obtain ⟨-, hnames⟩ := names_of_modules hms
  have hlong : bare.isPresent (Path.join "o" (longName ++ ".py")) = false := by
    rw [Files.isPresent, entryAt_longName]
    rfl
  refine ⟨ms, hms, fun m hm => ?_, ?_⟩
  · have hname : m.name ∈ [longName, "outputs", "types"] := hnames ▸ List.mem_map_of_mem hm
    rw [filePath, GeneratedModule.fileName]
    simp only [List.mem_cons, List.not_mem_nil, or_false] at hname
    rcases hname with hname | hname | hname
    · rw [hname]
      exact hlong
    · rw [hname]
      decide +kernel
    · rw [hname]
      decide +kernel
  · obtain ⟨m, rest, rfl, hname, -⟩ := List.map_eq_cons_iff.mp hnames
    refine check_eq_error hms ?_ (by decide)
    rw [Files.readText, filePath, GeneratedModule.fileName, hname]
    exact bind_eq_error_iff.mpr (.inl entryAt_longName)

end Package

end RpcBindings
