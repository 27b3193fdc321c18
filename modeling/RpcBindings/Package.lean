import RpcBindings.FileSystem
import RpcBindings.Generation

/-!
# Packages

The generated modules as files of a directory.

## Main definitions

* `Package.generateFrom`, `Package.writeTo`, `Package.checkIn` — generating the modules, writing them
  into a directory, and looking for modules whose files are out of date, on any file system.
* `Package.modules`, `Package.write`, `Package.check` — the same on files as a value.
-/

namespace RpcBindings.Package

/-- The path of the file of a module in a directory. -/
def filePath (directory : String) (g : GeneratedModule) : String :=
  Path.join directory g.fileName

/-- The name of a module whose file is not there or holds another text. -/
def drift? (g : GeneratedModule) (found : Except FileFault String) :
    Except Error (Option String) :=
  match found with
  | .ok text => .ok (if text = g.text then none else some g.name)
  | .error .missing => .ok (some g.name)
  | .error f => .error (.file f)

/-! ### Runs on a file system -/

section

variable {m : Type → Type} [Monad m] (fs : FileSystem m)

/-- The modules that the files give. -/
def generateFrom (c : Config) : m (Except Error (List GeneratedModule)) := do
  let commands ← fs.listing c.commandsPath
  let json ← fs.listing c.jsonPath
  return (Checkout.read c commands json).bind (generate c)

/-- Writes modules one after another into a directory that is there, and returns their paths. -/
def writeEach (directory : String) : List GeneratedModule → m (Except Error (List String))
  | [] => return .ok []
  | g :: gs => do
    let path := filePath directory g
    match ← fs.writeText path g.text with
    | .error f => return .error (.file f)
    | .ok _ => return (← writeEach directory gs).map (path :: ·)

/-- Writes the modules into a directory, which is made if it is not there.  Nothing is written
before all modules have been generated. -/
def writeTo (c : Config) (directory : String) : m (Except Error (List String)) := do
  match ← generateFrom fs c with
  | .error e => return .error e
  | .ok gs => match ← fs.makeDirectories directory with
    | .error f => return .error (.file f)
    | .ok _ => writeEach fs directory gs

/-- The names of the modules whose files in a directory are out of date. -/
def drifted (directory : String) : List GeneratedModule → m (Except Error (List String))
  | [] => return .ok []
  | g :: gs => do
    match drift? g (← fs.readText (filePath directory g)) with
    | .error e => return .error e
    | .ok name => return (← drifted directory gs).map (name.toList ++ ·)

/-- The names of the modules that are out of date in a directory. -/
def checkIn (c : Config) (directory : String) : m (Except Error (List String)) := do
  match ← generateFrom fs c with
  | .error e => return .error e
  | .ok gs => drifted fs directory gs

end

/-! ### Runs on files as a value -/

/-- The modules that the files give. -/
def modules (c : Config) (files : Files) : Except Error (List GeneratedModule) :=
  (files.run (generateFrom Files.system c)).1

/-- The paths of written files, or what went wrong, and the files afterwards. -/
abbrev Written := Except Error (List String) × Files

/-- Writes modules one after another into a directory that is there. -/
def writeAll (directory : String) (gs : List GeneratedModule) (files : Files) : Written :=
  files.run (writeEach Files.system directory gs)

/-- Writes the modules into a directory, which is made if it is not there. -/
def write (c : Config) (directory : String) (files : Files) : Written :=
  files.run (writeTo Files.system c directory)

/-- The names of the modules whose files in a directory are out of date. -/
def check (c : Config) (directory : String) (files : Files) : Except Error (List String) :=
  (files.run (checkIn Files.system c directory)).1

/-! ### Equations -/

variable (c : Config) (directory : String) (files : Files) (g : GeneratedModule)
  (gs : List GeneratedModule)

/-- Generating changes nothing. -/
theorem run_generateFrom :
    files.run (generateFrom Files.system c) = (modules c files, files) := by
  simp only [modules, generateFrom, Files.run_bind, Files.run_listing, Files.run_pure]

theorem modules_eq : modules c files =
    (Checkout.read c (files.listing c.commandsPath) (files.listing c.jsonPath)).bind
      (generate c) := by
  simp only [modules, generateFrom, Files.run_bind, Files.run_listing, Files.run_pure]

theorem writeAll_nil : writeAll directory [] files = (.ok [], files) := rfl

theorem writeAll_cons :
    writeAll directory (g :: gs) files = match files.writeText (filePath directory g) g.text with
      | .error f => (.error (.file f), files)
      | .ok after => match writeAll directory gs after with
        | (.ok paths, last) => (.ok (filePath directory g :: paths), last)
        | (.error e, last) => (.error e, last) := by
  rw [writeAll, writeEach, Files.run_bind]
  cases h : files.writeText (filePath directory g) g.text with
  | error f =>
    rw [Files.run_writeText_of_error _ _ h]
    rfl
  | ok after =>
    rw [Files.run_writeText_of_ok _ _ h]
    simp only [Files.run_bind, Files.run_pure, writeAll]
    rcases after.run (writeEach Files.system directory gs) with ⟨_ | _, last⟩
    · rfl
    · rfl

theorem write_eq :
    write c directory files = match modules c files with
      | .error e => (.error e, files)
      | .ok gs => match files.makeDirectories directory with
        | (.error f, after) => (.error (.file f), after)
        | (.ok _, after) => writeAll directory gs after := by
  rw [write, writeTo, Files.run_bind, run_generateFrom]
  cases modules c files with
  | error e => rfl
  | ok gs =>
    simp only [Files.run_bind, Files.run_makeDirectories]
    rcases files.makeDirectories directory with ⟨_ | _, after⟩
    · rfl
    · rfl

/-- Looking for modules that are out of date changes nothing; the first one that cannot be looked up
is the reason for a failure. -/
theorem run_drifted :
    files.run (drifted Files.system directory gs) =
      ((gs.mapM fun g => drift? g (files.readText (filePath directory g))).map fun names =>
        names.filterMap id, files) := by
  induction gs with
  | nil => rfl
  | cons g gs ih =>
    rw [drifted, Files.run_bind, Files.run_readText, List.mapM_cons]
    cases drift? g (files.readText (filePath directory g)) with
    | error e => rfl
    | ok name =>
      simp only [Files.run_bind, Files.run_pure, ih]
      cases gs.mapM fun g => drift? g (files.readText (filePath directory g)) with
      | error e => rfl
      | ok names => cases name <;> rfl

/-- A check changes nothing. -/
theorem run_checkIn :
    files.run (checkIn Files.system c directory) =
      ((modules c files).bind fun gs =>
        (gs.mapM fun g => drift? g (files.readText (filePath directory g))).map fun names =>
          names.filterMap id, files) := by
  rw [checkIn, Files.run_bind, run_generateFrom]
  cases modules c files with
  | error e => rfl
  | ok gs => exact run_drifted directory files gs

theorem check_eq :
    check c directory files = (modules c files).bind fun gs =>
      (gs.mapM fun g => drift? g (files.readText (filePath directory g))).map fun names =>
        names.filterMap id := by
  rw [check, run_checkIn]

end RpcBindings.Package
