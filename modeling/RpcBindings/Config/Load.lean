import RpcBindings.Config.OfYaml
import RpcBindings.FileSystem
import RpcBindings.Path

/-!
# Loaded configurations

## Main definitions

* `Config.ofFile` — the configuration in a file.
* `Config.loadFrom`, `Config.load` — the configuration of a run, on any file system and on files as a
  value.
* `Config.commandsPath`, `Config.jsonPath` — the source directories.
-/

namespace RpcBindings.Config

/-- The configuration in a file with the given path and text.  Its checkout is found from the
directory of the file. -/
def ofFile (path : String) (text : Except FileFault String) : Except Error Config :=
  match text with
  | .error f => .error (.config (.unreadable path f))
  | .ok s => (ofText s).map fun c =>
    match Path.parent? path with
    | some directory => { c with checkout := Path.join directory c.checkout }
    | none => c

/-- The configuration file of a run that names none. -/
def defaultPath : String :=
  "bindgen.yaml"

section

variable {m : Type → Type} [Monad m] (fs : FileSystem m)

/-- The path of the configuration file, if there is one: the given one, or the usual one if it is
there. -/
def pathIn? : Option String → m (Option String)
  | some p => return some p
  | none => return if ← fs.isPresent defaultPath then some defaultPath else none

/-- The configuration of a run: that of its file, or the defaults without one. -/
def loadFrom (path : Option String) : m (Except Error Config) := do
  match ← pathIn? fs path with
  | some p => return ofFile p (← fs.readText p)
  | none => return .ok {}

end

/-- The configuration of a run on the given files. -/
def load (files : Files) (path : Option String) : Except Error Config :=
  (files.run (loadFrom Files.system path)).1

/-- Loading a configuration changes nothing. -/
theorem run_loadFrom (files : Files) (path : Option String) :
    files.run (loadFrom Files.system path) = (load files path, files) := by
  refine Prod.ext rfl ?_
  cases path with
  | some p => rfl
  | none =>
    rw [loadFrom, Files.run_bind, pathIn?, Files.run_bind, Files.run_isPresent, Files.run_pure]
    split
    · rfl
    · rfl

/-- The directory of the command classes. -/
def commandsPath (c : Config) : String :=
  Path.join c.checkout c.sources.commandsDir

/-- The directory of the records. -/
def jsonPath (c : Config) : String :=
  Path.join c.checkout c.sources.jsonDir

end RpcBindings.Config
