import RpcBindings.CommandLine
import RpcBindings.Config.Schema
import RpcBindings.Package
import RpcBindings.Source.Outline

/-!
# Runs of the command line

## Main definitions

* `CommandLine.performOn` — what an action does on a file system.
* `CommandLine.perform` — what an action does to files as a value.
* `CommandLine.run` — what a call does to files as a value.
-/

namespace RpcBindings.CommandLine

/-- The outcome of an action on a file system. -/
def performOn {m : Type → Type} [Monad m] (fs : FileSystem m) (config : Option String) :
    Action → m Outcome
  | .schema => return { output := Config.schema.pretty ++ "\n" }
  | .outline path => return .print (outlineOf path (← fs.readText path))
  | .generate kind => do
    match ← Config.loadFrom fs config with
    | .error e => return .ofError e
    | .ok c => return .print ((← Package.generateFrom fs c).map (textOf kind))
  | .write directory => do
    match ← Config.loadFrom fs config with
    | .error e => return .ofError e
    | .ok c => return .ofWritten (← Package.writeTo fs c directory)
  | .check directory => do
    match ← Config.loadFrom fs config with
    | .error e => return .ofError e
    | .ok c => return .ofCheck directory (← Package.checkIn fs c directory)

/-- The outcome of an action, and the files afterwards. -/
def perform (config : Option String) (files : Files) (action : Action) : Outcome × Files :=
  files.run (performOn Files.system config action)

/-- A comparison leaves the files alone. -/
theorem perform_check_snd (config : Option String) (files : Files) (directory : String) :
    (perform config files (.check directory)).2 = files := by
  rw [perform, performOn, Files.run_bind, Config.run_loadFrom]
  cases Config.load files config with
  | error e => rfl
  | ok c => simp only [Files.run_bind, Package.run_checkIn, Files.run_pure]

/-- The outcome of a call, and the files afterwards.  The text of the help is left to the caller. -/
def run (environment : Option String) (arguments : List String) (files : Files) :
    Outcome × Files :=
  match parse environment arguments with
  | .misuse => (.ofMisuse, files)
  | .version => (.ofVersion, files)
  | .help => ({}, files)
  | .run action config => perform config files action

end RpcBindings.CommandLine
