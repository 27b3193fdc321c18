import RpcBindings.Files

/-!
# File systems

What a run does with files, as operations of some monad.  A run is written once, for every file
system; it is carried out on the files of the machine, and on files as a value.

## Main definitions

* `FileSystem` — the operations on files.
* `Files.system` — the operations on files as a value.
* `Files.run` — what operations give on files, and the files afterwards.
-/

namespace RpcBindings

/-- The operations on files that a run needs.  Those that can fail return their fault. -/
structure FileSystem (m : Type → Type) where
  /-- Whether something has the path. -/
  isPresent : String → m Bool
  /-- The text of the file that has the path. -/
  readText : String → m (Except FileFault String)
  /-- All files below a directory. -/
  listing : String → m Listing
  /-- Makes a directory and those in which it stands. -/
  makeDirectories : String → m (Except FileFault Unit)
  /-- Writes a text into the file that has the path. -/
  writeText : String → String → m (Except FileFault Unit)

namespace Files

/-- The operations on files as a value. -/
def system : FileSystem (StateM Files) where
  isPresent path := fun files => (files.isPresent path, files)
  readText path := fun files => (files.readText path, files)
  listing path := fun files => (files.listing path, files)
  makeDirectories path := fun files => files.makeDirectories path
  writeText path text := fun files => match files.writeText path text with
    | .ok after => (.ok (), after)
    | .error f => (.error f, files)

/-- What operations give on files, and the files afterwards. -/
def run {α : Type} (files : Files) (act : StateM Files α) : α × Files :=
  act files

section

variable {α β : Type} (files : Files) (path : String)

@[simp] theorem run_pure (a : α) : files.run (pure a) = (a, files) := rfl

@[simp] theorem run_bind (act : StateM Files α) (next : α → StateM Files β) :
    files.run (act >>= next) = (files.run act).2.run (next (files.run act).1) := rfl

@[simp] theorem run_isPresent :
    files.run (system.isPresent path) = (files.isPresent path, files) := rfl

@[simp] theorem run_readText :
    files.run (system.readText path) = (files.readText path, files) := rfl

@[simp] theorem run_listing :
    files.run (system.listing path) = (files.listing path, files) := rfl

@[simp] theorem run_makeDirectories :
    files.run (system.makeDirectories path) = files.makeDirectories path := rfl

theorem run_writeText_of_ok {after : Files} {text : String}
    (h : files.writeText path text = .ok after) :
    files.run (system.writeText path text) = (.ok (), after) := by
  simp only [run, system, h]

theorem run_writeText_of_error {f : FileFault} {text : String}
    (h : files.writeText path text = .error f) :
    files.run (system.writeText path text) = (.error f, files) := by
  simp only [run, system, h]

end

end Files

end RpcBindings
