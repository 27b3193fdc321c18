import RpcBindings.CommandLine.Run

/-!
# The program

The command line on the files of the machine: the operations on files, and the outcome of a run
printed.
-/

namespace RpcBindings.Machine

/-- The fault that an error of the operating system is; other errors end the program. -/
def faultOf : IO.Error → IO FileFault
  | .noFileOrDirectory .. => return .missing
  | .alreadyExists .. => return .taken
  | .inappropriateType _ code _ => return if code = 20 then .notDirectory else .isDirectory
  | .invalidArgument _ code _ => return if code = 36 then .nameTooLong else .zeroByte
  | .permissionDenied .. => return .denied
  | e => throw e

/-- The outcome of an operation on files, or its fault. -/
def attempt {α : Type} (act : IO α) : IO (Except FileFault α) := do
  match ← act.toBaseIO with
  | .ok a => return .ok a
  | .error e => return .error (← faultOf e)

/-- The text of a file. -/
def readText (path : String) : IO (Except FileFault String) := do
  return (← attempt (IO.FS.readBinFile path)).bind Entry.decode

/-- The Java files below a directory, with the names that lead to them. -/
partial def filesBelow (path : String) (names : List String) :
    IO (List (List String × ByteArray)) := do
  let mut files := []
  for entry in ← (← IO.FS.realPath path).readDir do
    let inner := Path.join path entry.fileName
    let there := names ++ [entry.fileName]
    if ← entry.path.isDir then files := files ++ (← filesBelow inner there)
    else if Checkout.isJavaFile there then
      files := files ++ [(there, ← IO.FS.readBinFile inner)]
  return files

/-- The Java files below a directory, if there is such a directory. -/
def listing (path : String) : IO Listing := do
  match ← attempt (IO.FS.realPath path) with
  | .ok place => if ← place.isDir then return some (← filesBelow path []) else return none
  | .error _ => return none

/-- The operations on the files of the machine. -/
def system : FileSystem IO where
  isPresent path := return (← attempt (IO.FS.realPath path)).toOption.isSome
  readText
  listing
  makeDirectories path := attempt (IO.FS.createDirAll path)
  writeText path text := attempt (IO.FS.writeFile path text)

/-- How the program is called. -/
def usage : String :=
  "Usage: signal-cli-bindgen [--config <CONFIG>] [--verbose] <COMMAND>\n\n" ++
    "Commands:\n" ++
    "  generate <commands|outputs|types>  Print one generated module to stdout\n" ++
    "  write --out-dir <OUT_DIR>          Write every generated module into a directory\n" ++
    "  check --out-dir <OUT_DIR>          Compare the modules in a directory with fresh ones\n" ++
    "  sexp <FILE>                        Print the syntax tree of a Java file\n" ++
    "  schema                             Print the JSON schema of the configuration file\n"

end RpcBindings.Machine

open RpcBindings in
/-- Runs the command line; the exit code says whether the run succeeded. -/
def main (arguments : List String) : IO UInt32 := do
  let environment ← IO.getEnv "SIGNAL_CLI_BINDGEN_CONFIG"
  match CommandLine.parse environment arguments with
  | .misuse =>
    IO.eprint Machine.usage
    return 2
  | .help =>
    IO.print Machine.usage
    return 0
  | .version =>
    IO.print CommandLine.Outcome.ofVersion.output
    return 0
  | .run action config =>
    let outcome ← CommandLine.performOn Machine.system config action
    IO.print outcome.output
    IO.eprint outcome.errors
    return UInt32.ofNat outcome.code
