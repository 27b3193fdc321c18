import RpcBindings.Config.Load
import RpcBindings.Digest
import RpcBindings.Error
import RpcBindings.Path
import RpcBindings.Source.File

/-!
# Checkouts

The Java files of a checkout, read in an order that does not depend on how directories are listed.

## Main definitions

* `Checkout` — the files with command classes and those with records.
* `Checkout.javaFiles` — the Java files among those below a directory, in order.
* `Checkout.read` — the files of a checkout.
* `Checkout.stream`, `Checkout.header` — the provenance of the generated modules.
-/

namespace RpcBindings

/-- The Java files of a checkout. -/
structure Checkout where
  /-- The files with command classes. -/
  commands : List Source.File
  /-- The files with records. -/
  json : List Source.File

namespace Checkout

/-- The ending of the names of Java files. -/
def ending : List Char := ".java".toList

/-- Whether a name is that of a Java file.  A name that is nothing but the ending is not. -/
def isJavaName (name : List Char) : Bool :=
  ending.isSuffixOf name && name != ending

/-- Whether the names lead to a Java file. -/
def isJavaFile (names : List String) : Bool :=
  names.getLast?.any fun n => isJavaName n.toList

/-- Whether some names come before others or are the same: the first names that differ decide. -/
def comesFirst : List String → List String → Bool
  | [], _ => true
  | _ :: _, [] => false
  | m :: ms, n :: ns => if m = n then comesFirst ms ns else decide (m < n)

/-- The Java files among those below a directory, in ascending order of their names. -/
def javaFiles (files : List (List String × ByteArray)) : List (List String × ByteArray) :=
  (files.filter fun f => isJavaFile f.1).mergeSort fun f g => comesFirst f.1 g.1

/-- A Java file below the directory `path`.  It is known by its path within the checkout `root`. -/
def readFile (root path : String) (file : List String × ByteArray) : Except Error Source.File :=
  match Entry.decode file.2 with
  | .error f => .error (.file f)
  | .ok text =>
    let name := Path.relativeTo root (Path.components path ++ file.1.map Component.name)
    match Source.File.ofText? name text with
    | some f => .ok f
    | none => .error .malformedSource

/-- The Java files below the directory `path`. -/
def readDirectory (root path : String) : Listing → Except Error (List Source.File)
  | none => .error (.config (.missingDirectory path))
  | some files => (javaFiles files).mapM (readFile root path)

/-- The files of a checkout, given what is below the directory of the command classes and below that
of the records. -/
def read (c : Config) (commandsBelow jsonBelow : Listing) : Except Error Checkout := do
  let commands ← readDirectory c.checkout c.commandsPath commandsBelow
  let json ← readDirectory c.checkout c.jsonPath jsonBelow
  return { commands, json }

/-! ### Provenance -/

/-- The bytes of a file: its path and its text, each with a zero byte after it. -/
def fileBytes (f : Source.File) : List UInt8 :=
  f.path.toUTF8.toList ++ 0 :: f.text.toUTF8.toList ++ [0]

/-- The bytes of all files, the command classes first. -/
def stream (k : Checkout) : List UInt8 :=
  (k.commands ++ k.json).flatMap fileBytes

/-- The version of the generator. -/
def version : String :=
  "0.1.0"

/-- The note on the origin of the generated modules, if the configuration asks for it. -/
def header (c : Config) (k : Checkout) : String :=
  if c.output.provenance then
    "# Generated by signal-cli-bindgen " ++ version ++ " from signal-cli sources; do not edit.\n" ++
      "# sha256:" ++ Digest.sha256 k.stream
  else ""

end Checkout

end RpcBindings
