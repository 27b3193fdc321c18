import RpcBindings.Error
import RpcBindings.Path

/-!
# Files

The files of a machine, as a value: a tree of directories and files, and the working directory in
it, from which paths lead that do not start at the root.  Operations that change files return the
files afterwards; they fail in the ways in which an operating system lets them fail.  Each file has
one name, and may be read and written.

## Main definitions

* `Entry` — a file or a directory.
* `Files` — a tree and the working directory in it.
* `Files.locate` — what a path leads to.
* `Files.readText`, `Files.isDirectory`, `Files.isPresent` — looking at files.
* `Files.writeText`, `Files.makeDirectories` — changing files.
* `Files.listing` — all files below a directory.
-/

namespace RpcBindings

open Text

/-- A file with its bytes, or a directory with its entries in the order of listing. -/
inductive Entry
  | file (bytes : ByteArray)
  | directory (entries : List (String × Entry))

/-- The files below a directory with the names that lead to them, if there is such a directory. -/
abbrev Listing := Option (List (List String × ByteArray))

namespace Entry

/-- A directory without entries. -/
def empty : Entry :=
  directory []

/-- Gives a name of a directory another entry; a new name comes last. -/
def setEntry (name : String) (e : Entry) : List (String × Entry) → List (String × Entry)
  | [] => [(name, e)]
  | (n, f) :: rest => if n = name then (n, e) :: rest else (n, f) :: setEntry name e rest

/-- The entry that names lead to, one directory after another. -/
def at? : Entry → List String → Option Entry
  | e, [] => some e
  | directory es, n :: ns => (es.lookup n).bind fun e => at? e ns
  | file _, _ :: _ => none

/-- Puts an entry where names lead to; directories on the way are made. -/
def put : Entry → List String → Entry → Entry
  | _, [], e => e
  | directory es, n :: ns, e => directory (setEntry n (put ((es.lookup n).getD empty) ns e) es)
  | file _, n :: ns, e => directory [(n, put empty ns e)]

/-- Takes away the entry where names lead to. -/
def remove : Entry → List String → Entry
  | directory es, [n] => directory (es.filter fun p => p.1 != n)
  | directory es, n :: ns => match es.lookup n with
    | some e => directory (setEntry n (remove e ns) es)
    | none => directory es
  | e, _ => e

/-- The text of some bytes. -/
def decode (bytes : ByteArray) : Except FileFault String :=
  match String.fromUTF8? bytes with
  | some s => .ok s
  | none => .error .notUtf8

mutual

/-- All files below an entry, with the names that lead to them. -/
def contents : Entry → List (List String × ByteArray)
  | file bytes => [([], bytes)]
  | directory es => contentsOfAll es

/-- All files below the entries of a directory. -/
def contentsOfAll : List (String × Entry) → List (List String × ByteArray)
  | [] => []
  | (n, e) :: rest => (contents e).map (fun p => (n :: p.1, p.2)) ++ contentsOfAll rest

end

/-! ### Following paths -/

/-- The most bytes that the name of an entry may have. -/
def nameLimit : Nat :=
  255

/-- The entry of a name in a directory. -/
def find? (n : String) (es : List (String × Entry)) : Except FileFault (Option Entry) :=
  if nameLimit < n.utf8ByteSize then .error .nameTooLong else .ok (es.lookup n)

/-- A part of a path as it is followed. -/
inductive Step
  | stay
  | up
  | into (name : String)
  deriving DecidableEq, Repr

/-- The step for a text between slashes. -/
def stepOf (segment : List Char) : Step :=
  if Path.isIdle segment then .stay
  else if segment == ['.', '.'] then .up
  else .into (String.ofList segment)

/-- The entries of the directory that names lead to. -/
def entriesAt (top : Entry) (here : List String) : Except FileFault (List (String × Entry)) :=
  match top.at? here with
  | some (directory es) => .ok es
  | some (file _) => .error .notDirectory
  | none => .error .missing

/-- The names that a step leads to, from the directory that `here` leads to.  Above the root there
is nothing. -/
def next (top : Entry) (here : List String) (s : Step) : Except FileFault (List String) := do
  let es ← top.entriesAt here
  match s with
  | .stay => return here
  | .up => return here.dropLast
  | .into n => match ← find? n es with
    | some _ => return here ++ [n]
    | none => throw .missing

/-- The names that steps lead to, from the directory that `here` leads to. -/
def follow (top : Entry) : List String → List Step → Except FileFault (List String)
  | here, [] => .ok here
  | here, s :: ss => do follow top (← top.next here s) ss

end Entry

/-- A tree of files, and the working directory in it. -/
structure Files where
  /-- What lies below the root. -/
  root : Entry
  /-- The names that lead from the root to the working directory. -/
  place : List String

namespace Files

open Entry (Step file directory)

/-- The files of which nothing is known but the entries of the working directory. -/
def inside (e : Entry) : Files where
  root := directory [("work", e)]
  place := ["work"]

/-- A working directory without entries. -/
def empty : Files :=
  inside .empty

/-- The entry that names lead to from the working directory. -/
def at? (files : Files) (names : List String) : Option Entry :=
  files.root.at? (files.place ++ names)

/-- Puts an entry where names lead to from the working directory. -/
def put (files : Files) (names : List String) (e : Entry) : Files :=
  { files with root := files.root.put (files.place ++ names) e }

/-- Takes away the entry where names lead to from the working directory. -/
def remove (files : Files) (names : List String) : Files :=
  { files with root := files.root.remove (files.place ++ names) }

/-! ### Places of paths -/

/-- One byte more than a path may have. -/
def pathLimit : Nat :=
  4096

/-- What keeps a path from being followed at all. -/
def pathFault? (path : String) : Option FileFault :=
  if path.toList.contains '\x00' then some .zeroByte
  else if path.isEmpty then some .missing
  else if pathLimit ≤ path.utf8ByteSize then some .nameTooLong
  else none

/-- The steps of a path. -/
def steps (path : String) : Except FileFault (List Step) :=
  match pathFault? path with
  | some f => .error f
  | none => .ok ((Path.segments path).map Entry.stepOf)

/-- The names that lead to where a path starts: the root or the working directory. -/
def start (files : Files) (path : String) : List String :=
  if Path.isAbsolute path then [] else files.place

/-- The names that a path leads to. -/
def locate (files : Files) (path : String) : Except FileFault (List String) := do
  files.root.follow (files.start path) (← steps path)

/-- The entry that a path leads to. -/
def entryAt (files : Files) (path : String) : Except FileFault Entry := do
  match files.root.at? (← files.locate path) with
  | some e => return e
  | none => throw .missing

/-! ### Looking at files -/

/-- Whether something has the path. -/
def isPresent (files : Files) (path : String) : Bool :=
  (files.entryAt path).toOption.isSome

/-- Whether a directory has the path. -/
def isDirectory (files : Files) (path : String) : Bool :=
  match files.entryAt path with
  | .ok (directory _) => true
  | _ => false

/-- The text of the file that has the path. -/
def readText (files : Files) (path : String) : Except FileFault String := do
  match ← files.entryAt path with
  | file bytes => Entry.decode bytes
  | directory _ => throw .isDirectory

/-- All files below a directory, with the names that lead to them, in the order of listing; nothing
if no directory has the path. -/
def listing (files : Files) (path : String) : Listing :=
  match files.entryAt path with
  | .ok (directory es) => some (Entry.contentsOfAll es)
  | _ => none

/-! ### Changing files -/

/-- The last name of a path, and the names that lead to the directory in which it stands.  A path
that ends in a step of another kind has no last name. -/
def target (files : Files) (path : String) : Except FileFault (Option (List String × String)) := do
  let ss ← steps path
  let here ← files.root.follow (files.start path) ss.dropLast
  match ss.getLast? with
  | some (.into n) => return some (here, n)
  | _ => return none

/-- Writes a file, in place of the one that has the path. -/
def writeText (files : Files) (path text : String) : Except FileFault Files := do
  match ← files.target path with
  | none => throw .isDirectory
  | some (here, n) => match ← Entry.find? n (← files.root.entriesAt here) with
    | some (directory _) => throw .isDirectory
    | _ => return { files with root := files.root.put (here ++ [n]) (file text.toUTF8) }

/-- The path without slashes at its end, apart from its first character. -/
def dropSlashes (path : String) : String :=
  match path.toList with
  | [] => ""
  | c :: cs => String.ofList (c :: (cs.reverse.dropWhile (· == '/')).reverse)

/-- Makes a directory in one that is there. -/
def makeDirectory (files : Files) (path : String) : Except FileFault Files := do
  let _ ← steps path
  match ← files.target (dropSlashes path) with
  | none => throw .taken
  | some (here, n) => match ← Entry.find? n (← files.root.entriesAt here) with
    | some _ => throw .taken
    | none => return { files with root := files.root.put (here ++ [n]) .empty }

/-- The files after an attempt to change them, and the fault if it failed. -/
abbrev Attempt := Except FileFault Unit × Files

/-- What comes of making a directory that may be there already. -/
def settle (files : Files) (path : String) : Except FileFault Files → Attempt
  | .ok after => (.ok (), after)
  | .error f => if files.isDirectory path then (.ok (), files) else (.error f, files)

/-- Makes a directory and those in which it stands.  The fuel bounds the number of directories. -/
def makeDirectoriesFrom : Nat → String → Files → Attempt
  | 0, _, files => (.error .missing, files)
  | fuel + 1, path, files =>
    if (Path.components path).isEmpty then (.ok (), files)
    else match files.makeDirectory path with
      | .error .missing => match Path.parent? path with
        | none => (.error .missing, files)
        | some parent => match makeDirectoriesFrom fuel parent files with
          | (.error f, after) => (.error f, after)
          | (.ok _, after) => after.settle path (after.makeDirectory path)
      | outcome => files.settle path outcome

/-- Makes a directory and those in which it stands. -/
def makeDirectories (path : String) (files : Files) : Attempt :=
  makeDirectoriesFrom (path.length + 1) path files

end Files

end RpcBindings
