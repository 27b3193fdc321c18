import RpcBindings.Text.Blank

/-!
# Paths

Paths are texts whose parts are separated by slashes.  A path keeps its spelling when another is
joined to it, because messages show paths as they were put together.

## Main definitions

* `Path.join`, `Path.parent?`, `Path.isAbsolute` — paths as they are written.
* `Component`, `Path.components` — the parts that matter.
* `Path.relativeTo` — the part of a path below another.
-/

namespace RpcBindings

open Text

/-- A part of a path. -/
inductive Component
  | root
  | here
  | up
  | name (s : String)
  deriving DecidableEq, Repr

/-- The text of a part of a path. -/
def Component.text : Component → String
  | root => "/"
  | here => "."
  | up => ".."
  | name s => s

namespace Path

/-- Whether a path starts at the root. -/
def isAbsolute (path : String) : Bool :=
  path.toList.head? == some '/'

/-- The path of `path` as seen from `base`. -/
def join (base path : String) : String :=
  if isAbsolute path || base.isEmpty then path
  else if base.toList.getLast? == some '/' then base ++ path
  else base ++ "/" ++ path

/-- The texts between the slashes of a path. -/
def segments (path : String) : List (List Char) :=
  splitOn '/' path.toList

/-- Whether a text between slashes leads nowhere. -/
def isIdle (segment : List Char) : Bool :=
  segment.isEmpty || segment == ['.']

/-- The part that starts a path in a way of its own, and the texts after it. -/
def lead : List (List Char) → Option Component × List (List Char)
  | [] :: s :: ss => (some .root, s :: ss)
  | ['.'] :: ss => (some .here, ss)
  | ss => (none, ss)

/-- The part that a text between slashes stands for. -/
def component? (segment : List Char) : Option Component :=
  if isIdle segment then none
  else if segment == ['.', '.'] then some .up
  else some (.name (String.ofList segment))

/-- The parts of a path.  Repeated slashes, a slash at the end, and a dot that does not start the
path do not count. -/
def components (path : String) : List Component :=
  let (start, rest) := lead (segments path)
  start.toList ++ rest.filterMap component?

/-- The texts without those at the end that lead nowhere. -/
def dropIdleEnd (ss : List (List Char)) : List (List Char) :=
  (ss.reverse.dropWhile isIdle).reverse

/-- A path from its start and the texts after it. -/
def ofSegments (start : Option Component) (ss : List (List Char)) : String :=
  let rest := String.ofList (Text.join ['/'] ss)
  match start with
  | none => rest
  | some .root => "/" ++ rest
  | some c => if ss.isEmpty then c.text else c.text ++ "/" ++ rest

/-- The path without its last part. -/
def parent? (path : String) : Option String :=
  let (start, rest) := lead (segments path)
  match dropIdleEnd rest with
  | [] => if start = some .here then some "" else none
  | ss => some (ofSegments start (dropIdleEnd ss.dropLast))

/-- The parts that follow the parts `base`, if the path starts with these. -/
def after? : List Component → List Component → Option (List Component)
  | [], cs => some cs
  | b :: bs, c :: cs => if b = c then after? bs cs else none
  | _ :: _, [] => none

/-- The parts of a path below `base`, or all of them if the path does not lie below `base`, with
slashes between them. -/
def relativeTo (base : String) (path : List Component) : String :=
  "/".intercalate (((after? (components base) path).getD path).map Component.text)

end Path

end RpcBindings
