import RpcBindings.Generation
import RpcBindings.Source.Outline

/-!
# The command line

## Main definitions

* `CommandLine.Request` — what the arguments ask for.
* `CommandLine.parse` — the request of the arguments.
* `CommandLine.Outcome` — what a run prints, and its exit code.
-/

namespace RpcBindings.CommandLine

/-- What is asked for. -/
inductive Action
  /-- Prints a module. -/
  | generate (kind : ModuleKind)
  /-- Writes all modules into a directory. -/
  | write (directory : String)
  /-- Compares the modules in a directory with fresh ones. -/
  | check (directory : String)
  /-- Prints the syntax tree of a Java file. -/
  | outline (path : String)
  /-- Prints the schema of the configuration. -/
  | schema
  deriving DecidableEq, Repr

/-- What the arguments ask for. -/
inductive Request
  /-- An action, and the path of the configuration file. -/
  | run (action : Action) (config : Option String)
  | version
  | help
  /-- The arguments make no sense. -/
  | misuse
  deriving DecidableEq, Repr

/-! ### Options -/

/-- The options and other arguments of one level of the command line. -/
structure Options where
  config : Option String := none
  verbose : Bool := false
  directory : Option String := none
  /-- The arguments that are no options. -/
  others : List String := []
  deriving DecidableEq, Repr

/-- What comes of reading options. -/
inductive Reading
  /-- The options in front of an argument that is none, and the arguments from that one on. -/
  | options (o : Options) (rest : List String)
  | version
  | help
  | misuse
  deriving DecidableEq, Repr

/-- The options that take a value. -/
inductive Valued
  | config
  | directory
  deriving DecidableEq, Repr

/-- The option with a value of the given name, if the level knows it. -/
def valued? (inAction : Bool) (name : String) : Option Valued :=
  if name = "config" then some .config
  else if name = "out-dir" ∧ inAction then some .directory
  else none

/-- Sets an option, which may be set once and not to nothing. -/
def Options.set? (o : Options) (v : Valued) (value : String) : Option Options :=
  if value.isEmpty then none
  else match v with
    | .config => if o.config.isSome then none else some { o with config := some value }
    | .directory => if o.directory.isSome then none else some { o with directory := some value }

/-- What an argument is by its form. -/
inductive Form
  /-- An option with a long name, and its value if it is part of the argument. -/
  | long (name : String) (value : Option String)
  /-- Options of one letter each. -/
  | short (letters : List Char)
  /-- The mark after which nothing is an option. -/
  | finish
  | plain
  deriving DecidableEq, Repr

/-- The form of an argument. -/
def formOf (argument : String) : Form :=
  match argument.toList with
  | ['-', '-'] => .finish
  | '-' :: '-' :: cs =>
    let (name, rest) := cs.span fun c => c != '='
    match rest with
    | [] => .long (String.ofList name) none
    | _ :: value => .long (String.ofList name) (some (String.ofList value))
  | '-' :: c :: cs => .short (c :: cs)
  | _ => .plain

/-- What comes of options of one letter each. -/
def readLetters (inAction : Bool) : Options → List Char → Reading
  | o, [] => .options o []
  | o, 'v' :: cs => if o.verbose then .misuse else readLetters inAction { o with verbose := true } cs
  | _, 'h' :: _ => .help
  | _, 'V' :: _ => if inAction then .misuse else .version
  | _, _ :: _ => .misuse

/-- Reads the options in front of the first argument that is none. -/
def readOptions (inAction : Bool) : Options → List String → Reading
  | o, [] => .options o []
  | o, a :: rest => match formOf a with
    | .plain => .options o (a :: rest)
    | .finish => .options o (a :: rest)
    | .short letters => match readLetters inAction o letters with
      | .options o _ => readOptions inAction o rest
      | other => other
    | .long "verbose" none =>
      if o.verbose then .misuse else readOptions inAction { o with verbose := true } rest
    | .long "help" none => .help
    | .long "version" none => if inAction then .misuse else .version
    | .long name value => match valued? inAction name with
      | none => .misuse
      | some v => match value with
        | some s => match o.set? v s with
          | some o => readOptions inAction o rest
          | none => .misuse
        | none => match rest with
          | [] => .misuse
          | s :: rest =>
            if formOf s = .plain then match o.set? v s with
              | some o => readOptions inAction o rest
              | none => .misuse
            else .misuse

/-- Reads all arguments of an action; options may stand between and behind the other arguments.
The fuel bounds the number of arguments. -/
def readAll : Nat → Options → List String → Reading
  | 0, _, _ => .misuse
  | fuel + 1, o, arguments => match readOptions true o arguments with
    | .options o [] => .options o []
    | .options o (a :: rest) =>
      if formOf a = .finish then .options { o with others := o.others ++ rest } []
      else readAll fuel { o with others := o.others ++ [a] } rest
    | other => other

/-! ### Actions -/

/-- The kind of module of that name. -/
def kind? : String → Option ModuleKind
  | "commands" => some .commands
  | "outputs" => some .outputs
  | "types" => some .types
  | _ => none

/-- The names of the actions. -/
def actionNames : List String :=
  ["generate", "write", "check", "sexp", "schema"]

/-- The action of a name with its options and arguments. -/
def action? (name : String) (o : Options) : Option Action :=
  match name, o.directory, o.others with
  | "generate", none, [a] => (kind? a).map .generate
  | "write", some d, [] => some (.write d)
  | "check", some d, [] => some (.check d)
  | "sexp", none, [path] => if path.isEmpty then none else some (.outline path)
  | "schema", none, [] => some .schema
  | _, _, _ => none

/-- The request for an action, given the options in front of it and the arguments behind it. -/
def parseAction (environment : Option String) (outer : Options) (name : String)
    (arguments : List String) : Request :=
  if !actionNames.contains name then .misuse
  else match readAll (arguments.length + 1) {} arguments with
    | .help => .help
    | .version | .misuse => .misuse
    | .options o _ => match action? name o with
      | none => .misuse
      | some action =>
        if environment = some "" then .misuse
        else .run action ((o.config.orElse fun _ => outer.config).orElse fun _ => environment)

/-- The request for help on an action. -/
def parseHelp : List String → Request
  | [] => .help
  | [name] => if actionNames.contains name || name == "help" then .help else .misuse
  | _ => .misuse

/-- The request of the arguments, given the configuration file that the environment names.  An
option behind the action comes before one in front of it, and that before the environment. -/
def parse (environment : Option String) (arguments : List String) : Request :=
  match readOptions false {} arguments with
  | .help => .help
  | .version => .version
  | .misuse => .misuse
  | .options _ [] => .misuse
  | .options o (name :: rest) =>
    if formOf name = .finish then .misuse
    else if name = "help" then parseHelp rest
    else parseAction environment o name rest

/-! ### Outcomes -/

/-- What a run prints, and its exit code. -/
structure Outcome where
  code : Nat := 0
  output : String := ""
  errors : String := ""
  deriving DecidableEq, Repr

namespace Outcome

/-- The outcome of a run that stops with an error. -/
def ofError (e : Error) : Outcome :=
  { code := 1, errors := "Error: " ++ e.display ++ "\n" }

/-- The outcome of arguments that make no sense. -/
def ofMisuse : Outcome :=
  { code := 2 }

/-- The outcome that names the version. -/
def ofVersion : Outcome :=
  { output := "signal-cli-bindgen " ++ Checkout.version ++ "\n" }

/-- The outcome that prints a text. -/
def print : Except Error String → Outcome
  | .ok text => { output := text }
  | .error e => ofError e

/-- The outcome after files have been written. -/
def ofWritten : Except Error (List String) → Outcome
  | .ok paths => { errors := String.join (paths.map fun p => "Written to: " ++ p ++ "\n") }
  | .error e => ofError e

/-- The outcome of a comparison, given the names of the modules that are out of date. -/
def ofCheck (directory : String) : Except Error (List String) → Outcome
  | .ok [] => { errors := "✓ Generated modules in " ++ directory ++ " are up to date\n" }
  | .ok names =>
    { code := 1
      errors := String.join (names.map fun n => "✗ " ++ n ++ ".py is out of date\n") }
  | .error e => ofError e

end Outcome

/-- The text of the module of a kind. -/
def textOf (kind : ModuleKind) (ms : List GeneratedModule) : String :=
  ((ms.find? fun m => m.kind == kind).map GeneratedModule.text).getD ""

/-- The outline of a Java file. -/
def outlineOf (path : String) (text : Except FileFault String) : Except Error String :=
  match text with
  | .error f => .error (.file f)
  | .ok s => match Source.File.ofText? path s with
    | some file => .ok (file.root.outline ++ "\n")
    | none => .error .malformedSource

end RpcBindings.CommandLine
