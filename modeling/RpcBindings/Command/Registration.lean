import RpcBindings.Command
import RpcBindings.Config
import RpcBindings.Error
import RpcBindings.Source.Call
import RpcBindings.Source.Constant
import RpcBindings.Text.Basic
import RpcBindings.Text.Literal
import RpcBindings.Text.Naming

/-!
# Registration of arguments

A command class registers its arguments on a parser object, statement by statement: it sets the
help text, adds exclusive groups, and adds arguments to the parser or to a group, each of them
configured by a chain of calls.  This module reads such statements into a `Command`.  A statement
or a call that no rule covers is an error.

## Main definitions

* `Argument.configure` — the effect of one chained call on an argument.
* `Registration.argumentOf` — the argument that a call with its chain adds.
* `Draft`, `Draft.step` — what has been registered so far, and the effect of one statement.
* `Command.ofFile?` — the command that a file declares, if it declares one.
-/

namespace RpcBindings

open Text Source

/-- The method of that name that a class declares itself. -/
def methodOf? (declaration : Node) (name : String) : Option Node :=
  (declaration.child? .body).bind fun body =>
    body.members.find? fun m => m.is .methodDeclaration && m.name? == some name

/-! ### Arguments -/

namespace Argument

/-- The value of the only argument of a call, which must be a constant string. -/
def soleConstant (path : String) (c : Call) : Except Error (List Char) :=
  match c.arguments with
  | [a] => match a.constant? with
    | some value => .ok value
    | none => .error (.atNode path a (.constantNeeded c.name))
  | _ => .error (.atNode path c.node (.oneArgumentNeeded c.name))

/-- The values of the arguments of a call as Python literals; each must be a constant string. -/
def choiceLiterals (path : String) : List Node → Except Error (List String)
  | [] => .ok []
  | a :: as => match a.constant? with
    | some value => (choiceLiterals path as).map (String.ofList (Literal.quote value) :: ·)
    | none => .error (.atNode path a .choiceNotConstant)

/-- The element type of a conversion. -/
def converted : Converter → TypeExpr
  | .int => .int
  | .float => .float
  | .bool => .bool
  | .str => .str
  | .choices values => .literal (values.map (through Literal.quote))

/-- How many values an argument takes. -/
inductive Arity
  | any
  | atLeastOne

/-- The arity that a text denotes. -/
def arity? : List Char → Option Arity
  | ['*'] => some .any
  | ['+'] => some .atLeastOne
  | _ => none

/-- The argument when it takes several values: its name becomes a plural. -/
def repeated (a : Argument) : Arity → Argument
  | .any =>
    { a with
      name := a.name ++ "s", isOptional := false, type := .tuple a.type
      default := some .emptyTuple }
  | .atLeastOne =>
    { a with name := a.name ++ "s", isOptional := false, type := .nonEmptyTuple a.type }

/-- The boolean literal that a text is. -/
def boolean? (cs : List Char) : Option Bool :=
  if cs = "true".toList then some true
  else if cs = "false".toList then some false
  else none

/-- The effect of one chained call on an argument. -/
def configure (table : CommandTable) (path : String) (a : Argument) (c : Call) :
    Except Error Argument :=
  if c.name = "help" then
    (soleConstant path c).map fun text => { a with doc := some (String.ofList (collapse text)) }
  else if c.name = "action" then
    if c.argumentsText = "Arguments.storeTrue()".toList then
      .ok { a with type := .bool, isOptional := false, default := some .unset }
    else .error (.atNode path c.node .unsupportedAction)
  else if c.name = "choices" then
    match choiceLiterals path c.arguments with
    | .error e => .error e
    | .ok [] => .error (.atNode path c.node .noChoices)
    | .ok values => .ok { a with type := a.type.withElement (.literal values) }
  else if c.name = "type" then
    match table.converter? c.argumentsText with
    | some converter => .ok { a with type := a.type.withElement (converted converter) }
    | none => .error (.atNode path c.node (.unknownConverter (String.ofList c.argumentsText)))
  else if c.name = "nargs" then
    match soleConstant path c with
    | .error e => .error e
    | .ok text => match arity? text with
      | some n => .ok (a.repeated n)
      | none => .error (.atNode path c.node (.unsupportedArity (String.ofList text)))
  else if c.name = "required" then
    match boolean? c.argumentsText with
    | some true => .ok { a with isOptional := false }
    | some false => .ok a
    | none => .error (.atNode path c.node .requiredNotLiteral)
  else if table.ignoredCalls.contains c.name then .ok a
  else .error (.atNode path c.node (.unsupportedCall c.name a.name))

/-- The effect of a chain of calls on an argument. -/
def configureAll (table : CommandTable) (path : String) (a : Argument) (cs : List Call) :
    Except Error Argument :=
  cs.foldlM (configure table path) a

/-- An argument that may still be left out gets `None` as its default. -/
def finalize (a : Argument) : Argument :=
  if a.isOptional && !a.hasDefault then
    { a with type := a.type.orNone, default := some .noValue }
  else a

/-- Whether a text given on registration names the argument: a long flag or a positional name. -/
def isNaming (flag : List Char) : Bool :=
  ['-', '-'].isPrefixOf flag || flag.head? != some '-'

/-- The field name of a long flag or a positional name. -/
def fieldName (flag : List Char) : List Char :=
  (flag.dropWhile (· == '-')).map fun c => if c == '-' then '_' else c

/-- The first text given on registration that names the argument. -/
def naming? (c : Call) : Option (List Char) :=
  ((c.arguments.filter fun a => a.is .stringLiteral).filterMap fun a =>
    Literal.decode? a.text).find? isNaming

/-- The argument right after its registration, in a group or directly on the parser.  A positional
argument must be given. -/
def fresh (group : Option String) (flag : List Char) : Argument :=
  { group
    name := String.ofList (fieldName flag)
    isOptional := flag.head? == some '-' }

end Argument

/-! ### Statements -/

/-- What the statements of a registration refer to. -/
structure Registration where
  table : CommandTable
  /-- The path of the file. -/
  path : String
  /-- The name of the command. -/
  command : String
  /-- The variable that holds the parser. -/
  parser : String

/-- What has been registered so far. -/
structure Draft where
  help : Option String := none
  arguments : List Argument := []
  groups : List Group := []
  deriving DecidableEq, Repr

namespace Registration

/-- The call that sets the help text of the command, if the statement is one. -/
def helpCall? (r : Registration) (statement : Node) : Option Call :=
  if statement.is .expressionStatement then
    match statement.members.head?.bind Call.ofNode? with
    | some call => if call.name == "help" && call.isOn r.parser then some call else none
    | none => none
  else none

/-- The help text that a call sets. -/
def helpText (r : Registration) (statement : Node) (call : Call) : Except Error String :=
  match call.arguments with
  | [a] => match a.constant? with
    | some text => .ok (String.ofList (collapse text))
    | none => .error (.atNode r.path a .commandHelpNotConstant)
  | _ => .error (.atNode r.path statement .commandHelpArity)

/-- The group on which an argument is registered; nothing stands for the parser itself. -/
def groupOf (r : Registration) (groups : List Group) (call : Call) :
    Except Error (Option String) :=
  match call.receiver with
  | none => .error (.atNode r.path call.node .argumentOnExpression)
  | some receiver =>
    if receiver.is .identifier then
      if receiver.word = r.parser then .ok none
      else if groups.any fun g => g.name == receiver.word then .ok (some receiver.word)
      else .error (.atNode r.path receiver (.undeclaredGroup receiver.word))
    else .error (.atNode r.path call.node .argumentOnExpression)

/-- The argument that a call registers and the calls chained onto it configure. -/
def argumentOf (r : Registration) (groups : List Group) (call : Call) (chain : List Call) :
    Except Error Argument := do
  let group ← r.groupOf groups call
  match Argument.naming? call with
  | none => .error (.atNode r.path call.node .noLongFlag)
  | some flag =>
    let argument ← Argument.configureAll r.table r.path (.fresh group flag) chain
    return argument.finalize

/-- The call that creates a group, and whether the group is required, for the value of a variable.
Nothing is returned for a value of another shape. -/
def groupCreation? (r : Registration) (value : Node) : Except Error (Option (Call × Bool)) :=
  match Call.ofNode? value with
  | none => .ok none
  | some outer =>
    if outer.name = "required" then
      match outer.receiver.bind Call.ofNode? with
      | none => .ok none
      | some inner => match Argument.boolean? outer.argumentsText with
        | some required => .ok (some (inner, required))
        | none => .error (.atNode r.path value .requiredNotLiteral)
    else .ok (some (outer, false))

/-- The group that a statement declares, if it declares one. -/
def groupDeclared? (r : Registration) (statement : Node) : Except Error (Option Group) :=
  if statement.is .localVariableDeclaration then
    match statement.child? .declarator with
    | none => .ok none
    | some declarator =>
      match declarator.name?, declarator.child? .value with
      | some name, some value =>
        (r.groupCreation? value).map fun creation =>
          match creation with
          | some (create, required) =>
            if create.name == "addMutuallyExclusiveGroup" && create.isOn r.parser then
              some { name, isRequired := required }
            else none
          | none => none
      | _, _ => .ok none
  else .ok none

/-- The first registration of an argument within a statement, wherever it stands. -/
def argumentCall? (statement : Node) : Option Position :=
  Position.find? (fun n => n.isCallOf "addArgument") statement

end Registration

namespace Group

/-- The group with one more member. -/
def add (g : Group) (name : String) : Group :=
  { g with members := g.members ++ [name] }

end Group

namespace Draft

/-- Adds an argument, and its name to its group. -/
def addArgument (d : Draft) (a : Argument) : Draft :=
  { d with
    arguments := d.arguments ++ [a]
    groups := d.groups.map fun g => if a.group = some g.name then g.add a.name else g }

/-- Adds a group, whose name must be new. -/
def addGroup (d : Draft) (command : String) (g : Group) : Except Error Draft :=
  if d.groups.any fun h => h.name == g.name then
    .error (.inconsistent command (.groupDeclaredTwice g.name))
  else .ok { d with groups := d.groups ++ [g] }

/-- Adds the argument that a call registers, unless the configuration leaves it out. -/
def register (r : Registration) (d : Draft) (call : Call) (chain : List Call) :
    Except Error Draft :=
  (r.argumentOf d.groups call chain).map fun a =>
    if r.table.isExcluded r.command a.name then d else d.addArgument a

/-- The effect of one statement. -/
def step (r : Registration) (d : Draft) (statement : Node) : Except Error Draft :=
  match r.helpCall? statement with
  | some call => (r.helpText statement call).map fun text => { d with help := some text }
  | none =>
    match Registration.argumentCall? statement with
    | some position => match Call.ofNode? position.node with
      | some call => d.register r call position.chain
      | none => .error (.atNode r.path statement .unhandledStatement)
    | none =>
      match r.groupDeclared? statement with
      | .error e => .error e
      | .ok (some g) => d.addGroup r.command g
      | .ok none => .error (.atNode r.path statement .unhandledStatement)

/-- The effect of several statements. -/
def steps (r : Registration) (d : Draft) (statements : List Node) : Except Error Draft :=
  statements.foldlM (step r) d

/-- The command of a draft. -/
def command (r : Registration) (d : Draft) : Command :=
  { name := r.command
    help := d.help
    arguments := d.arguments
    groups := d.groups
    output := r.table.outputOf r.command
    source := r.path }

end Draft

/-! ### Command classes -/

namespace Command

/-- Whether a class names `interface` among the interfaces it implements. -/
def implements (declaration : Node) (interface : String) : Bool :=
  (declaration.child? .interfaces).any fun list =>
    (list.find? fun t => t.is .typeIdentifier && t.word == interface).isSome

/-- The first class of a file that implements `interface`. -/
def classIn? (root : Node) (interface : String) : Option Node :=
  root.find? fun n => n.is .classDeclaration && implements n interface

/-- The constant that a method returns. -/
def returned? (method : Node) : Option (List Char) := do
  let body ← method.child? .body
  let statement ← body.find? fun n => n.is .returnStatement
  let value ← statement.members.head?
  value.constant?

/-- The name of the command of a class, if the class names one. -/
def nameOf (path : String) (declaration : Node) : Except Error (Option String) :=
  match methodOf? declaration "getName" with
  | none => .ok none
  | some method => match returned? method with
    | some name => .ok (some (String.ofList (pascalCase name)))
    | none => .error (.atNode path method .nameNotConstant)

/-- The name of the first parameter of a method. -/
def firstParameter? (method : Node) : Option String := do
  let parameters ← method.child? .parameters
  let first ← parameters.members.find? fun p => p.is .formalParameter
  first.name?

/-- The command that a class with a name and a registration method declares. -/
def ofMethod (table : CommandTable) (path name : String) (method : Node) :
    Except Error Command :=
  match firstParameter? method with
  | none => .error (.atNode path method .noParameters)
  | some parser => match method.child? .body with
    | none => .error (.atNode path method .noBody)
    | some body =>
      let r : Registration := { table, path, command := name, parser }
      (Draft.steps r {} body.members).map (Draft.command r)

/-- The command that a file declares.  A file without a command class, and a class without a name
or without a registration method, declare none. -/
def ofFile? (table : CommandTable) (file : Source.File) : Except Error (Option Command) :=
  match classIn? file.root table.interface with
  | none => .ok none
  | some declaration => match nameOf file.path declaration with
    | .error e => .error e
    | .ok none => .ok none
    | .ok (some name) => match methodOf? declaration "attachToSubparser" with
      | none => .ok none
      | some method => (ofMethod table file.path name method).map some

end Command

end RpcBindings
