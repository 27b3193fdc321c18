import RpcBindings.Text.Visible
import RpcBindings.Text.Lines
import RpcBindings.Source.File

/-!
# Errors

What can stop a run, by cause, and how each cause is worded.

## Main definitions

* `Problem` — a shape of a Java file that no rule covers.
* `Conflict` — an inconsistency of the extracted model.
* `Setting` — a fault of the configuration.
* `FileFault` — a failing file operation.
* `Error` — any of these, `Error.message` and `Error.display` its wording.
-/

namespace RpcBindings

/-- A shape of a Java file that no rule covers. -/
inductive Problem
  | nameNotConstant
  | noParameters
  | noBody
  | unhandledStatement
  | argumentOnExpression
  | undeclaredGroup (name : String)
  | commandHelpArity
  | commandHelpNotConstant
  | requiredNotLiteral
  | noLongFlag
  | unsupportedCall (call argument : String)
  | constantNeeded (call : String)
  | oneArgumentNeeded (call : String)
  | unsupportedAction
  | choiceNotConstant
  | noChoices
  | unknownConverter (text : String)
  | unsupportedArity (text : String)
  | declarationWithoutName
  | recordWithoutComponents
  | unsupportedComponent
  | componentWithoutName
  | componentWithoutType
  | unsupportedArray
  | unknownPrimitive
  | qualifiedType
  | unsupportedType
  | malformedGeneric
  | genericArity
  | unknownWrapper
  deriving DecidableEq, Repr

/-- A text in double quotes, with what cannot be seen escaped. -/
def quoted (s : String) : String :=
  String.ofList (Text.Visible.quote s.toList)

/-- The wording of a problem. -/
def Problem.message : Problem → String
  | nameNotConstant => "getName() must return a string constant"
  | noParameters => "attachToSubparser() without parameters"
  | noBody => "attachToSubparser() without a body"
  | unhandledStatement => "unhandled statement in attachToSubparser()"
  | argumentOnExpression => "addArgument() on an expression"
  | undeclaredGroup v => "argument registered on undeclared group `" ++ v ++ "`"
  | commandHelpArity => "help() takes one argument"
  | commandHelpNotConstant => "command help must be a string constant"
  | requiredNotLiteral => "required() takes a boolean literal"
  | noLongFlag => "addArgument() without a long flag or name"
  | unsupportedCall c a => "unsupported call ." ++ c ++ "() on argument `" ++ a ++ "`"
  | constantNeeded c => "." ++ c ++ "() needs a string constant"
  | oneArgumentNeeded c => "." ++ c ++ "() takes exactly one argument"
  | unsupportedAction => "unsupported argument action"
  | choiceNotConstant => "choices must be string constants"
  | noChoices => "choices() without values"
  | unknownConverter t => "unknown type converter `" ++ t ++ "`"
  | unsupportedArity t => "unsupported arity " ++ quoted t
  | declarationWithoutName => "declaration without a name"
  | recordWithoutComponents => "record without components"
  | unsupportedComponent => "unsupported record component"
  | componentWithoutName => "record component without a name"
  | componentWithoutType => "record component without a type"
  | unsupportedArray => "unsupported array type"
  | unknownPrimitive => "unknown primitive type"
  | qualifiedType => "package-qualified type"
  | unsupportedType => "unsupported type syntax"
  | malformedGeneric => "malformed generic type"
  | genericArity => "generic type must have one argument"
  | unknownWrapper => "unknown generic wrapper"

/-- An inconsistency of the extracted model. -/
inductive Conflict
  | groupDeclaredTwice (group : String)
  | tooFewMembers (group : String) (count : Nat)
  | unknownMember (group argument : String)
  | unknownGroup (group : String)
  | declaredTwice (name : String)
  deriving DecidableEq, Repr

/-- The wording of a conflict. -/
def Conflict.message : Conflict → String
  | groupDeclaredTwice g => "exclusive group `" ++ g ++ "` declared twice"
  | tooFewMembers g n =>
    "exclusive group `" ++ g ++ "` has " ++ toString n ++
      " live member(s), expected at least 2"
  | unknownMember g a => "group `" ++ g ++ "` lists unknown argument `" ++ a ++ "`"
  | unknownGroup g => "argument registered on unknown group `" ++ g ++ "`"
  | declaredTwice n => "`" ++ n ++ "` is declared twice"

/-- A failing file operation. -/
inductive FileFault
  | missing
  | taken
  | notDirectory
  | isDirectory
  | nameTooLong
  | denied
  | zeroByte
  | notUtf8
  deriving DecidableEq, Repr

/-- The wording of a failing file operation. -/
def FileFault.message : FileFault → String
  | missing => "No such file or directory (os error 2)"
  | taken => "File exists (os error 17)"
  | notDirectory => "Not a directory (os error 20)"
  | isDirectory => "Is a directory (os error 21)"
  | nameTooLong => "File name too long (os error 36)"
  | denied => "Permission denied (os error 13)"
  | zeroByte => "file name contained an unexpected NUL byte"
  | notUtf8 => "stream did not contain valid UTF-8"

/-- A fault of the configuration. -/
inductive Setting
  | notIdentifier (key name : String)
  | moduleUsedTwice (key name : String)
  | lineTooShort (length : Nat)
  | noInterface
  | noDefaultOutput
  | notType (text : String)
  | unreadable (path : String) (fault : FileFault)
  | missingDirectory (path : String)
  | unknownOutput (name : String)
  deriving DecidableEq, Repr

/-- The wording of a fault of the configuration. -/
def Setting.message : Setting → String
  | notIdentifier k n => "output." ++ k ++ " must be a Python identifier, got " ++ quoted n
  | moduleUsedTwice k n => "output." ++ k ++ ": module name " ++ quoted n ++ " is used twice"
  | lineTooShort n => "output.line_length must be at least 40, got " ++ toString n
  | noInterface => "commands.interface must not be empty"
  | noDefaultOutput => "commands.default_output must not be empty"
  | notType t => "`" ++ t ++ "` is not a type expression"
  | unreadable p f => "Failed to read " ++ p ++ ": " ++ f.message
  | missingDirectory p => "source directory " ++ p ++ " does not exist"
  | unknownOutput n =>
    "output type name `" ++ n ++ "` is not generated or listed in output.external_types"

/-- What can stop a run.  A malformed file, template or configuration text carries no details. -/
inductive Error
  /-- A Java file that does not follow the grammar. -/
  | malformedSource
  /-- A shape that no rule covers, with the place and the first line of its text. -/
  | unrecognized (path : String) (line : Nat) (problem : Problem) (found : String)
  /-- An inconsistency in a declaration or a module. -/
  | inconsistent (declaration : String) (conflict : Conflict)
  | config (setting : Setting)
  | file (fault : FileFault)
  | template
  | yaml
  deriving DecidableEq, Repr

namespace Error

/-- The wording of an error without its kind. -/
def message : Error → String
  | malformedSource => ""
  | unrecognized _ _ p found => p.message ++ ": `" ++ found ++ "`"
  | inconsistent _ c => c.message
  | config s => s.message
  | file f => f.message
  | template => ""
  | yaml => ""

/-- The wording of an error. -/
def display : Error → String
  | malformedSource => "Code parse error"
  | unrecognized path line p found =>
    "Unrecognized syntax at " ++ path ++ ":" ++ toString line ++ ": " ++
      (unrecognized path line p found).message
  | inconsistent d c => "Inconsistent model in " ++ d ++ ": " ++ c.message
  | config s => "Config error: " ++ s.message
  | file f => "IO error: " ++ f.message
  | template => "Template error"
  | yaml => "YAML error"

/-- The error for a node whose shape no rule covers. -/
def atNode (path : String) (n : Source.Node) (p : Problem) : Error :=
  unrecognized path n.line p (String.ofList (Text.excerpt n.text))

end Error

end RpcBindings
