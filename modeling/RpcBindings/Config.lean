import RpcBindings.Sorted
import RpcBindings.Text.Blank

/-!
# Configuration

The settings of a run.  Every setting has a default that fits the usual layout of a checkout.

## Main definitions

* `Config` and its sections `Sources`, `CommandTable`, `RecordTable`, `OutputLayout`.
* `Converter` — what a `.type(...)` argument converts to.
* `CommandTable.isExcluded`, `CommandTable.outputOf`, `CommandTable.converter?` — look-ups.
* `converterKey` — the normal form under which converters are found.
-/

namespace RpcBindings

open Text

/-- A conversion of an argument. -/
inductive Converter
  | int
  | float
  | bool
  | str
  /-- Only the given values are allowed. -/
  | choices (values : List String)
  deriving DecidableEq, Repr

/-- The source directories inside the checkout. -/
structure Sources where
  commandsDir : String := "src/main/java/org/asamk/signal/commands"
  jsonDir : String := "src/main/java/org/asamk/signal/json"
  deriving DecidableEq, Repr

/-- The converters that are known without a configuration. -/
def defaultConverters : List (String × Converter) :=
  Sorted.ofPairs
    [("int", .int), ("long", .int), ("Integer", .int), ("Long", .int), ("boolean", .bool),
     ("Boolean", .bool),
     ("Arguments.enumStringType(MessageRequestResponseType)", .choices ["accept", "delete"])]

/-- How commands are extracted.  Commands are named in `PascalCase`. -/
structure CommandTable where
  /-- The interface that marks command classes. -/
  interface : String := "JsonRpcLocalCommand"
  /-- The arguments that are left out, by command. -/
  excludedArgs : List (String × List String) := []
  /-- The result types, by command. -/
  outputs : List (String × String) := []
  /-- The result type of the other commands. -/
  defaultOutput : String := "Empty"
  /-- The conversions, by the source text of a `.type(...)` argument. -/
  converters : List (String × Converter) := defaultConverters
  /-- The chained calls without meaning for the bindings. -/
  ignoredCalls : List String := []
  deriving DecidableEq, Repr

/-- How records are extracted. -/
structure RecordTable where
  /-- The prefix of the names of records and enums. -/
  namePrefix : String := "Json"
  deriving DecidableEq, Repr

/-- The layout of the generated modules. -/
structure OutputLayout where
  commandsModule : String := "commands"
  outputsModule : String := "outputs"
  typesModule : String := "types"
  /-- The module that provides `RpcCommand`. -/
  sessionModule : String := "session"
  /-- The module that provides `NonEmptyTuple`. -/
  utilsModule : String := "utils"
  /-- The modules of classes that are not generated. -/
  externalTypes : List (String × String) := []
  /-- The width up to which a signature or an import stays on one line. -/
  lineLength : Nat := 100
  /-- The template of the link to a Java file. -/
  sourceLink : Option String := none
  /-- Whether modules start with a note on their origin. -/
  provenance : Bool := true
  deriving DecidableEq, Repr

/-- The settings of a run. -/
structure Config where
  /-- The directory of the checkout. -/
  checkout : String := "signal-cli"
  sources : Sources := {}
  commands : CommandTable := {}
  records : RecordTable := {}
  output : OutputLayout := {}
  deriving DecidableEq, Repr

/-- Whether a class literal can end before the given text. -/
def endsClassLiteral : List Char → Bool
  | [] => true
  | c :: _ => c == ')' || c == ','

/-- A text without the `.class` of its class literals. -/
def dropClassMarks : List Char → List Char
  | '.' :: 'c' :: 'l' :: 'a' :: 's' :: 's' :: cs =>
    if endsClassLiteral cs then dropClassMarks cs
    else '.' :: 'c' :: 'l' :: 'a' :: 's' :: 's' :: dropClassMarks cs
  | c :: cs => c :: dropClassMarks cs
  | [] => []

/-- The form under which a converter is found: without blanks, and without the `.class` of class
literals. -/
def converterKey (cs : List Char) : List Char :=
  dropClassMarks (compact cs)

namespace CommandTable

/-- Whether an argument of a command is left out. -/
def isExcluded (table : CommandTable) (command argument : String) : Bool :=
  ((Sorted.get? command table.excludedArgs).getD []).contains argument

/-- The result type of a command. -/
def outputOf (table : CommandTable) (command : String) : String :=
  (Sorted.get? command table.outputs).getD table.defaultOutput

/-- The converter for the source text of a `.type(...)` argument. -/
def converter? (table : CommandTable) (text : List Char) : Option Converter :=
  (table.converters.find? fun p => converterKey p.1.toList == converterKey text).map Prod.snd

end CommandTable

end RpcBindings
