/-!
# Type expressions

The Python types of arguments and record fields, and the defaults of fields.

## Main definitions

* `TypeExpr` — a type, `TypeExpr.render` its text.
* `TypeExpr.orNone`, `TypeExpr.withoutNone`, `TypeExpr.withElement` — changes to a type.
* `TypeExpr.references`, `TypeExpr.usesLiteral`, `TypeExpr.usesNonEmptyTuple` — what a type needs.
* `Default` — a default value.
-/

namespace RpcBindings

/-- A Python type. -/
inductive TypeExpr
  | str
  | int
  | float
  | bool
  | bytes
  /-- A generated or external class, such as `Contact.Profile`. -/
  | named (path : List String)
  /-- One of the given literals, which are Python source text. -/
  | literal (values : List String)
  /-- A value of the type or `None`. -/
  | optional (inner : TypeExpr)
  /-- A sequence of any length. -/
  | tuple (inner : TypeExpr)
  /-- A sequence that is not empty. -/
  | nonEmptyTuple (inner : TypeExpr)
  deriving DecidableEq, Repr

namespace TypeExpr

/-- The literal type of `True`. -/
def literalTrue : TypeExpr :=
  literal ["True"]

/-- The type with `None` added; nothing changes if it is there already. -/
def orNone : TypeExpr → TypeExpr
  | optional t => optional t
  | t => optional t

/-- The type without its outer `None`. -/
def withoutNone : TypeExpr → TypeExpr
  | optional t => t
  | t => t

/-- The type with another element underneath its `None` and sequence layers. -/
def withElement : TypeExpr → TypeExpr → TypeExpr
  | optional t, element => optional (withElement t element)
  | tuple t, element => tuple (withElement t element)
  | nonEmptyTuple t, element => nonEmptyTuple (withElement t element)
  | _, element => element

/-- The paths of the classes in a type. -/
def references : TypeExpr → List (List String)
  | named path => [path]
  | optional t | tuple t | nonEmptyTuple t => references t
  | _ => []

/-- Whether literals occur in a type. -/
def usesLiteral : TypeExpr → Bool
  | literal _ => true
  | optional t | tuple t | nonEmptyTuple t => usesLiteral t
  | _ => false

/-- Whether a sequence that is not empty occurs in a type. -/
def usesNonEmptyTuple : TypeExpr → Bool
  | nonEmptyTuple _ => true
  | optional t | tuple t => usesNonEmptyTuple t
  | _ => false

/-- The text of a type. -/
def render : TypeExpr → String
  | str => "str"
  | int => "int"
  | float => "float"
  | bool => "bool"
  | bytes => "bytes"
  | named path => ".".intercalate path
  | literal values => "Literal[" ++ ", ".intercalate values ++ "]"
  | optional t => render t ++ " | None"
  | tuple t => "tuple[" ++ render t ++ ", ...]"
  | nonEmptyTuple t => "NonEmptyTuple[" ++ render t ++ "]"

end TypeExpr

/-- A default value of a field. -/
inductive Default
  /-- The default `None`. -/
  | noValue
  /-- The default `False`. -/
  | unset
  /-- The default `()`. -/
  | emptyTuple
  deriving DecidableEq, Repr

/-- The text of a default. -/
def Default.render : Default → String
  | .noValue => "None"
  | .unset => "False"
  | .emptyTuple => "()"

end RpcBindings
