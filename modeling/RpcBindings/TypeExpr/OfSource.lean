import RpcBindings.Error
import RpcBindings.Text.LetterCase
import RpcBindings.TypeExpr

/-!
# Types of Java components

How the type of a record component becomes a Python type.  Types with a capital may be null, so
they take `None`; primitive types do not.  `Optional` adds nothing to that, and lists and sets
become tuples.  Everything else is an error, so that a change of the sources is noticed.

## Main definitions

* `unprefixed` — a class name without the prefix of its domain.
* `TypeExpr.ofName?` — the type of a simple name.
* `TypeExpr.ofNode` — the type of a syntax node.
-/

namespace RpcBindings

open Text Source

/-- A class name without the prefix of its domain.  The prefix only goes if a capital follows. -/
def unprefixed (pre name : String) : String :=
  let rest := name.toList.drop pre.length
  if !pre.isEmpty && pre.toList.isPrefixOf name.toList && isCapitalized rest then
    String.ofList rest
  else name

namespace TypeExpr

/-- The types of the standard names. -/
def builtin? : String → Option TypeExpr
  | "String" => some str
  | "int" | "long" | "Integer" | "Long" => some int
  | "float" | "double" | "Float" | "Double" => some float
  | "boolean" | "Boolean" => some bool
  | _ => none

/-- The type of a simple name; a name without a capital must be a standard one. -/
def ofName? (pre name : String) : Option TypeExpr :=
  if isCapitalized name.toList then
    some ((builtin? name).getD (named [unprefixed pre name])).orNone
  else builtin? name

/-- The type of a dotted name, all of whose segments have a capital. -/
def ofPath? (pre : String) (text : List Char) : Option TypeExpr :=
  let segments := (splitOn '.' text).map trim
  if segments.all isCapitalized then
    some (named (segments.map fun s => unprefixed pre (String.ofList s))).orNone
  else none

/-- What a generic type does with the type of its argument. -/
inductive Wrapper
  | transparent
  | sequence

/-- The generic types that can be mapped. -/
def wrapper? : List Char → Option Wrapper
  | ['O', 'p', 't', 'i', 'o', 'n', 'a', 'l'] => some .transparent
  | ['L', 'i', 's', 't'] | ['S', 'e', 't'] => some .sequence
  | _ => none

/-- What the wrapper makes of the type of its argument. -/
def Wrapper.apply : Wrapper → TypeExpr → TypeExpr
  | .transparent, t => t
  | .sequence, t => tuple t

/-- The wrapper of a generic type, or what is wrong with the type. -/
def wrapperOf (n : Node) : Except Problem Wrapper :=
  match n.members with
  | [name, arguments] =>
    if arguments.is .typeArguments then
      match arguments.members with
      | [_] => match wrapper? name.text with
        | some w => .ok w
        | none => .error .unknownWrapper
      | _ => .error .genericArity
    else .error .malformedGeneric
  | _ => .error .malformedGeneric

/-- The type of a node that is no generic type, or what is wrong with it. -/
def ofPlain (pre : String) (n : Node) : Except Problem TypeExpr :=
  match n.kind? with
  | some .arrayType =>
    if compact n.text == ['b', 'y', 't', 'e', '[', ']'] then .ok bytes else .error .unsupportedArray
  | some .integralType | some .floatingPointType | some .booleanType | some .typeIdentifier =>
    match ofName? pre n.word with
    | some t => .ok t
    | none => .error .unknownPrimitive
  | some .scopedTypeIdentifier =>
    match ofPath? pre n.text with
    | some t => .ok t
    | none => .error .qualifiedType
  | _ => .error .unsupportedType

/-- The outcome at a node, with its place if it failed. -/
def located {α : Type} (path : String) (n : Node) : Except Problem α → Except Error α
  | .ok a => .ok a
  | .error p => .error (Error.atNode path n p)

mutual

/-- The Python type of a Java type, in a file with the given path. -/
def ofNode (pre path : String) : Node → Except Error TypeExpr
  | .leaf g r k line t => located path (.leaf g r k line t) (ofPlain pre (.leaf g r k line t))
  | .tree g r k line cs =>
    if k = .genericType then
      match wrapperOf (.tree g r k line cs) with
      | .ok w => (inGeneric pre path cs).map w.apply
      | .error p => .error (Error.atNode path (.tree g r k line cs) p)
    else located path (.tree g r k line cs) (ofPlain pre (.tree g r k line cs))

/-- The type of the sole argument of a generic type with the given children. -/
def inGeneric (pre path : String) : List Node → Except Error TypeExpr
  | [] => .error .malformedSource
  | c :: cs => if c.is .typeArguments then inArguments pre path c else inGeneric pre path cs

/-- The type of the sole member of a list of type arguments. -/
def inArguments (pre path : String) : Node → Except Error TypeExpr
  | .leaf .. => .error .malformedSource
  | .tree _ _ _ _ cs => ofFirst pre path cs

/-- The type of the first node that is neither a symbol nor a comment. -/
def ofFirst (pre path : String) : List Node → Except Error TypeExpr
  | [] => .error .malformedSource
  | c :: cs => if c.isNamed && !c.isComment then ofNode pre path c else ofFirst pre path cs

end

end TypeExpr

end RpcBindings
