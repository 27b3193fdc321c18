import RpcBindings.Record
import RpcBindings.Text.Basic
import RpcBindings.Text.Naming
import RpcBindings.TypeExpr.OfSource

/-!
# Records of Java files

The records and enums that a file declares.  A declaration is a model if its name has the prefix of
the domain; what a model nests belongs to it, with or without the prefix.

## Main definitions

* `Field.ofComponent` — the field of a record component.
* `Declaration.ofNode` — the declaration of a syntax node, with all it nests.
* `Declaration.topLevel`, `Declaration.outermost` — the models at the top of a file, and the
  outermost models anywhere in it.
-/

namespace RpcBindings

open Text Source

/-- The annotation that leaves a component out when it has no value. -/
def nonNullMark : List Char := "@JsonInclude(JsonInclude.Include.NON_NULL)".toList

/-- The annotation of a component that should not be used any more. -/
def deprecatedMark : List Char := "@Deprecated".toList

/-- The annotations of a component, with single spaces. -/
def marksOf (component : Node) : List (List Char) :=
  let modifiers := component.members.filter fun n => n.is .modifiers
  let marks := (modifiers.flatMap Node.members).filter fun n =>
    n.is .fullAnnotated || n.is .bareAnnotated
  marks.map fun n => collapse n.text

namespace Field

/-- The default of a component that may be left out. -/
def defaultOf : TypeExpr → Option Default
  | .optional _ => some .noValue
  | .tuple _ => some .emptyTuple
  | _ => none

/-- The field of a record component. -/
def ofComponent (pre path : String) (component : Node) : Except Error Field :=
  if component.is .formalParameter then
    match component.name? with
    | none => .error (.atNode path component .componentWithoutName)
    | some name => match component.child? .typeOf with
      | none => .error (.atNode path component .componentWithoutType)
      | some type => (TypeExpr.ofNode pre path type).map fun t =>
        let marks := marksOf component
        { name := through snakeCase name
          type := t
          default := if marks.contains nonNullMark then defaultOf t else none
          deprecated := marks.contains deprecatedMark }
  else .error (.atNode path component .unsupportedComponent)

/-- The fields without a default in front of the others; the order is kept within each half. -/
def mandatoryFirst (fs : List Field) : List Field :=
  fs.filter (fun f => !f.default.isSome) ++ fs.filter fun f => f.default.isSome

end Field

namespace Declaration

/-- Whether a node declares a record or an enum. -/
def isDeclared (n : Node) : Bool :=
  n.is .recordDeclaration || n.is .enumDeclaration

/-- Whether a node declares a model. -/
def isModel (pre : String) (n : Node) : Bool :=
  isDeclared n && n.name?.any fun name => unprefixed pre name != name

/-- The names of the constants of an enum. -/
def constants (n : Node) : List String :=
  match n.child? .body with
  | none => []
  | some body => (body.members.filter fun m => m.is .enumConstant).filterMap Node.name?

/-- The fields of a record, those without a default in front. -/
def fieldsOf (pre path : String) (n : Node) : Except Error (List Field) :=
  match n.child? .parameters with
  | none => .error (.atNode path n .recordWithoutComponents)
  | some parameters =>
    (parameters.members.mapM (Field.ofComponent pre path)).map Field.mandatoryFirst

mutual

/-- The declaration of a node, with all it nests. -/
def ofNode (pre path : String) : Node → Except Error Declaration
  | .leaf g r k line t => .error (.atNode path (.leaf g r k line t) .declarationWithoutName)
  | .tree g r k line cs =>
    match (Node.tree g r k line cs).name? with
    | none => .error (.atNode path (.tree g r k line cs) .declarationWithoutName)
    | some name =>
      if k = .enumDeclaration then
        .ok (enumeration (unprefixed pre name) (constants (.tree g r k line cs)) path)
      else
        match fieldsOf pre path (.tree g r k line cs) with
        | .error e => .error e
        | .ok fields => (inBody pre path cs).map fun nested =>
          record (unprefixed pre name) fields nested path

/-- The declarations in the body among the parts of a record. -/
def inBody (pre path : String) : List Node → Except Error (List Declaration)
  | [] => .ok []
  | c :: cs => if c.role == some .body then bodyMembers pre path c else inBody pre path cs

/-- The declarations that are members of a body. -/
def bodyMembers (pre path : String) : Node → Except Error (List Declaration)
  | .leaf .. => .ok []
  | .tree _ _ _ _ cs => among pre path cs

/-- The declarations among the members of a body. -/
def among (pre path : String) : List Node → Except Error (List Declaration)
  | [] => .ok []
  | c :: cs =>
    if isDeclared c then
      match ofNode pre path c with
      | .error e => .error e
      | .ok d => (among pre path cs).map (d :: ·)
    else among pre path cs

end

/-- The models at the top of a file. -/
def topLevel (pre : String) (file : Source.File) : Except Error (List Declaration) :=
  (file.root.members.filter (isModel pre)).mapM (ofNode pre file.path)

/-- The models anywhere in a file that lie in no other model. -/
def outermost (pre : String) (file : Source.File) : Except Error (List Declaration) :=
  (file.root.outermost (isModel pre)).mapM (ofNode pre file.path)

end Declaration

end RpcBindings
