import RpcBindings.Template.Value

/-!
# Expressions of templates

## Main definitions

* `Expression` — the expressions.
* `Expression.value?` — the value of an expression, given the values of the names.
-/

namespace RpcBindings.Template

/-- An expression of a template. -/
inductive Expression
  | constant (v : Value)
  /-- The value of a name. -/
  | named (name : String)
  | list (items : List Expression)
  /-- An attribute of a value.  No value of a template has one. -/
  | member (owner : Expression) (name : String)
  | negative (e : Expression)
  | not (e : Expression)
  | operation (op : Operator) (left right : Expression)
  /-- The left operand if it is false, and otherwise the right one. -/
  | both (left right : Expression)
  /-- The left operand if it is true, and otherwise the right one. -/
  | either (left right : Expression)
  /-- The first expression if the condition holds, and otherwise the second. -/
  | choice (condition yes no : Expression)
  /-- A named function of a value and of arguments. -/
  | filter (e : Expression) (name : String) (arguments : List Expression)
  deriving Repr

/-- The values of the names. -/
abbrev Bindings := List (String × Value)

namespace Expression

mutual

/-- The value of an expression, or nothing if the computation fails. -/
def value? (names : Bindings) : Expression → Option Value
  | constant v => some v
  | named x => some ((names.lookup x).getD .undefined)
  | list items => (values? names items).map Value.list
  | member e _ => match value? names e with
    | none | some .undefined => none
    | some _ => some .undefined
  | negative e => (value? names e).bind fun v => v.asInteger?.bind fun n => Value.ofInt? (-n)
  | not e => (value? names e).bind fun v => v.isTrue?.map fun b => .boolean !b
  | operation op l r =>
    (value? names l).bind fun v => (value? names r).bind fun w => op.apply? v w
  | both l r => (value? names l).bind fun v => v.isTrue?.bind fun b =>
    if b then value? names r else some v
  | either l r => (value? names l).bind fun v => v.isTrue?.bind fun b =>
    if b then some v else value? names r
  | choice c y n => (value? names c).bind fun v => v.isTrue?.bind fun b =>
    if b then value? names y else value? names n
  | filter e f as =>
    (value? names e).bind fun v => (values? names as).bind fun ws => v.filter? f ws

/-- The values of several expressions. -/
def values? (names : Bindings) : List Expression → Option (List Value)
  | [] => some []
  | e :: es => (value? names e).bind fun v => (values? names es).map (v :: ·)

end

end Expression

end RpcBindings.Template
