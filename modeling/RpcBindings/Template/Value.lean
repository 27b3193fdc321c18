import RpcBindings.Text.Basic
import RpcBindings.Text.LetterCase
import RpcBindings.Text.Literal
import RpcBindings.Text.Visible

/-!
# Values of templates

What an expression of a template can be, how it is printed, and the functions on it.  A value that
is not defined can be made but not used: printing it, testing it or computing with it fails.

## Main definitions

* `Value` — the values.
* `Value.print?`, `Value.isTrue?` — the text and the truth of a value.
* `Operator.apply?` — the operators of two operands.
* `Value.filter?` — the named functions.
-/

namespace RpcBindings.Template

open Text

/-- A value of an expression. -/
inductive Value
  /-- What an unknown name stands for. -/
  | undefined
  | none
  | boolean (b : Bool)
  | integer (n : Int)
  | text (s : String)
  | list (items : List Value)
  deriving Repr

namespace Value

/-- The decimal text of an integer. -/
def decimal : Int → String
  | .ofNat n => toString n
  | .negSucc n => "-" ++ toString (n + 1)

mutual

/-- The text of a value inside of a list. -/
def inner : Value → String
  | undefined => "undefined"
  | none => "none"
  | boolean b => if b then "true" else "false"
  | integer n => decimal n
  | text s => through Visible.quote s
  | list items => "[" ++ ", ".intercalate (inners items) ++ "]"

/-- The texts of the members of a list. -/
def inners : List Value → List String
  | [] => []
  | v :: vs => inner v :: inners vs

end

/-- The text of a value. -/
def print? : Value → Option String
  | undefined => .none
  | text s => some s
  | v => some (inner v)

/-- Whether a value counts as true: neither `none` nor zero nor empty. -/
def isTrue? : Value → Option Bool
  | undefined => .none
  | none => some false
  | boolean b => some b
  | integer n => some (n != 0)
  | text s => some (!s.isEmpty)
  | list items => some (!items.isEmpty)

/-- The members of a value that can be gone through: of a list, or the characters of a text. -/
def members? : Value → Option (List Value)
  | list items => some items
  | text s => some (s.toList.map fun c => text (String.singleton c))
  | _ => .none

/-- The integer that a value counts as. -/
def asInteger? : Value → Option Int
  | integer n => some n
  | boolean b => some (if b then 1 else 0)
  | _ => .none

/-- The bound of the integers, which fit into 128 bits: the power of two with the exponent 127. -/
def integerBound : Int :=
  170141183460469231731687303715884105728

/-- An integer as a value, if it fits. -/
def ofInt? (n : Int) : Option Value :=
  if -integerBound ≤ n ∧ n < integerBound then some (integer n) else .none

/-- How a value compares with another: equal integers are equal, whichever way they are written. -/
def same (v w : Value) : Bool :=
  match v.asInteger?, w.asInteger? with
  | some m, some n => m == n
  | _, _ => match v, w with
    | undefined, undefined => true
    | none, none => true
    | _, _ => v.print?.isSome && w.print?.isSome && v.inner == w.inner

end Value

/-- An operator of two operands that are both computed first. -/
inductive Operator
  | equal
  | unequal
  | plus
  | minus
  | join
  | times
  | quotient
  | remainder
  deriving DecidableEq, Repr

/-- The result of an operator, or nothing if it does not take such operands. -/
def Operator.apply? (op : Operator) (v w : Value) : Option Value :=
  let onIntegers := fun (f : Int → Int → Option Int) => do
    let m ← v.asInteger?
    let n ← w.asInteger?
    Value.ofInt? (← f m n)
  match op with
  | equal => some (.boolean (v.same w))
  | unequal => some (.boolean (!v.same w))
  | plus => match v, w with
    | .text s, .text t => some (.text (s ++ t))
    | .list vs, .list ws => some (.list (vs ++ ws))
    | _, _ => onIntegers fun m n => some (m + n)
  | minus => onIntegers fun m n => some (m - n)
  | join => do return .text ((← v.print?) ++ (← w.print?))
  | times => onIntegers fun m n => some (m * n)
  | quotient => onIntegers fun m n => if n = 0 then none else some (Int.ediv m n)
  | remainder => onIntegers fun m n => if n = 0 then none else some (Int.emod m n)

/-- A text after `old` has been replaced by `new`, from left to right; `skip` characters of a match
are still to be passed over.  An empty `old` occurs in front of every character and at the end. -/
def replaceFrom (old new : List Char) : Nat → List Char → List Char
  | _, [] => if old.isEmpty then new else []
  | skip + 1, _ :: cs => replaceFrom old new skip cs
  | 0, c :: cs =>
    if old.isEmpty then new ++ c :: replaceFrom old new 0 cs
    else if old.isPrefixOf (c :: cs) then new ++ replaceFrom old new (old.length - 1) cs
    else c :: replaceFrom old new 0 cs

namespace Value

/-- The number of the members of a value. -/
def length? (v : Value) : Option Nat :=
  v.members?.map List.length

/-- A function on texts, applied to the text of a value. -/
def mapText? (f : List Char → List Char) (v : Value) : Option Value :=
  v.print?.map fun s => text (through f s)

/-- The result of a named function, or nothing if there is no such function on such values. -/
def filter? (name : String) (v : Value) (arguments : List Value) : Option Value :=
  match name, arguments with
  | "upper", [] => v.mapText? upper
  | "lower", [] => v.mapText? lower
  | "length", [] | "count", [] => v.length?.map fun n => integer n
  | "py_string", [] => match v with
    | text s => some (text (through Literal.quote s))
    | _ => .none
  | "replace", [old, new] => do
    let o ← old.print?
    let n ← new.print?
    v.mapText? (replaceFrom o.toList n.toList 0)
  | _, _ => .none

end Value

end RpcBindings.Template
