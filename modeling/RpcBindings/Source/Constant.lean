import RpcBindings.Source.Node
import RpcBindings.Text.Blank
import RpcBindings.Text.Digits

/-!
# Constant strings

The values of string literals, and of expressions that put literals together with `+` and
parentheses.

## Main definitions

* `Literal.decode?` — the value of a literal.
* `Node.constant?` — the value of an expression.
-/

namespace RpcBindings.Source

open Text

namespace Literal

/-- The number that at least one hexadecimal digit spells; a plus sign may stand in front. -/
def hex? : List Char → Option Nat
  | '+' :: cs => number? 16 cs
  | cs => number? 16 cs

/-- The character of a code point that is no surrogate. -/
def char? (n : Nat) : Option Char :=
  if n.isValidChar then some (Char.ofNat n) else none

/-- The character that an escape of one letter stands for. -/
def escaped : Char → Char
  | 'n' => '\n'
  | 't' => '\t'
  | 'r' => '\r'
  | 'b' => '\x08'
  | 'f' => '\x0c'
  | 's' => ' '
  | '0' => '\x00'
  | c => c

/-- The value of the text of a literal between its quotes.  A `u` escape takes the next four
characters, or what is left of the text, as a hexadecimal number. -/
def unescape? : List Char → Option (List Char)
  | [] => some []
  | ['\\'] => none
  | '\\' :: '\n' :: cs => unescape? cs
  | '\\' :: 'u' :: a :: b :: c :: d :: cs => do
    let value ← (hex? [a, b, c, d]).bind char?
    let rest ← unescape? cs
    return value :: rest
  | '\\' :: 'u' :: cs => ((hex? cs).bind char?).map fun value => [value]
  | '\\' :: c :: cs => (unescape? cs).map (escaped c :: ·)
  | c :: cs => (unescape? cs).map (c :: ·)

/-- A text without the given texts at its two ends, if it has both without overlap. -/
def unwrap? (start finish : List Char) (cs : List Char) : Option (List Char) :=
  if start.isPrefixOf cs then
    let rest := cs.drop start.length
    if finish.isSuffixOf rest then some (rest.take (rest.length - finish.length)) else none
  else none

/-- The delimiter of a text block. -/
def blockFence : List Char := ['"', '"', '"']

/-- A text block without the line end after its opening delimiter.  Where other text follows the
delimiter, nothing is taken away. -/
def dropOpeningLine (inner : List Char) : List Char :=
  match inner.dropWhile fun c => c == ' ' || c == '\t' with
  | '\n' :: rest => rest
  | _ => inner

/-- The value of a string literal or of a text block. -/
def decode? (literal : List Char) : Option (List Char) :=
  match unwrap? blockFence blockFence literal with
  | some inner => unescape? (dropOpeningLine inner)
  | none => (unwrap? ['"'] ['"'] literal).bind unescape?

end Literal

namespace Node

/-- Whether the operator among the children of an operation is `+`. -/
def isSum (cs : List Node) : Bool :=
  match cs.find? fun c => c.role == some .operator with
  | some operator => operator.text == ['+']
  | none => false

mutual

/-- The value of a constant string expression: a literal, a sum or an expression in parentheses. -/
def constant? : Node → Option (List Char)
  | leaf _ _ kind _ t => if kind == some .stringLiteral then Literal.decode? t else none
  | tree g r kind line cs =>
    match kind with
    | .stringLiteral => Literal.decode? (text (tree g r kind line cs))
    | .parenthesizedExpression => firstConstant? cs
    | .binaryExpression =>
      if isSum cs then
        match constantIn? .left cs, constantIn? .right cs with
        | some a, some b => some (a ++ b)
        | _, _ => none
      else none
    | _ => none

/-- The value of the first child that is an expression. -/
def firstConstant? : List Node → Option (List Char)
  | [] => none
  | c :: cs => if c.isNamed && !c.isComment then constant? c else firstConstant? cs

/-- The value of the first child in a role. -/
def constantIn? (role : Role) : List Node → Option (List Char)
  | [] => none
  | c :: cs => if c.role == some role then constant? c else constantIn? role cs

end

end Node

end RpcBindings.Source
