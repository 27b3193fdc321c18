import RpcBindings.Template.Expression
import RpcBindings.Template.Lexeme

/-!
# Reading expressions

From the loosest to the tightest: a choice with `if` and `else`, `or`, `and`, `not`, comparisons,
`+` and `-`, `~`, `*`, `//` and `%`, and operands.  An operand may have a minus sign in front;
attributes and functions follow it.

## Main definitions

* `Level` — how tightly an expression binds.
* `Expression.ofLexemes?` — the expression that the tokens of a tag form.
-/

namespace RpcBindings.Template

/-- How tightly an expression binds. -/
inductive Level
  | choice
  | either
  | both
  | not
  | comparison
  | sum
  | joining
  | product
  | operand
  deriving DecidableEq, Repr

namespace Level

/-- The next tighter level. -/
def tighter : Level → Level
  | choice => either
  | either => both
  | both => not
  | not => comparison
  | comparison => sum
  | sum => joining
  | joining => product
  | product => operand
  | operand => operand

/-- How an operator of a level puts two operands together, if the token is such an operator. -/
def combine? : Level → Lexeme → Option (Expression → Expression → Expression)
  | either, .word "or" => some .either
  | both, .word "and" => some .both
  | comparison, .symbol "==" => some (.operation .equal)
  | comparison, .symbol "!=" => some (.operation .unequal)
  | sum, .symbol "+" => some (.operation .plus)
  | sum, .symbol "-" => some (.operation .minus)
  | joining, .symbol "~" => some (.operation .join)
  | product, .symbol "*" => some (.operation .times)
  | product, .symbol "//" => some (.operation .quotient)
  | product, .symbol "%" => some (.operation .remainder)
  | _, _ => none

end Level

namespace Expression

/-- The expression of a word: a constant or a name. -/
def ofWord (w : String) : Expression :=
  if w = "true" ∨ w = "True" then constant (.boolean true)
  else if w = "false" ∨ w = "False" then constant (.boolean false)
  else if w = "none" ∨ w = "None" then constant .none
  else named w

mutual

/-- The expression of a level at the start of a list of tokens, and the rest.  The fuel bounds the
depth of the descent. -/
def read? : Nat → Level → List Lexeme → Option (Expression × List Lexeme)
  | 0, _, _ => none
  | fuel + 1, .choice, ts => (read? fuel .either ts).bind fun (e, rest) => choices? fuel e rest
  | fuel + 1, .not, .word "not" :: ts => (read? fuel .not ts).map fun (e, rest) => (not e, rest)
  | fuel + 1, .operand, ts =>
    (operand? fuel ts).bind fun (e, rest) => suffixes? fuel e rest
  | fuel + 1, level, ts =>
    (read? fuel level.tighter ts).bind fun (e, rest) => operations? fuel level e rest

/-- The conditions that follow an expression.  A choice without `else` is undefined where its
condition fails. -/
def choices? : Nat → Expression → List Lexeme → Option (Expression × List Lexeme)
  | 0, _, _ => none
  | fuel + 1, yes, .word "if" :: ts =>
    (read? fuel .either ts).bind fun (condition, rest) => match rest with
      | .word "else" :: rest => (read? fuel .choice rest).bind fun (no, rest) =>
        choices? fuel (choice condition yes no) rest
      | rest => choices? fuel (choice condition yes (constant .undefined)) rest
  | _ + 1, e, ts => some (e, ts)

/-- The operators of a level that follow an expression, with their right operands. -/
def operations? : Nat → Level → Expression → List Lexeme → Option (Expression × List Lexeme)
  | 0, _, _, _ => none
  | _ + 1, _, e, [] => some (e, [])
  | fuel + 1, level, e, t :: ts => match level.combine? t with
    | none => some (e, t :: ts)
    | some combine => (read? fuel level.tighter ts).bind fun (f, rest) =>
      operations? fuel level (combine e f) rest

/-- An operand without what follows it. -/
def operand? : Nat → List Lexeme → Option (Expression × List Lexeme)
  | fuel + 1, .symbol "-" :: ts => (operand? fuel ts).map fun (e, rest) => (negative e, rest)
  | _ + 1, .word w :: ts => some (ofWord w, ts)
  | _ + 1, .number n :: ts => some (constant (.integer n), ts)
  | _ + 1, .text s :: ts => some (constant (.text s), ts)
  | fuel + 1, .symbol "(" :: ts => (read? fuel .choice ts).bind fun (e, rest) => match rest with
    | .symbol ")" :: rest => some (e, rest)
    | _ => none
  | fuel + 1, .symbol "[" :: ts => (items? fuel "]" ts).map fun (es, rest) => (list es, rest)
  | _, _ => none

/-- The expressions up to the closing symbol, with commas between them. -/
def items? : Nat → String → List Lexeme → Option (List Expression × List Lexeme)
  | 0, _, _ => none
  | _, _, [] => none
  | fuel + 1, close, t :: ts =>
    if t = .symbol close then some ([], ts)
    else (read? fuel .choice (t :: ts)).bind fun (e, rest) => match rest with
      | .symbol "," :: rest => (items? fuel close rest).map fun (es, rest) => (e :: es, rest)
      | t :: rest => if t = .symbol close then some ([e], rest) else none
      | [] => none

/-- The attributes and functions that follow an operand. -/
def suffixes? : Nat → Expression → List Lexeme → Option (Expression × List Lexeme)
  | 0, _, _ => none
  | fuel + 1, e, .symbol "." :: .word name :: ts => suffixes? fuel (member e name) ts
  | _, _, .symbol "." :: _ => none
  | fuel + 1, e, .symbol "|" :: .word name :: .symbol "(" :: ts =>
    (items? fuel ")" ts).bind fun (es, rest) => suffixes? fuel (filter e name es) rest
  | fuel + 1, e, .symbol "|" :: .word name :: ts => suffixes? fuel (filter e name []) ts
  | _, _, .symbol "|" :: _ => none
  | _ + 1, e, ts => some (e, ts)

end

/-- The most levels that are passed through for one token. -/
def levelCount : Nat := 12

/-- The expression that the tokens form, all of them. -/
def ofLexemes? (ts : List Lexeme) : Option Expression :=
  match read? (levelCount * (ts.length + 1)) .choice ts with
  | some (e, []) => some e
  | _ => none

end Expression

end RpcBindings.Template
