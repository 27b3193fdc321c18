import RpcBindings.Text.Blank
import RpcBindings.Text.Identifier

/-!
# Written type expressions

The configuration names result types as text, such as `list[Group] | None`.  This module reads the
class names that such a text uses.

## Main definitions

* `TypeExpr.Lexeme`, `TypeExpr.lexemes?` — the tokens of a written type.
* `TypeExpr.heads?` — the heads of the dotted names, if the tokens form a type.
* `TypeExpr.namesIn?` — the names that need a class, each once.

A type is a union of terms; a term is a dotted name that types in brackets may follow.  Which token
may come next depends on the last token and on how many brackets are open, and on nothing else.
-/

namespace RpcBindings.TypeExpr

open Text

/-- A token of a written type. -/
inductive Lexeme
  /-- A dotted name, as its segments. -/
  | name (head : List Char) (tail : List (List Char))
  | opening
  | closing
  | comma
  | bar
  deriving DecidableEq, Repr

/-- The segments of a dotted name after its first segment, and the rest of the text.  A dot counts
only if a name follows it.  The fuel bounds the number of segments. -/
def segments : Nat → List Char → List (List Char) × List Char
  | 0, cs => ([], cs)
  | fuel + 1, cs =>
    match cs with
    | '.' :: c :: rest =>
      if Identifier.isAsciiStart c then
        let (word, after) := (c :: rest).span Identifier.isAsciiContinue
        let (more, after) := segments fuel after
        (word :: more, after)
      else ([], cs)
    | _ => ([], cs)

/-- The token at the start of a text, and the rest of the text. -/
def lexeme? : List Char → Option (Lexeme × List Char)
  | [] => none
  | '[' :: cs => some (.opening, cs)
  | ']' :: cs => some (.closing, cs)
  | ',' :: cs => some (.comma, cs)
  | '|' :: cs => some (.bar, cs)
  | c :: cs =>
    if Identifier.isAsciiStart c then
      let (head, rest) := (c :: cs).span Identifier.isAsciiContinue
      let (tail, rest) := segments rest.length rest
      some (.name head tail, rest)
    else none

/-- The tokens of a text; blanks may stand around each of them.  The fuel bounds their number. -/
def lexemesFrom? : Nat → List Char → Option (List Lexeme)
  | 0, _ => none
  | fuel + 1, cs =>
    match trimStart cs with
    | [] => some []
    | rest => (lexeme? rest).bind fun (t, after) => (lexemesFrom? fuel after).map (t :: ·)

/-- The tokens of a written type, or nothing if some part of the text is no token. -/
def lexemes? (cs : List Char) : Option (List Lexeme) :=
  lexemesFrom? (cs.length + 1) cs

/-- What the last token of a written type was. -/
inductive Phase
  /-- Nothing, an opening bracket, a comma or a bar: a name must follow. -/
  | wanting
  /-- A name, which brackets may follow. -/
  | afterName
  /-- A closing bracket. -/
  | afterClosing
  deriving DecidableEq, Repr

/-- The heads of the names in the rest of a written type, in order, given what came last and how
many brackets are open. -/
def headsFrom? : Phase → Nat → List Lexeme → Option (List (List Char))
  | .wanting, depth, .name head _ :: ts => (headsFrom? .afterName depth ts).map (head :: ·)
  | .wanting, _, _ => none
  | .afterName, depth, .opening :: ts => headsFrom? .wanting (depth + 1) ts
  | _, depth, .bar :: ts => headsFrom? .wanting depth ts
  | _, depth + 1, .comma :: ts => headsFrom? .wanting (depth + 1) ts
  | _, depth + 1, .closing :: ts => headsFrom? .afterClosing depth ts
  | _, 0, [] => some []
  | _, _, _ => none

/-- The heads of the names in a written type, in order. -/
def heads? (ts : List Lexeme) : Option (List (List Char)) :=
  headsFrom? .wanting 0 ts

/-- The names of a written type that need no class. -/
def builtinNames : List String :=
  ["None", "bool", "bytes", "dict", "float", "frozenset", "int", "list", "set", "str", "tuple"]

/-- The names in a written type that need a class, each once and in order, or nothing if the text
is no type. -/
def namesIn? (text : String) : Option (List String) := do
  let heads ← (lexemes? text.toList).bind heads?
  return ((heads.map String.ofList).filter fun n => !builtinNames.contains n).eraseDups

end RpcBindings.TypeExpr
