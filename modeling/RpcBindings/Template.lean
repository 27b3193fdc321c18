import RpcBindings.Template.Grammar
import RpcBindings.Template.Piece

/-!
# Templates

A small template language for the link to a Java file.  A name that has no value is an error as
soon as it is used.

## Main definitions

* `Template` — a part of a template: text, an expression, a condition or a loop.
* `Template.ofText?` — the parts of a template text.
* `Template.expand?` — the text of a template for given values of the names.
-/

namespace RpcBindings

open Template

/-- A part of a template. -/
inductive Template
  | text (cs : List Char)
  | output (e : Expression)
  /-- The parts to be taken if the condition holds, and if it does not. -/
  | branch (condition : Expression) (yes no : List Template)
  /-- The parts to be repeated for each member of a value, and those for a value without any. -/
  | loop (name : String) (items : Expression) (body otherwise : List Template)
  deriving Repr

namespace Template

mutual

/-- The text of a part. -/
def expandPart? (names : Bindings) : Template → Option (List Char)
  | text cs => some cs
  | output e => (e.value? names).bind fun v => v.print?.map String.toList
  | branch c yes no => (c.value? names).bind fun v => v.isTrue?.bind fun b =>
    if b then expand? names yes else expand? names no
  | loop x e body otherwise => (e.value? names).bind fun v => v.members?.bind fun vs =>
    if vs.isEmpty then expand? names otherwise
    else (vs.mapM fun w => expand? ((x, w) :: names) body).map List.flatten

/-- The text of several parts, or nothing if an expression has no value or cannot be printed. -/
def expand? (names : Bindings) : List Template → Option (List Char)
  | [] => some []
  | p :: ps => (expandPart? names p).bind fun cs => (expand? names ps).map (cs ++ ·)

end

/-- The names that a loop may not bind. -/
def reservedNames : List String :=
  ["true", "True", "false", "False", "none", "None", "loop", "self"]

/-- The words that end a list of parts. -/
def closingWords : List String :=
  ["elif", "else", "endif", "endfor"]

/-- Whether a tag ends a list of parts. -/
def isClosing : List Lexeme → Bool
  | .word w :: _ => closingWords.contains w
  | _ => false

mutual

/-- The parts up to a tag that ends them, or up to the end, and the rest.  The fuel bounds the depth
of the descent. -/
def parts? : Nat → List Piece → Option (List Template × List Piece)
  | 0, _ => none
  | _ + 1, [] => some ([], [])
  | fuel + 1, .text cs :: ps => (parts? fuel ps).map fun (qs, rest) => (text cs :: qs, rest)
  | fuel + 1, .output ts :: ps => (Expression.ofLexemes? ts).bind fun e =>
    (parts? fuel ps).map fun (qs, rest) => (output e :: qs, rest)
  | fuel + 1, .control ts :: ps =>
    if isClosing ts then some ([], .control ts :: ps)
    else match ts with
      | .word "if" :: ts => (branch? fuel ts ps).bind fun (q, rest) =>
        (parts? fuel rest).map fun (qs, rest) => (q :: qs, rest)
      | .word "for" :: .word x :: .word "in" :: ts => (loop? fuel x ts ps).bind fun (q, rest) =>
        (parts? fuel rest).map fun (qs, rest) => (q :: qs, rest)
      | _ => none

/-- A condition, given the tokens of its expression and what follows the tag. -/
def branch? : Nat → List Lexeme → List Piece → Option (Template × List Piece)
  | 0, _, _ => none
  | fuel + 1, ts, ps => do
    let e ← Expression.ofLexemes? ts
    let (yes, rest) ← parts? fuel ps
    match rest with
    | .control [.word "endif"] :: rest => some (branch e yes [], rest)
    | .control (.word "elif" :: ts) :: rest =>
      (branch? fuel ts rest).map fun (q, rest) => (branch e yes [q], rest)
    | .control [.word "else"] :: rest => do
      let (no, rest) ← parts? fuel rest
      match rest with
      | .control [.word "endif"] :: rest => some (branch e yes no, rest)
      | _ => none
    | _ => none

/-- A loop, given the name it binds, the tokens of its expression and what follows the tag. -/
def loop? : Nat → String → List Lexeme → List Piece → Option (Template × List Piece)
  | 0, _, _, _ => none
  | fuel + 1, x, ts, ps => do
    if reservedNames.contains x then none
    let e ← Expression.ofLexemes? ts
    let (body, rest) ← parts? fuel ps
    match rest with
    | .control [.word "endfor"] :: rest => some (loop x e body [], rest)
    | .control [.word "else"] :: rest => do
      let (otherwise, rest) ← parts? fuel rest
      match rest with
      | .control [.word "endfor"] :: rest => some (loop x e body otherwise, rest)
      | _ => none
    | _ => none

end

/-- A text without its last character, if that is `c`. -/
def dropLastIf (c : Char) (cs : List Char) : List Char :=
  if cs.getLast? = some c then cs.dropLast else cs

/-- The parts of a template text.  A line end at its very end does not belong to it. -/
def ofText? (s : String) : Option (List Template) := do
  let pieces ← Piece.read? (dropLastIf '\r' (dropLastIf '\n' s.toList))
  match parts? (2 * pieces.length + 2) pieces with
  | some (parts, []) => some parts
  | _ => none

end Template

end RpcBindings
