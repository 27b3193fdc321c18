import RpcBindings.Source.Grammar

/-!
# Files

A Java file: its path, its text and its syntax tree.

## Main definitions

* `Node.ofText?` — the syntax tree of a text.
* `File`, `File.ofText?` — a file that has a syntax tree.
-/

namespace RpcBindings.Source

/-- How deep a rule can descend between two tokens. -/
def descentPerToken : Nat := 1000

/-- The syntax tree of a text, or nothing if the text does not follow the grammar.  Comments after
the last declaration are children of the root, and an empty leaf keeps the blanks at the end. -/
def Node.ofText? (cs : List Char) : Option Node := do
  let tokens ← Token.scan? cs
  let fuel := descentPerToken * (tokens.length + 1)
  let (nodes, rest) ← Rule.run? grammar fuel (.many (.ref .topLevel)) [] tokens
  let (comments, rest) := Terminal.comments rest
  match rest with
  | [t] =>
    if t.lexeme == .finish then some (Node.branch .program (nodes ++ comments ++ [t.leaf none]))
    else none
  | _ => none

/-- A Java file.  The path is relative to the checkout and serves messages and links. -/
structure File where
  path : String
  text : String
  root : Node

/-- The file of a path and a text, if the text follows the grammar. -/
def File.ofText? (path text : String) : Option File :=
  (Node.ofText? text.toList).map fun root => ⟨path, text, root⟩

end RpcBindings.Source
