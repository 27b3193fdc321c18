import RpcBindings.Source.Node

/-!
# Outlines

A syntax tree as an S-expression of the kinds of its nodes.
-/

namespace RpcBindings.Source.Node

/-- The role of a node in front of its outline. -/
def roleTag (n : Node) : String :=
  match n.role with
  | some r => r.label ++ ": "
  | none => ""

mutual

/-- The outline of a node: its kind and the outlines of its named children. -/
def outline : Node → String
  | leaf _ _ (some k) _ _ => "(" ++ k.name ++ ")"
  | leaf _ _ none _ _ => ""
  | tree _ _ k _ cs => "(" ++ k.name ++ outlines cs ++ ")"

/-- The outlines of the named nodes, each after a space and its role. -/
def outlines : List Node → String
  | [] => ""
  | c :: cs => (if c.isNamed then " " ++ roleTag c ++ outline c else "") ++ outlines cs

end

end RpcBindings.Source.Node
