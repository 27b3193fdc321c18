import RpcBindings.Source.Position
import RpcBindings.Text.Blank

/-!
# Method calls

A call as its receiver, its name and its arguments, and the calls that are chained onto it.

## Main definitions

* `Call`, `Call.ofNode?` — the parts of a call.
* `Position.chain` — the calls chained onto the call at a position.
-/

namespace RpcBindings.Source

open Text

/-- A method call. -/
structure Call where
  node : Node
  /-- The expression the method is called on, if there is one. -/
  receiver : Option Node
  name : String
  arguments : List Node

namespace Call

/-- The parts of a node that is a method call. -/
def ofNode? (n : Node) : Option Call :=
  if n.is .methodInvocation then
    n.name?.map fun name =>
      { node := n
        receiver := n.child? .object
        name
        arguments := ((n.child? .arguments).map Node.members).getD [] }
  else none

/-- Whether the receiver is the identifier `name`. -/
def isOn (c : Call) (name : String) : Bool :=
  c.receiver.any fun r => r.is .identifier && r.word == name

/-- The arguments as they are written, with a comma between each two and single spaces. -/
def argumentsText (c : Call) : List Char :=
  collapse (join [',', ' '] (c.arguments.map Node.text))

end Call

/-- Whether a node is a call of the method `name`. -/
def Node.isCallOf (n : Node) (name : String) : Bool :=
  n.is .methodInvocation && n.name? == some name

/-- Whether the child at the index of a step is the receiver of a call. -/
def Step.fromReceiver (s : Step) : Bool :=
  s.parent.is .methodInvocation &&
    s.parent.children.findIdx? (fun c => c.role == some .object) == some s.index

/-- The calls along the steps up to the root, as long as each call has the one before it as its
receiver. -/
def chainAlong : List Step → List Call
  | [] => []
  | s :: ss =>
    if s.fromReceiver then
      match Call.ofNode? s.parent with
      | some call => call :: chainAlong ss
      | none => []
    else []

/-- The calls chained onto the node at a position, the innermost first. -/
def Position.chain (p : Position) : List Call :=
  chainAlong p.above

end RpcBindings.Source
