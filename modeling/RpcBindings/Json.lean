import RpcBindings.Text.Basic

/-!
# JSON

JSON values whose objects keep the order of their members.

## Main definitions

* `Json` — the values.
* `Json.pretty` — the text of a value with a line for each member.
-/

namespace RpcBindings

/-- A JSON value. -/
inductive Json
  | null
  | bool (b : Bool)
  | number (n : Nat)
  | string (s : String)
  | array (items : List Json)
  | object (members : List (String × Json))
  deriving Repr

namespace Json

/-- How one character is written between quotes. -/
def escape : Char → List Char
  | '"' => ['\\', '"']
  | '\\' => ['\\', '\\']
  | '\x08' => ['\\', 'b']
  | '\t' => ['\\', 't']
  | '\n' => ['\\', 'n']
  | '\x0c' => ['\\', 'f']
  | '\r' => ['\\', 'r']
  | c =>
    if c.toNat < 0x20 then
      ['\\', 'u', '0', '0', Nat.digitChar (c.toNat / 16), Nat.digitChar (c.toNat % 16)]
    else [c]

/-- A text in quotes. -/
def quote (s : String) : String :=
  Text.through (fun cs => '"' :: cs.flatMap escape ++ ['"']) s

/-- A line end and the indentation of the next line. -/
def newline (depth : Nat) : String :=
  "\n" ++ String.ofList (List.replicate (2 * depth) ' ')

/-- Members between brackets, each on a line of its own. -/
def bracketed (depth : Nat) (left right : String) (members : List String) : String :=
  if members.isEmpty then left ++ right
  else
    left ++ newline (depth + 1) ++ ("," ++ newline (depth + 1)).intercalate members ++
      newline depth ++ right

mutual

/-- The text of a value at a depth of nesting. -/
def prettyAt (depth : Nat) : Json → String
  | null => "null"
  | bool b => if b then "true" else "false"
  | number n => toString n
  | string s => quote s
  | array items => bracketed depth "[" "]" (prettyItems (depth + 1) items)
  | object members => bracketed depth "\x7b" "\x7d" (prettyMembers (depth + 1) members)

/-- The texts of the items of an array. -/
def prettyItems (depth : Nat) : List Json → List String
  | [] => []
  | j :: js => prettyAt depth j :: prettyItems depth js

/-- The texts of the members of an object. -/
def prettyMembers (depth : Nat) : List (String × Json) → List String
  | [] => []
  | (k, j) :: ms => (quote k ++ ": " ++ prettyAt depth j) :: prettyMembers depth ms

end

/-- The text of a value with a line for each member. -/
def pretty (j : Json) : String :=
  prettyAt 0 j

end Json

end RpcBindings
