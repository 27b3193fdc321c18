import RpcBindings.Text.Visible.Table

/-!
# Visible quoting

Quoted text for messages: every character that would not leave a mark of its own is written as an
escape, so that a message shows exactly what was found.

## Main definitions

* `isHidden` — the characters that are written as escapes.
* `quote` — a text in double quotes with escapes.
-/

namespace RpcBindings.Text.Visible

open CodePoints

/-- The characters without a mark of their own, the plain space apart. -/
def isHidden (c : Char) : Bool :=
  if c.toNat < 128 then c.toNat < 32 || c.toNat == 127 else inRanges hidden c.toNat

/-- How one character is written between the quotes. -/
def escape (c : Char) : List Char :=
  match c with
  | '"' => ['\\', '"']
  | '\\' => ['\\', '\\']
  | '\n' => ['\\', 'n']
  | '\r' => ['\\', 'r']
  | '\t' => ['\\', 't']
  | '\x00' => ['\\', '0']
  | c =>
    if isHidden c then ['\\', 'u', '\x7b'] ++ Nat.toDigits 16 c.toNat ++ ['\x7d'] else [c]

/-- A text in double quotes, its hidden characters escaped. -/
def quote (cs : List Char) : List Char :=
  '"' :: cs.flatMap escape ++ ['"']

end RpcBindings.Text.Visible
