/-!
# Python string literals

Text as a double-quoted literal on one line, and as a triple-quoted block.

## Main definitions

* `quote` — a literal in double quotes.
* `quoteLine` — a one-line text in triple quotes.
* `docstring` — a literal in double quotes for a text of one line, a block for a longer text.
-/

namespace RpcBindings.Text.Literal

/-- How one character is written between double quotes. -/
def escape : Char → List Char
  | '\\' => ['\\', '\\']
  | '"' => ['\\', '"']
  | '\n' => ['\\', 'n']
  | '\t' => ['\\', 't']
  | c => [c]

/-- A text as a literal in double quotes. -/
def quote (cs : List Char) : List Char :=
  '"' :: cs.flatMap escape ++ ['"']

/-- The delimiter of a block. -/
def fence : List Char := ['"', '"', '"']

/-- A text between two fences: backslashes are doubled, and three quotes in a row are escaped. -/
def escapeBlock : List Char → List Char
  | '"' :: '"' :: '"' :: cs => ['\\', '"', '\\', '"', '\\', '"'] ++ escapeBlock cs
  | '\\' :: cs => '\\' :: '\\' :: escapeBlock cs
  | c :: cs => c :: escapeBlock cs
  | [] => []

/-- A text of one line in triple quotes. -/
def quoteLine (cs : List Char) : List Char :=
  fence ++ escapeBlock cs ++ fence

/-- A text as a docstring.  A text of several lines stands between fences on their own lines. -/
def docstring (cs : List Char) : List Char :=
  if cs.contains '\n' then fence ++ '\n' :: escapeBlock cs ++ '\n' :: fence else quote cs

end RpcBindings.Text.Literal
