import RpcBindings.Text.Blank

/-!
# Lines

A text as a list of lines.  A line ends with a line feed, which a carriage return may precede; the
text after the last line feed is a line unless it is empty.

## Main definitions

* `lines` — the lines without their ends.
* `indent` — every line that is not empty, moved to the right.
* `excerpt` — the first line, trimmed and cut to at most 80 characters.
-/

namespace RpcBindings.Text

/-- A line without the carriage return that precedes its line feed. -/
def dropReturn (line : List Char) : List Char :=
  match line.reverse with
  | '\r' :: cs => cs.reverse
  | _ => line

/-- The lines among the pieces between line feeds. -/
def linesOfPieces : List (List Char) → List (List Char)
  | [] => []
  | [last] => if last.isEmpty then [] else [last]
  | piece :: rest => dropReturn piece :: linesOfPieces rest

/-- The lines of a text, without their ends. -/
def lines (cs : List Char) : List (List Char) :=
  linesOfPieces (splitOn '\n' cs)

/-- Every line that is not empty moves `width` columns to the right. -/
def indent (width : Nat) (cs : List Char) : List Char :=
  join ['\n'] <| (lines cs).map fun line =>
    if line.isEmpty then [] else List.replicate width ' ' ++ line

/-- The most characters of an excerpt. -/
def excerptWidth : Nat := 80

/-- The first line of a text without its outer blanks; a long one ends in three dots. -/
def excerpt (cs : List Char) : List Char :=
  let line := trim ((lines cs).headD [])
  if line.length > excerptWidth then line.take (excerptWidth - 3) ++ ['.', '.', '.'] else line

end RpcBindings.Text
