import RpcBindings.Text.Blank

/-!
# Word wrapping

Greedy wrapping that never breaks a word.  A paragraph is laid out at the first of several widths
whose last line is not a short leftover.

## Main definitions

* `wrap` — the lines of a text at a width.
* `rewrap` — the layout at the preferred width.
-/

namespace RpcBindings.Text

/-- The lines that a started line and the words after it fill.  A word that does not fit starts a
new line, after the indentation. -/
def wrapFrom (width : Nat) (hang : List Char) (line : List Char) :
    List (List Char) → List (List Char)
  | [] => [line]
  | w :: ws =>
    if line.length + 1 + w.length > width then line :: wrapFrom width hang (hang ++ w) ws
    else wrapFrom width hang (line ++ ' ' :: w) ws

/-- The lines of a text at a width, which covers the indentation `hang` of the later lines. -/
def wrap (text : List Char) (width : Nat) (hang : List Char) : List (List Char) :=
  match words text with
  | [] => []
  | w :: ws => wrapFrom width hang w ws

/-- The widths of a paragraph, in order of preference. -/
def widths : List Nat := [80, 90, 100, 70]

/-- A last line of at most this many characters is a leftover. -/
def leftover : Nat := 25

/-- Whether the last line is longer than a leftover. -/
def endsWell (ls : List (List Char)) : Bool :=
  ls.getLast?.any fun l => l.length > leftover

/-- The text wrapped at the first width at which no leftover remains, or else at the first width. -/
def rewrap (text : List Char) (hang : List Char) : List Char :=
  let layouts := widths.map fun w => wrap text w hang
  join ['\n'] <| (layouts.find? endsWell).getD (layouts.headD [])

end RpcBindings.Text
