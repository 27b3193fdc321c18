/-!
# Located characters

In a YAML text the column of a character decides about the structure, so a text is read as a list of
characters that know where they stand.

## Main definitions

* `Spot` — a character with its place.
* `Spot.ofText?` — the located characters of a text.
* `atBreak`, `atMarker` — what a position of a text is.
-/

namespace RpcBindings.Yaml

/-- A character with its place; lines and columns count from zero. -/
structure Spot where
  char : Char
  line : Nat
  column : Nat
  /-- The number of characters in front of it. -/
  offset : Nat
  deriving DecidableEq, Repr

/-- Whether a character separates words on a line. -/
def isSpace (c : Char) : Bool :=
  c == ' ' || c == '\t'

/-- Whether a character ends a line. -/
def isBreak (c : Char) : Bool :=
  c == '\n' || c == '\u2028' || c == '\u2029'

/-- Whether a character may stand in a YAML text. -/
def isAllowed (c : Char) : Bool :=
  let n := c.toNat
  n == 9 || n == 10 || n == 13 || (0x20 ≤ n && n ≤ 0x7E) || n == 0x85 ||
    (0xA0 ≤ n && n ≤ 0xFFFD) || 0x10000 ≤ n

/-- The text with a line feed for each end of a line; the Unicode line separators stay. -/
def unifyBreaks : List Char → List Char
  | '\r' :: '\n' :: cs => '\n' :: unifyBreaks cs
  | c :: cs => (if c == '\r' || c == '\u0085' then '\n' else c) :: unifyBreaks cs
  | [] => []

namespace Spot

/-- The located characters of a text that starts at the given place. -/
def locate (line column offset : Nat) : List Char → List Spot
  | [] => []
  | c :: cs =>
    ⟨c, line, column, offset⟩ ::
      if isBreak c then locate (line + 1) 0 (offset + 1) cs
      else locate line (column + 1) (offset + 1) cs

/-- The located characters of a text, or nothing if the text holds a character that must not stand
there.  A byte order mark at its start does not belong to it. -/
def ofText? (cs : List Char) : Option (List Spot) :=
  let body := match cs with
    | '\uFEFF' :: rest => rest
    | cs => cs
  if body.all isAllowed then some (locate 0 0 0 (unifyBreaks body)) else none

end Spot

/-- The text of located characters. -/
def textOf (ss : List Spot) : List Char :=
  ss.map Spot.char

/-- Whether a word cannot go on: at a space, at the end of a line, and at the end of the text. -/
def atBreak : List Spot → Bool
  | [] => true
  | s :: _ => isSpace s.char || isBreak s.char

/-- Whether three times the character `c` stands at the start of a line as a word of its own. -/
def atMarker (c : Char) : List Spot → Bool
  | a :: b :: d :: rest =>
    a.column == 0 && a.char == c && b.char == c && d.char == c && atBreak rest
  | _ => false

/-- Whether a document starts or ends here. -/
def atDocument (ss : List Spot) : Bool :=
  atMarker '-' ss || atMarker '.' ss

end RpcBindings.Yaml
