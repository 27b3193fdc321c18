import RpcBindings.Template.Lexeme
import RpcBindings.Text.Blank

/-!
# Pieces of templates

A template is text with tags in it: `{{ … }}` is printed, `{% … %}` controls the layout, and
`{# … #}` is a comment.  A minus sign at the inner side of a tag drops the blanks
on the outer side.

## Main definitions

* `Piece` — text or a tag.
* `Piece.read?` — the pieces of a template.
-/

namespace RpcBindings.Template

open Text

/-- A piece of a template. -/
inductive Piece
  | text (cs : List Char)
  /-- A tag whose expression is printed. -/
  | output (ts : List Lexeme)
  /-- A tag that controls the layout. -/
  | control (ts : List Lexeme)
  deriving DecidableEq, Repr

namespace Piece

/-- The kinds of tags. -/
inductive Opening
  | output
  | control
  | comment
  deriving DecidableEq, Repr

/-- The text in front of the first tag, and the tag with what follows its opening. -/
def untilTag : List Char → List Char × Option (Opening × List Char)
  | '\x7b' :: '\x7b' :: cs => ([], some (.output, cs))
  | '\x7b' :: '%' :: cs => ([], some (.control, cs))
  | '\x7b' :: '#' :: cs => ([], some (.comment, cs))
  | c :: cs => let (lead, tag) := untilTag cs; (c :: lead, tag)
  | [] => ([], none)

/-- Whether the blanks in front of a tag are dropped, and what follows the sign that says so. -/
def opensTrimming : List Char → Bool × List Char
  | '-' :: cs => (true, cs)
  | '+' :: cs => (false, cs)
  | cs => (false, cs)

/-- The end of a control tag. -/
def controlEnd : List Char := ['%', '\x7d']

/-- The end of an output tag. -/
def outputEnd : List Char := ['\x7d', '\x7d']

/-- If a control tag, whose opening has been read, holds just the word: whether the blanks behind
the tag are dropped, and what follows the tag. -/
def bareTag? (word : String) (cs : List Char) : Option (Bool × List Char) :=
  let here := cs.dropWhile Lexeme.isGap
  if word.toList.isPrefixOf here then
    Lexeme.tagEnd? controlEnd ((here.drop word.length).dropWhile Lexeme.isGap)
  else none

/-- The text up to the tag `endraw`, whether the blanks in front of that tag and behind it are
dropped, and what follows it. -/
def rawText? : List Char → Option (List Char × Bool × Bool × List Char)
  | '\x7b' :: '%' :: cs =>
    let (before, inner) := opensTrimming cs
    match bareTag? "endraw" inner with
    | some (behind, rest) => some ([], before, behind, rest)
    | none => (rawText? ('%' :: cs)).map fun (lead, after) => ('\x7b' :: lead, after)
  | c :: cs => (rawText? cs).map fun (lead, after) => (c :: lead, after)
  | [] => none

/-- What follows a comment, whose opening has been read, and whether the blanks behind the comment
are dropped.  `last` is the character before. -/
def commentEnd? (last : Char) : List Char → Option (Bool × List Char)
  | '#' :: '\x7d' :: cs => some (last == '-', cs)
  | c :: cs => commentEnd? c cs
  | [] => none

/-- A text without the blanks at its end, if they are to be dropped. -/
def trimEndIf (b : Bool) (cs : List Char) : List Char :=
  if b then trimEnd cs else cs

/-- A text without the blanks at its start, if they are to be dropped. -/
def trimStartIf (b : Bool) (cs : List Char) : List Char :=
  if b then trimStart cs else cs

/-- The pieces of the rest of a template; `trims` says whether its first blanks are dropped.  The
fuel bounds the number of tags. -/
def readFrom? : Nat → Bool → List Char → Option (List Piece)
  | 0, _, _ => none
  | fuel + 1, trims, cs =>
    match untilTag (trimStartIf trims cs) with
    | (lead, none) => some [text lead]
    | (lead, some (opening, after)) =>
      let (before, inner) := opensTrimming after
      let lead := text (trimEndIf before lead)
      match opening with
      | .comment => (commentEnd? ' ' inner).bind fun (behind, rest) =>
        (readFrom? fuel behind rest).map fun ps => lead :: ps
      | .output => (Lexeme.read? outputEnd inner).bind fun (ts, behind, rest) =>
        (readFrom? fuel behind rest).map fun ps => lead :: output ts :: ps
      | .control => match bareTag? "raw" inner with
        | some (first, body) => (rawText? body).bind fun (raw, last, behind, rest) =>
          (readFrom? fuel behind rest).map fun ps =>
            lead :: text (trimEndIf last (trimStartIf first raw)) :: ps
        | none => (Lexeme.read? controlEnd inner).bind fun (ts, behind, rest) =>
          (readFrom? fuel behind rest).map fun ps => lead :: control ts :: ps

/-- The pieces of a template, or nothing if a tag is not closed or holds what is no token. -/
def read? (cs : List Char) : Option (List Piece) :=
  readFrom? (cs.length + 1) false cs

end Piece

end RpcBindings.Template
