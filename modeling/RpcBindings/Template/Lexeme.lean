import RpcBindings.Text.Identifier
import RpcBindings.Text.Digits

/-!
# Lexemes of templates

The words, numbers, texts and symbols inside of a tag.

## Main definitions

* `Lexeme` — the tokens.
* `Lexeme.read?` — the tokens up to the end of a tag, and what follows the tag.
-/

namespace RpcBindings.Template

open Text

/-- A token inside of a tag. -/
inductive Lexeme
  | word (s : String)
  | number (n : Nat)
  | text (s : String)
  | symbol (s : String)
  deriving DecidableEq, Repr

namespace Lexeme

/-- The blanks that may stand between tokens. -/
def isGap (c : Char) : Bool :=
  c == ' ' || c == '\t' || c == '\n' || c == '\r' || c == '\x0c'

/-- A code point that is written as four hexadecimal digits. -/
def fourDigits? : List Char → Option (Nat × List Char)
  | a :: b :: c :: d :: cs =>
    (number? 16 [a, b, c, d]).map fun n => (n, cs)
  | _ => none

/-- The character of an escape, given the text after its backslash, and the rest of the text.  A
character outside of the basic plane is written as a pair of surrogates. -/
def escaped? : List Char → Option (Char × List Char)
  | 'b' :: cs => some ('\x08', cs)
  | 'f' :: cs => some ('\x0c', cs)
  | 'n' :: cs => some ('\n', cs)
  | 'r' :: cs => some ('\r', cs)
  | 't' :: cs => some ('\t', cs)
  | 'u' :: cs => do
    let (high, rest) ← fourDigits? cs
    if 0xD800 ≤ high ∧ high < 0xDC00 then
      match rest with
      | '\\' :: 'u' :: rest => do
        let (low, rest) ← fourDigits? rest
        if 0xDC00 ≤ low ∧ low < 0xE000 then
          some (Char.ofNat (0x10000 + (high - 0xD800) * 0x400 + (low - 0xDC00)), rest)
        else none
      | _ => none
    else if 0xDC00 ≤ high ∧ high < 0xE000 then none
    else some (Char.ofNat high, rest)
  | c :: cs => if c == '"' || c == '\\' || c == '/' || c == '\'' then some (c, cs) else none
  | [] => none

/-- The text up to its closing quote, and what follows the quote.  The fuel bounds the number of
characters. -/
def textUpTo? (quote : Char) : Nat → List Char → Option (List Char × List Char)
  | 0, _ => none
  | _, [] => none
  | fuel + 1, c :: cs =>
    if c = quote then some ([], cs)
    else if c = '\\' then
      (escaped? cs).bind fun (d, rest) =>
        (textUpTo? quote fuel rest).map fun (ds, after) => (d :: ds, after)
    else (textUpTo? quote fuel cs).map fun (ds, after) => (c :: ds, after)

/-- The symbols, longer ones in front of their beginnings. -/
def symbols : List String :=
  ["//", "**", "==", "!=", ">=", "<=", "+", "-", "*", "/", "%", "(", ")", "[", "]", "\x7b", "\x7d",
   ",", ".", ":", "|", "~", "=", ">", "<"]

/-- The token at the start of a text, and the rest of the text. -/
def scan? : List Char → Option (Lexeme × List Char)
  | [] => none
  | c :: cs =>
    if Identifier.isAsciiStart c then
      let (w, rest) := (c :: cs).span Identifier.isAsciiContinue
      some (.word (String.ofList w), rest)
    else if c.isDigit then
      let (ds, rest) := (c :: cs).span Char.isDigit
      (number? 10 ds).map fun n => (.number n, rest)
    else if c = '"' ∨ c = '\'' then
      (textUpTo? c (cs.length + 1) cs).map fun (t, rest) => (.text (String.ofList t), rest)
    else
      (symbols.find? fun s => s.toList.isPrefixOf (c :: cs)).map fun s =>
        (.symbol s, (c :: cs).drop s.length)

/-- Whether the blanks behind a tag are dropped, and what follows the tag, if the text starts with
the given end of a tag. -/
def tagEnd? (close cs : List Char) : Option (Bool × List Char) :=
  if close.isPrefixOf cs then some (false, cs.drop close.length)
  else match cs with
    | c :: rest =>
      if (c == '-' || c == '+') && close.isPrefixOf rest then
        some (c == '-', rest.drop close.length)
      else none
    | [] => none

/-- The tokens up to the end of a tag, whether the blanks behind the tag are dropped, and what
follows the tag.  The fuel bounds the number of tokens. -/
def readFrom? (close : List Char) : Nat → List Char → Option (List Lexeme × Bool × List Char)
  | 0, _ => none
  | fuel + 1, cs =>
    let here := cs.dropWhile isGap
    match tagEnd? close here with
    | some (trims, rest) => some ([], trims, rest)
    | none => (scan? here).bind fun (t, rest) =>
      (readFrom? close fuel rest).map fun (ts, after) => (t :: ts, after)

/-- The tokens up to the end of a tag, whether the blanks behind the tag are dropped, and what
follows the tag. -/
def read? (close cs : List Char) : Option (List Lexeme × Bool × List Char) :=
  readFrom? close (cs.length + 1) cs

end Lexeme

end RpcBindings.Template
