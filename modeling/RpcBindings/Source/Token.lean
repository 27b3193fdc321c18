import RpcBindings.Source.Kind
import RpcBindings.Text.Digits
import RpcBindings.Text.Identifier

/-!
# Tokens

The lexical structure of a Java file.  Tokens keep the blanks in front of them, so that a file is
the sequence of its tokens.

## Main definitions

* `Token` — a token with the blanks before it and its line.
* `Token.scan?` — the tokens of a text, if it has a lexical structure.
-/

namespace RpcBindings.Source

open Text

/-- What a token is to the grammar. -/
inductive Lexeme
  /-- An identifier or a keyword. -/
  | word
  /-- A number or a character, which is a node of the given kind. -/
  | literal (kind : Kind)
  /-- A string literal in double quotes. -/
  | string
  /-- A text block in triple quotes. -/
  | textBlock
  /-- An operator or a separator. -/
  | symbol
  /-- A comment of the given kind. -/
  | comment (kind : Kind)
  /-- The end of the file. -/
  | finish
  deriving DecidableEq, Repr

/-- A token: the blanks before it, the line on which it starts (from one), and its text. -/
structure Token where
  gap : List Char
  line : Nat
  lexeme : Lexeme
  text : List Char
  deriving DecidableEq, Repr

namespace Token

/-- The characters that separate tokens. -/
def isGap (c : Char) : Bool :=
  c == ' ' || (9 ≤ c.toNat && c.toNat ≤ 13)

/-- The characters that start a word. -/
def startsWord (c : Char) : Bool :=
  Identifier.isStart c || c == '_' || c == '$'

/-- The characters that continue a word. -/
def continuesWord (c : Char) : Bool :=
  Identifier.isContinue c || c == '$' || c == '¢'

/-- The digits of a number with separators between them. -/
def digits (cs : List Char) : List Char × List Char :=
  cs.span fun c => c.isDigit || c == '_'

/-- An exponent at the start of a text, introduced by one of two letters. -/
def exponent (small large : Char) (cs : List Char) : List Char × List Char :=
  match cs with
  | e :: rest =>
    if e == small || e == large then
      let (sign, tail) := match rest with
        | '+' :: t => (['+'], t)
        | '-' :: t => (['-'], t)
        | t => ([], t)
      match digits tail with
      | ([], _) => ([], cs)
      | (ds, after) => (e :: sign ++ ds, after)
    else ([], cs)
  | [] => ([], cs)

/-- One of the given letters at the start of a text. -/
def suffixLetter (letters : List Char) (cs : List Char) : List Char × List Char :=
  match cs with
  | c :: rest => if letters.contains c then ([c], rest) else ([], cs)
  | [] => ([], [])

/-- A number in base sixteen after its `0x`. -/
def hexNumber (mark : List Char) (cs : List Char) : Kind × List Char × List Char :=
  let isDigitOrGap := fun c => isHexDigit c || c == '_'
  let (whole, rest) := cs.span isDigitOrGap
  let (point, rest) := match rest with
    | '.' :: t => let (fraction, after) := t.span isDigitOrGap; ('.' :: fraction, after)
    | t => ([], t)
  let (power, rest) := exponent 'p' 'P' rest
  if point.isEmpty && power.isEmpty then
    let (ending, rest) := suffixLetter ['l', 'L'] rest
    (.hexIntegerLiteral, mark ++ whole ++ ending, rest)
  else
    let (ending, rest) := suffixLetter ['f', 'F', 'd', 'D'] rest
    (.hexFloatingPointLiteral, mark ++ whole ++ point ++ power ++ ending, rest)

/-- A number in base ten or eight. -/
def plainNumber (cs : List Char) : Kind × List Char × List Char :=
  let (whole, rest) := digits cs
  let (point, rest) := match rest with
    | '.' :: t => let (fraction, after) := digits t; ('.' :: fraction, after)
    | t => ([], t)
  let (power, rest) := exponent 'e' 'E' rest
  let (ending, after) := suffixLetter ['f', 'F', 'd', 'D'] rest
  if point.isEmpty && power.isEmpty && ending.isEmpty then
    let (ending, after) := suffixLetter ['l', 'L'] rest
    let kind := match whole with
      | '0' :: _ :: _ => .octalIntegerLiteral
      | _ => .decimalIntegerLiteral
    (kind, whole ++ ending, after)
  else (.decimalFloatingPointLiteral, whole ++ point ++ power ++ ending, after)

/-- A number at the start of a text: its kind, its text and the rest. -/
def number (cs : List Char) : Kind × List Char × List Char :=
  match cs with
  | '0' :: 'x' :: rest => hexNumber ['0', 'x'] rest
  | '0' :: 'X' :: rest => hexNumber ['0', 'X'] rest
  | '0' :: b :: rest =>
    if b == 'b' || b == 'B' then
      let (whole, rest) := digits rest
      let (ending, rest) := suffixLetter ['l', 'L'] rest
      (.binaryIntegerLiteral, '0' :: b :: whole ++ ending, rest)
    else plainNumber cs
  | _ => plainNumber cs

/-- The rest of a literal after its opening quote, up to and with its closing quote.  A backslash
takes the next character with it. -/
def untilQuote? (quote : Char) : List Char → Option (List Char × List Char)
  | [] => none
  | '\\' :: c :: cs => (untilQuote? quote cs).map fun (text, rest) => ('\\' :: c :: text, rest)
  | c :: cs =>
    if c == quote then some ([c], cs)
    else (untilQuote? quote cs).map fun (text, rest) => (c :: text, rest)

/-- The rest of a text block after its opening quotes, up to and with its closing quotes. -/
def untilFence? : List Char → Option (List Char × List Char)
  | [] => none
  | '\\' :: c :: cs => (untilFence? cs).map fun (text, rest) => ('\\' :: c :: text, rest)
  | '"' :: '"' :: '"' :: cs => some (['"', '"', '"'], cs)
  | c :: cs => (untilFence? cs).map fun (text, rest) => (c :: text, rest)

/-- The rest of a block comment after its opening, up to and with its end. -/
def untilCommentEnd? : List Char → Option (List Char × List Char)
  | [] => none
  | '*' :: '/' :: cs => some (['*', '/'], cs)
  | c :: cs => (untilCommentEnd? cs).map fun (text, rest) => (c :: text, rest)

/-- The operators and separators of more than one character, longer ones first.  A `>` that closes
type arguments is a token of its own, so that `>>` is none. -/
def longSymbols : List String :=
  ["<<=", "...", "->", "::", "++", "--", "&&", "||", "==", "!=", "<=", ">=", "<<", "+=", "-=",
   "*=", "/=", "&=", "|=", "^=", "%="]

/-- The operators and separators of one character. -/
def shortSymbols : List Char :=
  ['(', ')', '\x7b', '\x7d', '[', ']', ';', ',', '.', '@', '=', '<', '>', '!', '~', '?', ':', '+',
   '-', '*', '/', '&', '|', '^', '%']

/-- An operator or separator at the start of a text. -/
def symbol? (cs : List Char) : Option (List Char × List Char) :=
  match longSymbols.find? fun s => s.toList.isPrefixOf cs with
  | some s => some (s.toList, cs.drop s.length)
  | none => match cs with
    | c :: rest => if shortSymbols.contains c then some ([c], rest) else none
    | [] => none

/-- Whether a number starts here. -/
def startsNumber : List Char → Bool
  | '.' :: c :: _ => c.isDigit
  | c :: _ => c.isDigit
  | [] => false

/-- The mark of an annotation type. -/
def annotationTypeMark : List Char := "@interface".toList

/-- The token at the start of a text that starts with no blank: what it is, its text, the rest. -/
def lexeme? (cs : List Char) : Option (Lexeme × List Char × List Char) :=
  match cs with
  | [] => none
  | '/' :: '/' :: _ =>
    let (text, rest) := cs.span fun c => c != '\n'
    some (.comment .lineComment, text, rest)
  | '/' :: '*' :: rest =>
    (untilCommentEnd? rest).map fun (text, after) =>
      (.comment .blockComment, '/' :: '*' :: text, after)
  | '"' :: '"' :: '"' :: rest =>
    (untilFence? rest).map fun (text, after) => (.textBlock, '"' :: '"' :: '"' :: text, after)
  | '"' :: rest => (untilQuote? '"' rest).map fun (text, after) => (.string, '"' :: text, after)
  | '\'' :: rest =>
    (untilQuote? '\'' rest).bind fun (text, after) =>
      if text.length < 2 then none
      else some (.literal .characterLiteral, '\'' :: text, after)
  | c :: _ =>
    if startsWord c then
      let (text, rest) := cs.span continuesWord
      some (.word, text, rest)
    else if startsNumber cs then
      let (kind, text, rest) := number cs
      some (.literal kind, text, rest)
    else if annotationTypeMark.isPrefixOf cs then
      some (.symbol, annotationTypeMark, cs.drop annotationTypeMark.length)
    else (symbol? cs).map fun (text, rest) => (.symbol, text, rest)

/-- How many line feeds a text has. -/
def lineFeeds (cs : List Char) : Nat :=
  cs.count '\n'

/-- The tokens of a text that starts on the given line; the last one is the end of the file.  Each
token takes at least one character, so that the length of the text bounds their number. -/
def scanFrom? : Nat → Nat → List Char → Option (List Token)
  | 0, _, _ => none
  | fuel + 1, line, cs =>
    let (gap, rest) := cs.span isGap
    let start := line + lineFeeds gap
    match rest with
    | [] => some [⟨gap, start, .finish, []⟩]
    | _ => do
      let (lexeme, text, after) ← lexeme? rest
      let tokens ← scanFrom? fuel (start + lineFeeds text) after
      return ⟨gap, start, lexeme, text⟩ :: tokens

/-- The mark that may stand at the start of a file in place of a blank. -/
def byteOrderMark : Char := '\ufeff'

/-- The tokens of a text, or nothing if some part of it is no token. -/
def scan? (cs : List Char) : Option (List Token) :=
  match cs with
  | c :: rest =>
    if c = byteOrderMark then
      match scanFrom? (cs.length + 1) 1 rest with
      | some (t :: ts) => some ({ t with gap := c :: t.gap } :: ts)
      | other => other
    else scanFrom? (cs.length + 1) 1 cs
  | [] => scanFrom? 1 1 []

end Token

end RpcBindings.Source
