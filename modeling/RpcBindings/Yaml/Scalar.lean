import RpcBindings.Text.Digits
import RpcBindings.Yaml.Spot

/-!
# Scalars

The text of a plain, quoted or block scalar.  Within a scalar that spans several lines, a single
line end stands for a space, and `n + 1` line ends stand for `n`.

## Main definitions

* `Pause` — the blanks and line ends between two words.
* `plainFrom?`, `doubleFrom?`, `singleFrom?`, `block?` — the text of a scalar and what follows it.
-/

namespace RpcBindings.Yaml

open Text

/-- The blanks and line ends between two words. -/
inductive Pause
  /-- Blanks on one line. -/
  | spaces (cs : List Char)
  /-- A line end, if it counts, and those after it. -/
  | breaks (first : List Char) (more : List Char)
  deriving DecidableEq, Repr

namespace Pause

/-- Whether a line has ended. -/
def isBreak : Pause → Bool
  | spaces _ => false
  | breaks .. => true

/-- The pause with another blank; a blank at the start of a line does not count. -/
def addSpace (c : Char) : Pause → Pause
  | spaces cs => spaces (cs ++ [c])
  | breaks first more => breaks first more

/-- The pause with another line end, which makes the blanks in front of it void. -/
def addBreak (c : Char) : Pause → Pause
  | spaces _ => breaks [c] []
  | breaks first more => breaks first (more ++ [c])

/-- What a pause between two words stands for. -/
def fold : Pause → List Char
  | spaces cs => cs
  | breaks ['\n'] [] => [' ']
  | breaks ['\n'] more => more
  | breaks first more => first ++ more

end Pause

/-! ### Plain scalars -/

/-- The characters that end a plain scalar inside of brackets. -/
def flowMarks : List Char :=
  [',', '[', ']', '\x7b', '\x7d']

/-- Whether a colon follows that cannot belong to a plain scalar inside of brackets. -/
def misplacedColon : List Spot → Bool
  | a :: b :: _ => a.char == ':' && (b.char == '?' || flowMarks.contains b.char)
  | _ => false

/-- Whether a plain scalar ends although no blank stands here. -/
def endsPlain (inFlow : Bool) : List Spot → Bool
  | [] => true
  | s :: rest => (s.char == ':' && atBreak rest) || (inFlow && flowMarks.contains s.char)

/-- The rest of a plain scalar after a pause, whether a line end follows it, and what comes then.
Outside of brackets its lines are indented by `indent` at least. -/
def plainFrom? (inFlow : Bool) (indent : Nat) :
    Pause → List Spot → Option (List Char × Bool × List Spot)
  | p, [] => some ([], p.isBreak, [])
  | p, s :: rest =>
    if isSpace s.char then
      if p.isBreak && s.char == '\t' && s.column < indent then none
      else plainFrom? inFlow indent (p.addSpace s.char) rest
    else if isBreak s.char then plainFrom? inFlow indent (p.addBreak s.char) rest
    else if p.isBreak && ((!inFlow && s.column < indent) || atDocument (s :: rest)) then
      some ([], true, s :: rest)
    else if s.char == '#' && p != .spaces [] then some ([], p.isBreak, s :: rest)
    else if inFlow && misplacedColon (s :: rest) then none
    else if endsPlain inFlow (s :: rest) then some ([], p.isBreak, s :: rest)
    else
      (plainFrom? inFlow indent (.spaces []) rest).map fun (cs, after) =>
        (p.fold ++ s.char :: cs, after)

/-! ### Quoted scalars -/

/-- The characters that one letter after a backslash stands for. -/
def escapes : List (Char × Char) :=
  [('0', '\x00'), ('a', '\x07'), ('b', '\x08'), ('t', '\t'), ('\t', '\t'), ('n', '\n'),
   ('v', '\x0b'), ('f', '\x0c'), ('r', '\r'), ('e', '\x1b'), (' ', ' '), ('"', '"'), ('/', '/'),
   ('\\', '\\'), ('N', '\u0085'), ('_', '\u00a0'), ('L', '\u2028'), ('P', '\u2029')]

/-- How many hexadecimal digits follow a letter after a backslash. -/
def digitCount? : Char → Option Nat
  | 'x' => some 2
  | 'u' => some 4
  | 'U' => some 8
  | _ => none

/-- The character of an escape, given the text after its backslash, and the length of that text. -/
def escape? : List Char → Option (Char × Nat)
  | [] => none
  | c :: cs => match escapes.lookup c with
    | some d => some (d, 1)
    | none => do
      let count ← digitCount? c
      let digits := cs.take count
      let n ← number? 16 digits
      if digits.length = count ∧ n.isValidChar then some (Char.ofNat n, count + 1) else none

/-- The rest of a scalar in double quotes after a pause, and what follows the closing quote; `skip`
characters of an escape are still to be passed over. -/
def doubleFrom? : Nat → Pause → List Spot → Option (List Char × List Spot)
  | _, _, [] => none
  | skip + 1, p, _ :: rest => doubleFrom? skip p rest
  | 0, p, s :: rest =>
    if atDocument (s :: rest) then none
    else if isSpace s.char then doubleFrom? 0 (p.addSpace s.char) rest
    else if isBreak s.char then doubleFrom? 0 (p.addBreak s.char) rest
    else if s.char == '"' then some (p.fold, rest)
    else if s.char == '\\' then
      match rest with
      | [] => none
      | t :: _ =>
        if isBreak t.char then
          (doubleFrom? 1 (.breaks [] []) rest).map fun (cs, after) => (p.fold ++ cs, after)
        else match escape? (textOf rest) with
          | none => none
          | some (c, size) =>
            (doubleFrom? size (.spaces []) rest).map fun (cs, after) => (p.fold ++ c :: cs, after)
    else (doubleFrom? 0 (.spaces []) rest).map fun (cs, after) => (p.fold ++ s.char :: cs, after)

/-- The rest of a scalar in single quotes after a pause, and what follows the closing quote. -/
def singleFrom? : Pause → List Spot → Option (List Char × List Spot)
  | _, [] => none
  | p, s :: rest =>
    if atDocument (s :: rest) then none
    else if isSpace s.char then singleFrom? (p.addSpace s.char) rest
    else if isBreak s.char then singleFrom? (p.addBreak s.char) rest
    else if s.char == '\'' then
      match rest with
      | t :: rest =>
        if t.char == '\'' then
          (singleFrom? (.spaces []) rest).map fun (cs, after) => (p.fold ++ '\'' :: cs, after)
        else some (p.fold, t :: rest)
      | [] => some (p.fold, [])
    else (singleFrom? (.spaces []) rest).map fun (cs, after) => (p.fold ++ s.char :: cs, after)

/-! ### Block scalars -/

/-- What becomes of the line ends at the end of a block scalar. -/
inductive Chomping
  | strip
  | clip
  | keep
  deriving DecidableEq, Repr

/-- The sign for a chomping. -/
def chomping? : Char → Option Chomping
  | '-' => some .strip
  | '+' => some .keep
  | _ => none

/-- An indentation as it is written in the head of a block scalar. -/
def increment? (c : Char) : Option Nat :=
  if c.isDigit then some (c.toNat - '0'.toNat) else none

/-- The chomping and the indentation in the head of a block scalar, in either order, and the rest of
the text. -/
def blockHead (ss : List Spot) : Chomping × Option Nat × List Spot :=
  match ss with
  | [] => (.clip, none, [])
  | s :: rest => match chomping? s.char, increment? s.char with
    | some chomping, _ => match rest with
      | t :: more => match increment? t.char with
        | some n => (chomping, some n, more)
        | none => (chomping, none, rest)
      | [] => (chomping, none, [])
    | none, some n => match rest with
      | t :: more => match chomping? t.char with
        | some chomping => (chomping, some n, more)
        | none => (.clip, some n, rest)
      | [] => (.clip, some n, [])
    | none, none => (.clip, none, ss)

/-- The empty lines in front of a line of a block scalar: their line ends, the largest indentation
that occurs, and the rest.  Indentation beyond `indent`, if it is known, belongs to the line. -/
def emptyLines? (indent : Option Nat) (largest : Nat) :
    List Spot → Option (List Char × Nat × List Spot)
  | [] => some ([], largest, [])
  | s :: rest =>
    let isIndentation := indent.all fun n => s.column < n
    if s.char == ' ' && isIndentation then emptyLines? indent (max largest (s.column + 1)) rest
    else if s.char == '\t' && isIndentation then none
    else if isBreak s.char then
      (emptyLines? indent largest rest).map fun (cs, after) => (s.char :: cs, after)
    else some ([], largest, s :: rest)

/-- What separates two lines of a block scalar: the end of the first line, and the ends of the empty
lines after it.  In a folded scalar a single line end between lines that do not start with a blank
stands for a space. -/
def separator (folded : Bool) (first : List Char) (more : List Char) (besideBlank : Bool) :
    List Char :=
  if folded && first == ['\n'] && !besideBlank then
    if more.isEmpty then [' '] else more
  else first ++ more

/-- The lines of a block scalar: their text, the line end after them, the ends of the empty lines
that follow, and the rest.  `first` and `more` are the line ends in front, `afterBlank` says whether
the line in front starts with a blank.  The fuel bounds the number of lines. -/
def blockLines? (folded : Bool) (indent : Nat) :
    Nat → List Char → List Char → Bool → List Spot →
      Option (List Char × List Char × List Char × List Spot)
  | 0, _, _, _, _ => none
  | _ + 1, first, more, _, [] => some ([], first, more, [])
  | fuel + 1, first, more, afterBlank, s :: rest =>
    if s.column = indent then
      let startsBlank := isSpace s.char
      let (line, after) := (s :: rest).span fun t => !isBreak t.char
      let (first', after) := match after with
        | t :: after => ([t.char], after)
        | [] => ([], [])
      (emptyLines? (some indent) 0 after).bind fun (more', _, after) =>
        (blockLines? folded indent fuel first' more' startsBlank after).map fun (cs, ends) =>
          (separator folded first more (afterBlank || startsBlank) ++ textOf line ++ cs, ends)
    else some ([], first, more, s :: rest)

/-- The line ends that stay at the end of a block scalar. -/
def Chomping.apply : Chomping → List Char → List Char → List Char
  | strip, _, _ => []
  | clip, first, _ => first
  | keep, first, more => first ++ more

/-- The text after the head of a block scalar, if nothing but a comment follows on its line. -/
def afterHead? (ss : List Spot) : Option (List Spot) :=
  let rest : List Spot := ss.dropWhile fun s => isSpace s.char
  let rest := match rest with
    | s :: _ => if s.char == '#' then rest.dropWhile (fun (t : Spot) => !isBreak t.char) else rest
    | [] => []
  match rest with
  | [] => some []
  | s :: rest => if isBreak s.char then some rest else none

/-- The text of a block scalar after its sign, and what follows the scalar.  `outer` is the
indentation of what surrounds it. -/
def block? (folded : Bool) (outer : Option Nat) (ss : List Spot) :
    Option (List Char × List Spot) := do
  let (chomping, increment, rest) := blockHead ss
  if increment = some 0 then none
  let body ← afterHead? rest
  let given := increment.map fun n => outer.getD 0 + n
  let (more, largest, rest) ← emptyLines? given 0 body
  let indent := given.getD (max largest (outer.elim 1 (· + 1)))
  let (cs, first, more, rest) ← blockLines? folded indent (rest.length + 1) [] more false rest
  return (cs ++ chomping.apply first more, rest)

end RpcBindings.Yaml
