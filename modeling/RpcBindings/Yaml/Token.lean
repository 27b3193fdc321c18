import RpcBindings.Yaml.Scalar

/-!
# Tokens of YAML

The marks and scalars of a YAML text.  Indentation becomes tokens of its own: a collection that is
laid out by indentation starts with a token and ends with one.  That a scalar is a key shows only
when a colon follows it, so the tokens in front of a key are put in afterwards.

## Main definitions

* `Token` — the tokens.
* `Reading` — what is remembered while a text is read.
* `Token.read?` — the tokens of a text.
-/

namespace RpcBindings.Yaml

/-- A token of a YAML text. -/
inductive Token
  | documentStart
  | documentEnd
  /-- The start of a sequence that is laid out by indentation. -/
  | blockSequence
  /-- The start of a mapping that is laid out by indentation. -/
  | blockMapping
  /-- The end of a collection that is laid out by indentation. -/
  | blockEnd
  /-- The dash in front of an entry. -/
  | entry
  | flowSequence
  | flowSequenceEnd
  | flowMapping
  | flowMappingEnd
  | comma
  | key
  | value
  | alias (name : String)
  | anchor (name : String)
  /-- A scalar, and whether it is written without quotes. -/
  | scalar (isPlain : Bool) (text : String)
  deriving DecidableEq, Repr

/-- Where a key may have started. -/
structure KeyStart where
  /-- The number of tokens in front of it. -/
  position : Nat
  line : Nat
  column : Nat
  offset : Nat
  /-- Whether nothing but a key can stand there. -/
  isRequired : Bool
  deriving DecidableEq, Repr

/-- What is remembered while a text is read. -/
structure Reading where
  /-- The tokens so far, the last one first. -/
  tokens : List Token := []
  /-- The indentation of the innermost collection that is laid out by indentation. -/
  indent : Option Nat := none
  /-- The indentations around it, from the inside out. -/
  outer : List (Option Nat) := []
  /-- Whether a key can start here. -/
  keyAllowed : Bool := true
  /-- Where a key may have started outside of all brackets. -/
  key : Option KeyStart := none
  /-- Where a key may have started inside of each bracket, from the inside out. -/
  flowKeys : List (Option KeyStart) := []
  deriving DecidableEq, Repr

namespace Reading

/-- Whether the position is inside of brackets. -/
def inFlow (r : Reading) : Bool :=
  !r.flowKeys.isEmpty

/-- Adds a token. -/
def add (t : Token) (r : Reading) : Reading :=
  { r with tokens := t :: r.tokens }

/-- Puts a token behind the first `position` tokens. -/
def insertAt (position : Nat) (t : Token) (r : Reading) : Reading :=
  let behind := r.tokens.length - position
  { r with tokens := r.tokens.take behind ++ t :: r.tokens.drop behind }

/-- Whether a column lies to the right of an indentation. -/
def isRightOf (column : Nat) (indent : Option Nat) : Bool :=
  indent.all fun n => n < column

/-- Starts a collection at a column unless one has started there; its first token goes behind the
first `position` tokens. -/
def indentTo (column position : Nat) (t : Token) (r : Reading) : Reading :=
  if !r.inFlow && isRightOf column r.indent then
    { r.insertAt position t with indent := some column, outer := r.indent :: r.outer }
  else r

/-- Ends the collections with the given indentations that lie to the right of a column. -/
def closing (column : Option Nat) : List (Option Nat) → List (Option Nat)
  | [] => []
  | n :: ns => if n.any fun k => isRightOf k column then closing column ns else n :: ns

/-- Ends the collections that lie to the right of a column. -/
def dedentTo (column : Option Nat) (r : Reading) : Reading :=
  if r.inFlow then r
  else
    let all := r.indent :: r.outer
    let left := closing column all
    { r with
      tokens := List.replicate (all.length - left.length) .blockEnd ++ r.tokens
      indent := left.head?.join
      outer := left.tail }

/-- Where a key may have started on the present level. -/
def currentKey (r : Reading) : Option KeyStart :=
  match r.flowKeys with
  | [] => r.key
  | k :: _ => k

/-- The state with another place where a key may have started on the present level. -/
def withKey (k : Option KeyStart) (r : Reading) : Reading :=
  match r.flowKeys with
  | [] => { r with key := k }
  | _ :: ks => { r with flowKeys := k :: ks }

/-- Gives up the place where a key may have started; this fails if there had to be a key. -/
def dropKey? (r : Reading) : Option Reading :=
  if r.currentKey.any fun k => k.isRequired then none else some (r.withKey none)

/-- Notes that a key may start here. -/
def noteKey? (s : Spot) (r : Reading) : Option Reading :=
  if r.keyAllowed then
    r.dropKey?.map fun r => r.withKey <| some
      { position := r.tokens.length, line := s.line, column := s.column, offset := s.offset
        isRequired := !r.inFlow && r.indent == some s.column }
  else some r

/-- The most characters between the start of a key and its colon. -/
def keyWidth : Nat := 1024

/-- Whether what started at a place can be the key for a colon. -/
def reaches (k : KeyStart) (s : Spot) : Bool :=
  k.line == s.line && s.offset ≤ k.offset + keyWidth

/-- The key for a colon, if there is one; this fails if there had to be one. -/
def keyFor? (s : Spot) (r : Reading) : Option (Option KeyStart) :=
  match r.currentKey with
  | none => some none
  | some k => if reaches k s then some (some k) else if k.isRequired then none else some none

/-- Ends everything that is open at a document mark or at the end of the text. -/
def finish? (r : Reading) : Option Reading :=
  (r.dedentTo none).dropKey?.map fun r => { r with keyAllowed := false }

end Reading

/-- The text up to the next token, and whether a key can start there.  Blanks, comments and line
ends are passed over; a tab counts as a blank only where no key can start. -/
def nextToken (inFlow : Bool) (keyAllowed inComment : Bool) : List Spot → Bool × List Spot
  | [] => (keyAllowed, [])
  | s :: rest =>
    if isBreak s.char then nextToken inFlow (keyAllowed || !inFlow) false rest
    else if inComment then nextToken inFlow keyAllowed true rest
    else if s.char == ' ' || (s.char == '\t' && (inFlow || !keyAllowed)) then
      nextToken inFlow keyAllowed false rest
    else if s.char == '#' then nextToken inFlow keyAllowed true rest
    else (keyAllowed, s :: rest)

/-- The characters of the names of anchors. -/
def isNameChar (c : Char) : Bool :=
  c.isAlphanum || c == '_' || c == '-'

/-- The characters that may follow a name without a blank. -/
def followsName : List Char :=
  ['?', ':', ',', ']', '\x7d', '%', '@', '\x60']

/-- The name of an anchor or an alias, and the rest. -/
def name? (ss : List Spot) : Option (String × List Spot) :=
  let (name, rest) := ss.span fun s => isNameChar s.char
  if name.isEmpty then none
  else if atBreak rest || (rest.head?.any fun s => followsName.contains s.char) then
    some (String.ofList (textOf name), rest)
  else none

/-- The characters that cannot start a plain scalar. -/
def marks : List Char :=
  ['-', '?', ':', ',', '[', ']', '\x7b', '\x7d', '#', '&', '*', '!', '|', '>', '\'', '"', '%', '@',
   '\x60']

/-- Whether a plain scalar starts here. -/
def startsPlain (inFlow : Bool) : List Spot → Bool
  | [] => false
  | s :: rest =>
    (!isSpace s.char && !marks.contains s.char) ||
      (s.char == '-' && !(rest.head?.any fun t => isSpace t.char)) ||
      (!inFlow && (s.char == '?' || s.char == ':') && !atBreak rest)

namespace Reading

/-- Reads a mark that opens brackets. -/
def openFlow? (s : Spot) (t : Token) (r : Reading) : Option Reading :=
  (r.noteKey? s).map fun r => { r with flowKeys := none :: r.flowKeys, keyAllowed := true }.add t

/-- Reads a mark that closes brackets. -/
def closeFlow? (t : Token) (r : Reading) : Option Reading :=
  r.dropKey?.map fun r => { r with flowKeys := r.flowKeys.tail, keyAllowed := false }.add t

/-- Reads a comma. -/
def comma? (r : Reading) : Option Reading :=
  r.dropKey?.map fun r => { r with keyAllowed := true }.add .comma

/-- Reads the dash in front of an entry. -/
def entry? (s : Spot) (r : Reading) : Option Reading :=
  if r.inFlow || r.keyAllowed then
    (r.indentTo s.column r.tokens.length .blockSequence).dropKey?.map fun r =>
      { r with keyAllowed := true }.add .entry
  else none

/-- Reads the question mark in front of a key. -/
def explicitKey? (s : Spot) (r : Reading) : Option Reading :=
  if r.inFlow || r.keyAllowed then
    (r.indentTo s.column r.tokens.length .blockMapping).dropKey?.map fun r =>
      { r with keyAllowed := !r.inFlow }.add .key
  else none

/-- Reads the colon in front of a value; what stands in front of it may turn out to be its key. -/
def value? (s : Spot) (r : Reading) : Option Reading :=
  (r.keyFor? s).bind fun start =>
    match start with
    | some k =>
      let keyed := (r.insertAt k.position .key).indentTo k.column k.position .blockMapping
      some ({ keyed.withKey none with keyAllowed := false }.add .value)
    | none =>
      if r.inFlow || r.keyAllowed then
        let r := (r.withKey none).indentTo s.column r.tokens.length .blockMapping
        some ({ r with keyAllowed := !r.inFlow }.add .value)
      else none

/-- Reads a document mark. -/
def document? (t : Token) (r : Reading) : Option Reading :=
  r.finish?.map fun r => r.add t

/-- Notes that a key may start here, and that the next one cannot start right after. -/
def content? (s : Spot) (r : Reading) : Option Reading :=
  (r.noteKey? s).map fun r => { r with keyAllowed := false }

/-- Reads the token at the start of a text that starts with no blank. -/
def token? (r : Reading) (s : Spot) (rest : List Spot) : Option (Reading × List Spot) :=
  let here := s :: rest
  let mark := fun (read : Option Reading) => read.map fun r => (r, rest)
  if s.column == 0 && s.char == '%' then none
  else if atMarker '-' here then (r.document? .documentStart).map fun r => (r, here.drop 3)
  else if atMarker '.' here then (r.document? .documentEnd).map fun r => (r, here.drop 3)
  else if s.char == '[' then mark (r.openFlow? s .flowSequence)
  else if s.char == '\x7b' then mark (r.openFlow? s .flowMapping)
  else if s.char == ']' then mark (r.closeFlow? .flowSequenceEnd)
  else if s.char == '\x7d' then mark (r.closeFlow? .flowMappingEnd)
  else if s.char == ',' then mark r.comma?
  else if s.char == '-' && atBreak rest then mark (r.entry? s)
  else if s.char == '?' && (r.inFlow || atBreak rest) then mark (r.explicitKey? s)
  else if s.char == ':' && (r.inFlow || atBreak rest) then mark (r.value? s)
  else if s.char == '*' then do
    let r ← r.content? s
    let (name, after) ← name? rest
    return (r.add (.alias name), after)
  else if s.char == '&' then do
    let r ← r.content? s
    let (name, after) ← name? rest
    return (r.add (.anchor name), after)
  else if (s.char == '|' || s.char == '>') && !r.inFlow then do
    let r ← r.dropKey?
    let (cs, after) ← block? (s.char == '>') r.indent rest
    return ({ r with keyAllowed := true }.add (.scalar false (String.ofList cs)), after)
  else if s.char == '\'' || s.char == '"' then do
    let r ← r.content? s
    let (cs, after) ←
      if s.char == '"' then doubleFrom? 0 (.spaces []) rest else singleFrom? (.spaces []) rest
    return (r.add (.scalar false (String.ofList cs)), after)
  else if startsPlain r.inFlow here then do
    let r ← r.content? s
    let (cs, brokeLine, after) ← plainFrom? r.inFlow (r.indent.elim 0 (· + 1)) (.spaces []) rest
    let r := if brokeLine then { r with keyAllowed := true } else r
    return (r.add (.scalar true (String.ofList (s.char :: cs))), after)
  else none

/-- Reads the rest of a text.  The fuel bounds the number of tokens. -/
def run? : Nat → Reading → List Spot → Option Reading
  | 0, _, _ => none
  | fuel + 1, r, ss =>
    let (keyAllowed, here) := nextToken r.inFlow r.keyAllowed false ss
    let r := { r with keyAllowed }
    match here with
    | [] => r.finish?
    | s :: rest => ((r.dedentTo (some s.column)).token? s rest).bind fun (r, after) =>
      run? fuel r after

end Reading

/-- The tokens of a text, or nothing if some part of it is no token. -/
def Token.read? (cs : List Char) : Option (List Token) := do
  let spots ← Spot.ofText? cs
  let r ← Reading.run? (spots.length + 1) {} spots
  return r.tokens.reverse

end RpcBindings.Yaml
