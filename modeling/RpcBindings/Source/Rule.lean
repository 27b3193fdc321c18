import RpcBindings.Source.Node
import RpcBindings.Source.Token

/-!
# Grammar rules

Parsing expressions that build syntax trees.  A rule reads tokens from left to right; of two
alternatives the first that fits is taken.  Comments are skipped wherever a token is read, and
become nodes in front of it.

## Main definitions

* `Terminal` — a rule for one token.
* `Rule` — parsing expressions over a set of named rules.
* `Rule.run?` — the nodes that a rule reads at the start of a list of tokens, and the rest.

A construct whose first part is an instance of itself, such as a chain of calls, is read by
`Rule.grow`: the first part is read once, and then each step wraps what has been read so far.
-/

namespace RpcBindings.Source

/-- The words that are no identifiers. -/
def reservedWords : List String :=
  ["abstract", "assert", "boolean", "break", "byte", "case", "catch", "char", "class", "continue",
   "default", "do", "double", "else", "enum", "extends", "final", "finally", "float", "for", "if",
   "implements", "import", "instanceof", "int", "interface", "long", "native", "new", "package",
   "private", "protected", "public", "return", "short", "static", "strictfp", "super", "switch",
   "synchronized", "this", "throw", "throws", "transient", "try", "void", "volatile", "while",
   "true", "false", "null"]

/-- Whether a word is an identifier. -/
def isIdentifier (word : List Char) : Bool :=
  !reservedWords.any fun w => w.toList == word

namespace Literal

/-- How many characters an escape has after its backslash, given the text there. -/
def escapeSize? : List Char → Option Nat
  | [] => none
  | 'x' :: cs => if (cs.take 2).length == 2 && (cs.take 2).all Text.isHexDigit then some 3 else none
  | 'u' :: '\x7b' :: cs =>
    let ds := cs.takeWhile Text.isHexDigit
    if !ds.isEmpty && (cs.drop ds.length).head? == some '\x7d' then some (ds.length + 3) else none
  | 'u' :: cs => if (cs.take 4).length == 4 && (cs.take 4).all Text.isHexDigit then some 5 else none
  | c :: cs =>
    let isOctal := fun (d : Char) => '0' ≤ d && d ≤ '7'
    if isOctal c then some (1 + ((cs.take 2).takeWhile isOctal).length) else some 1

/-- The pieces of the text of a literal between its quotes, starting on the given line: runs of
characters, and escapes.  The fuel bounds the number of pieces. -/
def pieces? (fragment : Kind) : Nat → Nat → List Char → Option (List Node)
  | _, _, [] => some []
  | 0, _, _ => none
  | fuel + 1, line, '\\' :: cs => do
    let size ← escapeSize? cs
    let text := '\\' :: cs.take size
    let rest ← pieces? fragment fuel (line + Token.lineFeeds text) (cs.drop size)
    return .leaf [] none (some .escapeSequence) line text :: rest
  | fuel + 1, line, cs => do
    let text := cs.takeWhile fun c => c != '\\'
    let rest ← pieces? fragment fuel (line + Token.lineFeeds text) (cs.drop text.length)
    return .leaf [] none (some fragment) line text :: rest

/-- The node of a string literal with the given delimiter. -/
def node? (fragment : Kind) (quote : List Char) (t : Token) : Option Node := do
  let body := (t.text.drop quote.length).take (t.text.length - 2 * quote.length)
  let inner ← pieces? fragment (body.length + 1) t.line body
  let closing := Node.leaf [] none none (t.line + Token.lineFeeds body) quote
  return .tree t.gap none .stringLiteral t.line
    (.leaf [] none none t.line quote :: inner ++ [closing])

end Literal

/-- A rule for one token, or for symbols that touch each other. -/
inductive Terminal
  /-- The given word. -/
  | keyword (word : String)
  /-- The given operator or separator. -/
  | symbol (text : String)
  /-- Operators without blanks between them, read as one. -/
  | joined (texts : List String)
  /-- An identifier, as a node of the given kind. -/
  | identifier (kind : Kind)
  /-- The given word, as a node of the given kind. -/
  | wordNode (word : String) (kind : Kind)
  /-- The given operator, as a node of the given kind. -/
  | symbolNode (text : String) (kind : Kind)
  /-- A number, a character or a string. -/
  | literal
  /-- A string. -/
  | string
  deriving DecidableEq, Repr

/-- The leaf of a token. -/
def Token.leaf (t : Token) (kind : Option Kind) : Node :=
  .leaf t.gap none kind t.line t.text

/-- Whether a token is the given operator or separator. -/
def Token.isSymbol (t : Token) (text : String) : Bool :=
  t.lexeme == .symbol && t.text == text.toList

/-- Whether a token is the given word. -/
def Token.isWord (t : Token) (word : String) : Bool :=
  t.lexeme == .word && t.text == word.toList

/-- The text of operators that touch each other, without blanks before the later ones. -/
def touching? : List String → List Token → Option (List Char × List Token)
  | [], ts => some ([], ts)
  | s :: ss, t :: ts =>
    if t.gap.isEmpty && t.isSymbol s then
      (touching? ss ts).map fun (text, rest) => (t.text ++ text, rest)
    else none
  | _ :: _, [] => none

namespace Terminal

/-- The node that a terminal reads when the first token is no comment. -/
def readHere? (terminal : Terminal) : List Token → Option (Node × List Token)
  | [] => none
  | t :: ts =>
    match terminal with
    | keyword w => if t.isWord w then some (t.leaf none, ts) else none
    | symbol s => if t.isSymbol s then some (t.leaf none, ts) else none
    | joined [] => none
    | joined (s :: ss) =>
      if t.isSymbol s then
        (touching? ss ts).map fun (text, rest) =>
          (.leaf t.gap none none t.line (t.text ++ text), rest)
      else none
    | identifier k =>
      if t.lexeme == .word && isIdentifier t.text then some (t.leaf (some k), ts) else none
    | wordNode w k => if t.isWord w then some (t.leaf (some k), ts) else none
    | symbolNode s k => if t.isSymbol s then some (t.leaf (some k), ts) else none
    | literal => match t.lexeme with
      | .literal k => some (t.leaf (some k), ts)
      | .string => (Literal.node? .stringFragment ['"'] t).map (·, ts)
      | .textBlock => (Literal.node? .multilineStringFragment ['"', '"', '"'] t).map (·, ts)
      | _ => none
    | string => match t.lexeme with
      | .string => (Literal.node? .stringFragment ['"'] t).map (·, ts)
      | .textBlock => (Literal.node? .multilineStringFragment ['"', '"', '"'] t).map (·, ts)
      | _ => none

/-- The comments at the start of a list of tokens, as nodes, and the rest. -/
def comments : List Token → List Node × List Token
  | [] => ([], [])
  | t :: ts => match t.lexeme with
    | .comment k => let (ns, rest) := comments ts; (t.leaf (some k) :: ns, rest)
    | _ => ([], t :: ts)

/-- The nodes that a terminal reads: the comments in front of its token, then the token. -/
def read? (terminal : Terminal) (ts : List Token) : Option (List Node × List Token) :=
  let (before, rest) := comments ts
  (terminal.readHere? rest).map fun (n, rest) => (before ++ [n], rest)

end Terminal

/-- Parsing expressions over rules that are named by members of `α`. -/
inductive Rule (α : Type)
  /-- Reads nothing. -/
  | done
  /-- Reads one token. -/
  | token (terminal : Terminal)
  /-- The rule of that name. -/
  | ref (name : α)
  /-- One rule, then another. -/
  | seq (first second : Rule α)
  /-- The first rule, or else the second. -/
  | alt (first second : Rule α)
  /-- A rule as often as it fits. -/
  | many (item : Rule α)
  /-- The nodes of a rule, in a role. -/
  | label (role : Role) (inner : Rule α)
  /-- The nodes of a rule under a tree of the given kind. -/
  | node (kind : Kind) (inner : Rule α)
  /-- The seed, then a step that takes what the seed has read. -/
  | after (seed step : Rule α)
  /-- The step as often as it fits, each time from what has been read so far. -/
  | growing (step : Rule α)
  /-- As a step: another step, if what has been read so far is a node of one of the kinds. -/
  | given (kinds : List Kind) (step : Rule α)
  /-- As a step: what has been read so far, in a role, and the nodes of a rule under one tree. -/
  | onto (kind : Kind) (role : Option Role) (inner : Rule α)

namespace Rule

/-- The comments at the start of a list of nodes, and the rest. -/
def splitComments (ns : List Node) : List Node × List Node :=
  ns.span Node.isComment

/-- The nodes with those that are no comments put in a role. -/
def inRole (r : Role) (ns : List Node) : List Node :=
  ns.map fun n => if n.isComment then n else n.withRole (some r)

/-- A tree over nodes; comments in front of the first of them stay outside. -/
def wrap (kind : Kind) (ns : List Node) : List Node :=
  let (before, inner) := splitComments ns
  before ++ [Node.branch kind inner]

variable {α : Type}

/-- The nodes that a rule reads at the start of a list of tokens, and the rest of the tokens.
`held` is what the steps of a construct have read so far.  The fuel bounds the depth of the descent. -/
def run? (grammar : α → Rule α) :
    Nat → Rule α → List Node → List Token → Option (List Node × List Token)
  | 0, _, _, _ => none
  | _ + 1, done, _, ts => some ([], ts)
  | _ + 1, token t, _, ts => t.read? ts
  | fuel + 1, ref s, held, ts => run? grammar fuel (grammar s) held ts
  | fuel + 1, seq a b, _, ts =>
    match run? grammar fuel a [] ts with
    | none => none
    | some (x, rest) => match run? grammar fuel b [] rest with
      | none => none
      | some (y, rest) => some (x ++ y, rest)
  | fuel + 1, alt a b, held, ts =>
    match run? grammar fuel a held ts with
    | some r => some r
    | none => run? grammar fuel b held ts
  | fuel + 1, many a, _, ts =>
    match run? grammar fuel a [] ts with
    | none => some ([], ts)
    | some (x, rest) => match run? grammar fuel (many a) [] rest with
      | none => none
      | some (y, rest) => some (x ++ y, rest)
  | fuel + 1, label r a, _, ts => (run? grammar fuel a [] ts).map fun (x, rest) => (inRole r x, rest)
  | fuel + 1, node k a, _, ts => (run? grammar fuel a [] ts).map fun (x, rest) => (wrap k x, rest)
  | fuel + 1, after a b, _, ts =>
    match run? grammar fuel a [] ts with
    | none => none
    | some (x, rest) => run? grammar fuel b x rest
  | fuel + 1, growing b, held, ts =>
    match run? grammar fuel b held ts with
    | none => some (held, ts)
    | some (x, rest) => run? grammar fuel (growing b) x rest
  | fuel + 1, given ks b, held, ts =>
    if held.getLast?.any fun n => n.kind?.any ks.contains then run? grammar fuel b held ts
    else none
  | fuel + 1, onto k r a, held, ts =>
    (run? grammar fuel a [] ts).map fun (x, rest) =>
      let inner := match r with
        | some r => inRole r held
        | none => held
      let (before, inner) := splitComments inner
      (before ++ [Node.branch k (inner ++ x)], rest)

/-- Several rules one after another. -/
def seqs : List (Rule α) → Rule α
  | [] => done
  | [a] => a
  | a :: as => seq a (seqs as)

/-- The first of several rules that fits. -/
def alts : List (Rule α) → Rule α
  | [] => done
  | [a] => a
  | a :: as => alt a (alts as)

/-- The seed, then the step as often as it fits. -/
def grow (seed step : Rule α) : Rule α :=
  after seed (growing step)

/-- A rule or nothing. -/
def optional (a : Rule α) : Rule α :=
  alt a done

/-- A rule once or more often. -/
def many1 (a : Rule α) : Rule α :=
  seq a (many a)

/-- A rule once or more often, with a separator between each two. -/
def list1 (separator a : Rule α) : Rule α :=
  seq a (many (seq separator a))

/-- A rule any number of times, with a separator between each two. -/
def list (separator a : Rule α) : Rule α :=
  optional (list1 separator a)

/-- The given word. -/
def keyword (w : String) : Rule α :=
  token (.keyword w)

/-- The given operator or separator. -/
def symbol (s : String) : Rule α :=
  token (.symbol s)

/-- An identifier. -/
def identifier : Rule α :=
  token (.identifier .identifier)

end Rule

end RpcBindings.Source
