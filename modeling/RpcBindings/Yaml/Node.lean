import RpcBindings.Yaml.Token

/-!
# Documents of YAML

## Main definitions

* `Node` — a scalar, a sequence or a mapping.
* `Node.ofTokens?` — the document that tokens form.
* `Node.ofText?` — the document of a text.
-/

namespace RpcBindings.Yaml

/-- A value of a document. -/
inductive Node
  /-- A scalar, and whether it is written without quotes. -/
  | scalar (isPlain : Bool) (text : String)
  | sequence (items : List Node)
  /-- The keys with their values, in order. -/
  | mapping (entries : List (Node × Node))
  deriving Repr

namespace Node

/-- What stands where a value is left out. -/
def absent : Node :=
  scalar true ""

/-- The values that anchors stand for, the latest one first. -/
abbrev Anchors := List (String × Node)

/-- What has been read, together with the anchors and the tokens after it. -/
abbrev Parsed (α : Type) := α × Anchors × List Token

/-- Where a value stands, which decides what it can be. -/
inductive Place
  /-- Inside of brackets. -/
  | flow
  /-- An entry of a sequence, or the whole document. -/
  | entry
  /-- A key or value of a mapping, where the entries of a sequence need no indentation. -/
  | pair
  deriving DecidableEq, Repr

/-- Whether a value is left out between a dash of a sequence and the token. -/
def endsEntry : Token → Bool
  | .entry | .blockEnd => true
  | _ => false

/-- Whether a value is left out between a dash of a sequence without indentation and the token. -/
def endsLooseEntry : Token → Bool
  | .entry | .key | .value | .blockEnd => true
  | _ => false

/-- Whether a key or a value is left out in front of the token. -/
def endsPair : Token → Bool
  | .key | .value | .blockEnd => true
  | _ => false

/-- Whether a key or a value in brackets is left out in front of the token. -/
def endsFlowPair (close : Token) (t : Token) : Bool :=
  t == .value || t == .comma || t == close

/-- Whether a value at a place can start with a token. -/
def startsContent : Place → Token → Bool
  | _, .scalar .. | _, .flowSequence | _, .flowMapping => true
  | .flow, _ => false
  | _, .blockSequence | _, .blockMapping => true
  | place, .entry => place == .pair
  | _, _ => false

mutual

/-- A value at a place.  The fuel bounds the number of steps. -/
def read? : Nat → Place → Anchors → List Token → Option (Parsed Node)
  | 0, _, _, _ => none
  | _ + 1, _, known, .alias name :: ts => (known.lookup name).map fun n => (n, known, ts)
  | fuel + 1, place, known, .anchor name :: ts => do
    let (n, known, rest) ← anchored? fuel place known ts
    return (n, (name, n) :: known, rest)
  | fuel + 1, place, known, ts => content? fuel place known ts

/-- A value behind an anchor; it may be left out. -/
def anchored? : Nat → Place → Anchors → List Token → Option (Parsed Node)
  | 0, _, _, _ => none
  | _, _, _, .alias _ :: _ => none
  | _, _, _, .anchor _ :: _ => none
  | fuel + 1, place, known, t :: ts =>
    if startsContent place t then content? fuel place known (t :: ts)
    else some (absent, known, t :: ts)
  | _ + 1, _, known, [] => some (absent, known, [])

/-- A value that is neither an alias nor behind an anchor. -/
def content? : Nat → Place → Anchors → List Token → Option (Parsed Node)
  | 0, _, _, _ => none
  | _ + 1, _, known, .scalar isPlain text :: ts => some (scalar isPlain text, known, ts)
  | fuel + 1, _, known, .flowSequence :: ts => do
    let (items, known, rest) ← flowItems? fuel known ts
    return (sequence items, known, rest)
  | fuel + 1, _, known, .flowMapping :: ts => do
    let (entries, known, rest) ← flowEntries? fuel known ts
    return (mapping entries, known, rest)
  | _, .flow, _, _ => none
  | fuel + 1, _, known, .blockSequence :: ts => do
    let (items, known, rest) ← blockItems? fuel known ts
    return (sequence items, known, rest)
  | fuel + 1, _, known, .blockMapping :: ts => do
    let (entries, known, rest) ← blockEntries? fuel known ts
    return (mapping entries, known, rest)
  | fuel + 1, .pair, known, .entry :: ts => do
    let (items, known, rest) ← looseItems? fuel known (.entry :: ts)
    return (sequence items, known, rest)
  | _, _, _, _ => none

/-- A value at a place, or what stands for it if the token ends it. -/
def readUnless? : Nat → (Token → Bool) → Place → Anchors → List Token → Option (Parsed Node)
  | 0, _, _, _, _ => none
  | _, _, _, _, [] => none
  | fuel + 1, ends, place, known, t :: ts =>
    if ends t then some (absent, known, t :: ts) else read? fuel place known (t :: ts)

/-- The items of a sequence that is laid out by indentation. -/
def blockItems? : Nat → Anchors → List Token → Option (Parsed (List Node))
  | fuel + 1, known, .entry :: ts => do
    let (n, known, rest) ← readUnless? fuel endsEntry .entry known ts
    let (ns, known, rest) ← blockItems? fuel known rest
    return (n :: ns, known, rest)
  | _ + 1, known, .blockEnd :: ts => some ([], known, ts)
  | _, _, _ => none

/-- The items of a sequence whose dashes stand below the key of the sequence. -/
def looseItems? : Nat → Anchors → List Token → Option (Parsed (List Node))
  | fuel + 1, known, .entry :: ts => do
    let (n, known, rest) ← readUnless? fuel endsLooseEntry .entry known ts
    let (ns, known, rest) ← looseItems? fuel known rest
    return (n :: ns, known, rest)
  | _ + 1, known, ts => some ([], known, ts)
  | 0, _, _ => none

/-- The value behind a colon, if there is a colon. -/
def valueUnless? : Nat → (Token → Bool) → Place → Anchors → List Token → Option (Parsed Node)
  | fuel + 1, ends, place, known, .value :: ts => readUnless? fuel ends place known ts
  | _ + 1, _, _, known, ts => some (absent, known, ts)
  | 0, _, _, _, _ => none

/-- The entries of a mapping that is laid out by indentation. -/
def blockEntries? : Nat → Anchors → List Token → Option (Parsed (List (Node × Node)))
  | fuel + 1, known, .key :: ts => do
    let (k, known, rest) ← readUnless? fuel endsPair .pair known ts
    let (v, known, rest) ← valueUnless? fuel endsPair .pair known rest
    let (es, known, rest) ← blockEntries? fuel known rest
    return ((k, v) :: es, known, rest)
  | _ + 1, known, .blockEnd :: ts => some ([], known, ts)
  | _, _, _ => none

/-- The items of a sequence in brackets.  A key makes an item a mapping with one entry. -/
def flowItems? : Nat → Anchors → List Token → Option (Parsed (List Node))
  | _ + 1, known, .flowSequenceEnd :: ts => some ([], known, ts)
  | fuel + 1, known, .key :: ts => do
    let (k, known, rest) ← readUnless? fuel (endsFlowPair .flowSequenceEnd) .flow known ts
    let (v, known, rest) ← valueUnless? fuel (endsFlowPair .flowSequenceEnd) .flow known rest
    moreItems? fuel (mapping [(k, v)]) known rest
  | fuel + 1, known, ts => do
    let (n, known, rest) ← read? fuel .flow known ts
    moreItems? fuel n known rest
  | 0, _, _ => none

/-- The items of a sequence in brackets from `n` on, which has been read. -/
def moreItems? : Nat → Node → Anchors → List Token → Option (Parsed (List Node))
  | _ + 1, n, known, .flowSequenceEnd :: ts => some ([n], known, ts)
  | fuel + 1, n, known, .comma :: ts => do
    let (ns, known, rest) ← flowItems? fuel known ts
    return (n :: ns, known, rest)
  | _, _, _, _ => none

/-- The entries of a mapping in brackets. -/
def flowEntries? : Nat → Anchors → List Token → Option (Parsed (List (Node × Node)))
  | _ + 1, known, .flowMappingEnd :: ts => some ([], known, ts)
  | fuel + 1, known, .key :: ts => do
    let (k, known, rest) ← readUnless? fuel (endsFlowPair .flowMappingEnd) .flow known ts
    let (v, known, rest) ← valueUnless? fuel (endsFlowPair .flowMappingEnd) .flow known rest
    moreEntries? fuel (k, v) known rest
  | fuel + 1, known, ts => do
    let (k, known, rest) ← read? fuel .flow known ts
    moreEntries? fuel (k, absent) known rest
  | 0, _, _ => none

/-- The entries of a mapping in brackets from `e` on, which has been read. -/
def moreEntries? : Nat → Node × Node → Anchors → List Token → Option (Parsed (List (Node × Node)))
  | _ + 1, e, known, .flowMappingEnd :: ts => some ([e], known, ts)
  | fuel + 1, e, known, .comma :: ts => do
    let (es, known, rest) ← flowEntries? fuel known ts
    return (e :: es, known, rest)
  | _, _, _, _ => none

end

/-- The most steps for one token. -/
def stepsPerToken : Nat := 6

/-- Whether tokens only end a document. -/
def isEnd (ts : List Token) : Bool :=
  ts.all fun t => t == .documentEnd

/-- The value that tokens form, all of them up to the end of the document. -/
def whole? (ts : List Token) : Option Node :=
  match read? (stepsPerToken * (ts.length + 1)) .entry [] ts with
  | some (n, _, rest) => if isEnd rest then some n else none
  | none => none

/-- The document that tokens form; there may be only one.  A document without content is an absent
value, but without a mark at its start it cannot have a mark at its end. -/
def ofTokens? : List Token → Option Node
  | [] => some absent
  | .documentStart :: ts => if isEnd ts then some absent else whole? ts
  | ts => whole? ts

/-- The document of a text, or nothing if the text is malformed. -/
def ofText? (s : String) : Option Node :=
  (Token.read? s.toList).bind ofTokens?

end Node

end RpcBindings.Yaml
