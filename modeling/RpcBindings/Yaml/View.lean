import RpcBindings.Text.Digits
import RpcBindings.Yaml.Node

/-!
# Values of YAML as data

A scalar without quotes may be a number, a truth value or null, depending on what is asked for.  An
empty scalar also serves as an empty collection.

## Main definitions

* `Node.text?`, `Node.nat?`, `Node.bool?` — a scalar as a text, a number or a truth value.
* `Node.string?` — a scalar as a text, if it is nothing else.
* `Node.items?`, `Node.entries?` — the members of a collection.
* `Node.texts?`, `Node.pairs?` — a collection as a list of texts and as pairs of texts and values.
-/

namespace RpcBindings.Yaml

open Text

/-- The spellings of null. -/
def nullWords : List String :=
  ["null", "Null", "NULL", "~"]

/-- The truth value that a word stands for. -/
def boolean? (s : String) : Option Bool :=
  if ["true", "True", "TRUE"].contains s then some true
  else if ["false", "False", "FALSE"].contains s then some false
  else none

/-- The text without a plus sign in front. -/
def dropPlus : List Char → List Char
  | '+' :: cs => cs
  | cs => cs

/-- The text without a sign in front. -/
def dropSign : List Char → List Char
  | '+' :: cs => cs
  | '-' :: cs => cs
  | cs => cs

/-- A number with its base in front. -/
def radixNumber? : List Char → Option Nat
  | '0' :: 'x' :: cs => number? 16 cs
  | '0' :: 'o' :: cs => number? 8 cs
  | '0' :: 'b' :: cs => number? 2 cs
  | _ => none

/-- Whether digits follow a leading zero, which makes them a text. -/
def isZeroPadded (cs : List Char) : Bool :=
  match dropSign cs with
  | '0' :: d :: ds => (d :: ds).all Char.isDigit
  | _ => false

/-- The bound of the numbers, which fit into 64 bits: the power of two with the exponent 64. -/
def natBound : Nat := 18446744073709551616

/-- The number that a word stands for. -/
def nat? (cs : List Char) : Option Nat :=
  let value := match radixNumber? (dropPlus cs) with
    | some n => some n
    | none => if isZeroPadded cs then none else number? 10 (dropPlus cs)
  value.filter fun n => n < natBound

/-- Whether a text is the exponent of a decimal fraction. -/
def isExponent : List Char → Bool
  | [] => true
  | c :: cs =>
    (c == 'e' || c == 'E') && !(dropSign cs).isEmpty && (dropSign cs).all Char.isDigit

/-- Whether a text is a decimal fraction without a sign. -/
def isDecimal (cs : List Char) : Bool :=
  let (whole, rest) := cs.span Char.isDigit
  let (fraction, rest) := match rest with
    | '.' :: rest => rest.span Char.isDigit
    | rest => ([], rest)
  !(whole.isEmpty && fraction.isEmpty) && isExponent rest

/-- The spellings of the numbers that are not finite. -/
def boundlessWords : List String :=
  [".inf", ".Inf", ".INF", "+.inf", "+.Inf", "+.INF", "-.inf", "-.Inf", "-.INF", ".nan", ".NaN",
   ".NAN"]

/-- Whether a word is a number. -/
def isNumber (s : String) : Bool :=
  let cs := s.toList
  (radixNumber? (dropSign cs)).isSome || boundlessWords.contains s ||
    (!isZeroPadded cs && isDecimal (dropSign cs))

namespace Node

/-- The text of a scalar. -/
def text? : Node → Option String
  | scalar _ s => some s
  | _ => none

/-- Whether a value is an empty scalar. -/
def isEmpty : Node → Bool
  | scalar _ s => s.isEmpty
  | _ => false

/-- A scalar as a number. -/
def nat? : Node → Option Nat
  | scalar true s => Yaml.nat? s.toList
  | _ => none

/-- A scalar as a truth value. -/
def bool? : Node → Option Bool
  | scalar true s => boolean? s
  | _ => none

/-- Whether a value is null or left out. -/
def isNull : Node → Bool
  | scalar true s => s.isEmpty || nullWords.contains s
  | _ => false

/-- A scalar as a text, unless its text means something else. -/
def string? : Node → Option String
  | scalar false s => some s
  | scalar true s =>
    if s.isEmpty || nullWords.contains s || (boolean? s).isSome || isNumber s then none else some s
  | _ => none

/-- The members of a sequence. -/
def items? : Node → Option (List Node)
  | sequence items => some items
  | n => if n.isEmpty then some [] else none

/-- The entries of a mapping. -/
def entries? : Node → Option (List (Node × Node))
  | mapping entries => some entries
  | n => if n.isEmpty then some [] else none

/-- A value that may be null. -/
def optional? {α : Type} (decode : Node → Option α) (n : Node) : Option (Option α) :=
  if n.isNull then some none else (decode n).map some

/-- A sequence of texts as a list. -/
def texts? (n : Node) : Option (List String) :=
  n.items?.bind fun items => items.mapM text?

/-- A mapping as a list of pairs. -/
def pairs? {α : Type} (decode : Node → Option α) (n : Node) : Option (List (String × α)) :=
  n.entries?.bind fun entries => entries.mapM fun (k, v) => do return (← k.text?, ← decode v)

/-- The entries of a mapping whose keys are all known and different. -/
def fields? (known : List String) (n : Node) : Option (List (String × Node)) := do
  let fields ← n.pairs? some
  let keys := fields.map Prod.fst
  if keys.all known.contains && keys.eraseDups == keys then some fields else none

end Node

/-- The decoded value of a field, or the default if there is no such field. -/
def field? {α : Type} (fields : List (String × Node)) (key : String) (default : α)
    (decode : Node → Option α) : Option α :=
  match fields.lookup key with
  | some n => decode n
  | none => some default

end RpcBindings.Yaml
