import RpcBindings.Text.Identifier.Table

/-!
# Identifiers

Which characters may start and continue an identifier, in the Unicode sense and in the ASCII sense.

## Main definitions

* `isStart`, `isContinue` — the properties `XID_Start` and `XID_Continue`.
* `isAsciiName` — a letter or an underscore, then letters, digits and underscores, all ASCII.
-/

namespace RpcBindings.Text.Identifier

open CodePoints

/-- The characters with the property `XID_Start`. -/
def isStart (c : Char) : Bool :=
  if c.toNat < 128 then c.isAlpha else inRanges starts c.toNat

/-- The characters with the property `XID_Continue`. -/
def isContinue (c : Char) : Bool :=
  if c.toNat < 128 then c.isAlphanum || c == '_' else inRanges continues c.toNat

/-- The characters that may start an ASCII name. -/
def isAsciiStart (c : Char) : Bool :=
  c.isAlpha || c == '_'

/-- The characters that may continue an ASCII name. -/
def isAsciiContinue (c : Char) : Bool :=
  c.isAlphanum || c == '_'

/-- An ASCII name: a letter or an underscore, then letters, digits and underscores. -/
def isAsciiName : List Char → Bool
  | [] => false
  | c :: cs => isAsciiStart c && cs.all isAsciiContinue

end RpcBindings.Text.Identifier
