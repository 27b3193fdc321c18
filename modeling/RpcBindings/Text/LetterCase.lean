import RpcBindings.Text.LetterCase.Table

/-!
# Letter case

Full Unicode case conversion: a character may become several, and a final sigma has a lower case
of its own.

## Main definitions

* `isCapital` — the property `Uppercase`.
* `upperChar`, `upper` — upper case of a character and of a text.
* `lowerChar`, `lower` — lower case of a character and of a text.
* `isCapitalized` — whether a text starts with a capital.
-/

namespace RpcBindings.Text

open CodePoints

namespace LetterCase

/-- The characters with the property `Uppercase`. -/
def isCapital (c : Char) : Bool :=
  if c.toNat < 128 then c.isUpper else inStrides capitals c.toNat

/-- The characters with the property `Cased` that do not have the property `Case_Ignorable`. -/
def isCased (c : Char) : Bool :=
  if c.toNat < 128 then c.isAlpha else inRanges cased c.toNat

/-- The characters that are skipped when the neighbours of a sigma are looked at. -/
def isIgnorable (c : Char) : Bool :=
  inRanges caseIgnorable c.toNat

/-- Case conversion by tables: the special cases first, then the shifts. -/
def convert (special : List (Nat × List Nat)) (shifts : List Shift) (c : Char) : List Char :=
  match special.find? fun s => s.1 == c.toNat with
  | some s => s.2.map Char.ofNat
  | none => match shift? shifts c.toNat with
    | some n => [Char.ofNat n]
    | none => [c]

/-- The upper case of a character. -/
def upperChar (c : Char) : List Char :=
  if c.toNat < 128 then [c.toUpper] else convert upperSpecial upperShifts c

/-- The lower case of a character, whatever stands beside it. -/
def lowerChar (c : Char) : List Char :=
  if c.toNat < 128 then [c.toLower] else convert lowerSpecial lowerShifts c

/-- Whether the nearest character that is not ignorable is cased. -/
def meetsCased (cs : List Char) : Bool :=
  match cs.dropWhile isIgnorable with
  | [] => false
  | c :: _ => isCased c

/-- Lower case of the text after `before`, which is given back to front.  A sigma at the end of a
word has the lower case `ς`, any other `σ`. -/
def lowerAfter (before : List Char) : List Char → List Char
  | [] => []
  | c :: cs =>
    let here :=
      if c = 'Σ' then
        if meetsCased before && !meetsCased cs then ['ς'] else ['σ']
      else lowerChar c
    here ++ lowerAfter (c :: before) cs

end LetterCase

open LetterCase in
/-- A text in upper case. -/
def upper (cs : List Char) : List Char :=
  cs.flatMap upperChar

open LetterCase in
/-- A text in lower case. -/
def lower (cs : List Char) : List Char :=
  lowerAfter [] cs

open LetterCase in
/-- Whether the first character is a capital. -/
def isCapitalized : List Char → Bool
  | [] => false
  | c :: _ => isCapital c

end RpcBindings.Text
