/-!
# Blank characters and words

A character is blank when it has the Unicode property `White_Space`.  Words are the maximal runs
of characters that are not blank.

## Main definitions

* `isBlank` — the property `White_Space`.
* `splitWhen p` — the pieces between the characters that satisfy `p`.
* `words`, `trim`, `collapse` — words of a text, a text without its outer blanks, and a text whose
  runs of blanks have become single spaces.
-/

namespace RpcBindings.Text

/-- The characters with the property `White_Space`. -/
def isBlank (c : Char) : Bool :=
  c == ' ' || (9 ≤ c.toNat && c.toNat ≤ 13) || c.toNat == 0x85 || c.toNat == 0xA0 ||
    c.toNat == 0x1680 || (0x2000 ≤ c.toNat && c.toNat ≤ 0x200A) || c.toNat == 0x2028 ||
    c.toNat == 0x2029 || c.toNat == 0x202F || c.toNat == 0x205F || c.toNat == 0x3000

/-- The pieces of a text between the characters that satisfy `p`; always at least one. -/
def splitWhen (p : Char → Bool) : List Char → List (List Char)
  | [] => [[]]
  | c :: cs =>
    if p c then [] :: splitWhen p cs
    else match splitWhen p cs with
      | [] => [[c]]
      | w :: ws => (c :: w) :: ws

theorem splitWhen_ne_nil (p : Char → Bool) (cs : List Char) : splitWhen p cs ≠ [] := by
  cases cs with
  | nil => simp [splitWhen]
  | cons c cs =>
    simp only [splitWhen]
    split
    · simp
    · split <;> simp

/-- The pieces of a text between the occurrences of the character `sep`. -/
def splitOn (sep : Char) (cs : List Char) : List (List Char) :=
  splitWhen (· == sep) cs

/-- The words of a text: its maximal runs of characters that are not blank. -/
def words (cs : List Char) : List (List Char) :=
  (splitWhen isBlank cs).filter fun w => !w.isEmpty

/-- A text without the blanks at its start. -/
def trimStart (cs : List Char) : List Char :=
  cs.dropWhile isBlank

/-- A text without the blanks at its end. -/
def trimEnd (cs : List Char) : List Char :=
  (cs.reverse.dropWhile isBlank).reverse

/-- A text without the blanks at its two ends. -/
def trim (cs : List Char) : List Char :=
  trimEnd (trimStart cs)

/-- Texts one after another with `sep` between each two. -/
def join (sep : List Char) : List (List Char) → List Char
  | [] => []
  | [w] => w
  | w :: ws => w ++ sep ++ join sep ws

/-- Each run of blanks becomes one space, and the outer blanks go. -/
def collapse (cs : List Char) : List Char :=
  join [' '] (words cs)

/-- A text with every blank removed. -/
def compact (cs : List Char) : List Char :=
  cs.filter fun c => !isBlank c

end RpcBindings.Text
