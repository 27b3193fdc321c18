import RpcBindings.Text.Blank
import RpcBindings.Text.LetterCase

/-!
# Naming conventions

Class names are written `PascalCase` and field names `snake_case`.

## Main definitions

* `pascalCase` — capitalizes the parts between underscores and joins them.
* `snakeCase` — lowers ASCII capitals and puts an underscore in front of each word but the first.
* `startsWord` — where a word of a `camelCase` name starts.
-/

namespace RpcBindings.Text

/-- A text whose first character is in upper case. -/
def capitalize : List Char → List Char
  | [] => []
  | c :: cs => LetterCase.upperChar c ++ cs

/-- The name in `PascalCase`: the parts between underscores, capitalized and joined. -/
def pascalCase (name : List Char) : List Char :=
  (splitOn '_' name).flatMap capitalize

/-- Whether the text after a capital is the plural `s` that closes an acronym, as in `IDs` and
`IDsSent`. -/
def isPluralEnd : List Char → Bool
  | ['s'] => true
  | 's' :: c :: _ => c == '_' || c.isUpper
  | _ => false

/-- Whether the capital `c` starts a word, given the character before it and the text after it.  A
run of capitals is one word, which ends before the capital that starts the next word. -/
def startsWord (before : Option Char) (c : Char) (after : List Char) : Bool :=
  c.isUpper &&
    match before with
    | none => false
    | some b =>
      b.isLower || b.isDigit ||
        (b.isUpper && (after.head?.any Char.isLower) && !isPluralEnd after)

/-- The `snake_case` form of the rest of a name that follows the character `before`. -/
def snakeAfter (before : Option Char) : List Char → List Char
  | [] => []
  | c :: cs =>
    (if startsWord before c cs then ['_', c.toLower] else [c.toLower]) ++ snakeAfter (some c) cs

/-- The name in `snake_case`. -/
def snakeCase (name : List Char) : List Char :=
  snakeAfter none name

end RpcBindings.Text
