/-!
# Digits

Numbers written in a base of at most sixteen.

## Main definitions

* `digit?` — the value of a digit in a base.
* `number?` — the number that digits spell.
-/

namespace RpcBindings.Text

/-- The value of a hexadecimal digit. -/
def hexDigit? (c : Char) : Option Nat :=
  if c.isDigit then some (c.toNat - '0'.toNat)
  else if 'a' ≤ c && c ≤ 'f' then some (c.toNat - 'a'.toNat + 10)
  else if 'A' ≤ c && c ≤ 'F' then some (c.toNat - 'A'.toNat + 10)
  else none

/-- Whether a character is a hexadecimal digit. -/
def isHexDigit (c : Char) : Bool :=
  (hexDigit? c).isSome

/-- The value of a digit in a base. -/
def digit? (base : Nat) (c : Char) : Option Nat :=
  (hexDigit? c).bind fun d => if d < base then some d else none

/-- The number that digits spell after those with the value `high`. -/
def numberFrom? (base high : Nat) : List Char → Option Nat
  | [] => some high
  | c :: cs => (digit? base c).bind fun d => numberFrom? base (base * high + d) cs

/-- The number that at least one digit spells. -/
def number? (base : Nat) : List Char → Option Nat
  | [] => none
  | cs => numberFrom? base 0 cs

end RpcBindings.Text
