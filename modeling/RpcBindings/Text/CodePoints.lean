/-!
# Sets of code points

Membership in a set of characters given by a table, and shifts given by a table.

## Main definitions

* `Range`, `inRanges` — closed ranges of code points.
* `Stride`, `inStrides` — ranges that take every `step`-th code point.
* `Shift`, `shift?` — how far a code point moves.
-/

namespace RpcBindings.Text.CodePoints

/-- The code points from `first` to `last`, both included. -/
abbrev Range := Nat × Nat

/-- The code points `first`, `first + step`, … up to `last`. -/
abbrev Stride := Nat × Nat × Nat

/-- The code points of a stride and the distance by which each of them moves. -/
abbrev Shift := Nat × Nat × Nat × Int

/-- Whether `n` is a member of the stride. -/
def Stride.contains (s : Stride) (n : Nat) : Bool :=
  s.1 ≤ n && n ≤ s.2.1 && (n - s.1) % s.2.2 == 0

/-- Whether `n` lies in one of the ranges. -/
def inRanges (ranges : List Range) (n : Nat) : Bool :=
  ranges.any fun r => r.1 ≤ n && n ≤ r.2

/-- Whether `n` lies in one of the strides. -/
def inStrides (strides : List Stride) (n : Nat) : Bool :=
  strides.any fun s => Stride.contains s n

/-- The code point that `n` moves to, if some shift covers it. -/
def shift? (shifts : List Shift) (n : Nat) : Option Nat :=
  (shifts.find? fun s => Stride.contains (s.1, s.2.1, s.2.2.1) n).map fun s =>
    ((n : Int) + s.2.2.2).toNat

end RpcBindings.Text.CodePoints
