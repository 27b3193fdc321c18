import RpcBindings.Render.Command
import Mathlib.Data.Finset.Card
import Mathlib.Data.Finset.Dedup

/-!
# What the constructor of a class checks

The constructor of a command with groups holds a `match` statement for each of them, which counts
how many of the arguments of the group are given.  Here such a statement is a value with a text and
a meaning, and the constructor is shown to consist of these texts.

## Main definitions

* `MatchBlock` — a `match` statement on a count, with `MatchBlock.lines` and `MatchBlock.outcome`.
* `Resolved.matchBlock` — the statement for a group.
* `MatchBlock.Passes` — the statement lets a set of keywords through.

## Main results

* `Resolved.constructor_eq` — the constructor is its fixed head and the statements of the groups.
* `Resolved.passes_matchBlock_iff` — **what a statement lets through**: one argument of a required
  group, at most one of any other.
-/

namespace RpcBindings

open Text Render

/-! ### Statements on a count -/

/-- The pattern of a case: one of several numbers, or anything. -/
inductive CountPattern
  | oneOf (counts : List Nat)
  | any

/-- What a case does. -/
inductive CheckOutcome
  | pass
  | raise (message : String)
  deriving DecidableEq

/-- A `match` statement on the number of given keywords among the listed ones. -/
structure MatchBlock where
  listed : List String
  cases : List (CountPattern × CheckOutcome)

/-- Whether a count fits a pattern. -/
def CountPattern.fits (n : Nat) : CountPattern → Bool
  | oneOf counts => counts.contains n
  | any => true

/-- The text of a pattern. -/
def CountPattern.text : CountPattern → String
  | oneOf counts => " | ".intercalate (counts.map toString)
  | any => "_"

/-- The statement that a case consists of. -/
def CheckOutcome.text : CheckOutcome → String
  | pass => "pass"
  | raise message => "raise ValueError(f\"" ++ message ++ "\")"

namespace MatchBlock

/-- The lines of the statement in the body of a method. -/
def lines (b : MatchBlock) : List String :=
  ("    match len(kwargs.keys() & (args := [" ++
      ", ".intercalate (b.listed.map (through Literal.quote)) ++ "])):") ::
    b.cases.flatMap fun c =>
      ["        case " ++ c.1.text ++ ":", "            " ++ c.2.text]

/-- What the statement does for a count: what the first case that fits does, or nothing. -/
def outcome (b : MatchBlock) (n : Nat) : CheckOutcome :=
  ((b.cases.find? fun c => c.1.fits n).map Prod.snd).getD .pass

/-- The statement lets a set of keywords through. -/
def Passes (b : MatchBlock) (K : Finset String) : Prop :=
  b.outcome (K ∩ b.listed.toFinset).card = .pass

instance (b : MatchBlock) (K : Finset String) : Decidable (b.Passes K) :=
  inferInstanceAs (Decidable (_ = _))

end MatchBlock

/-! ### The statements of a constructor -/

namespace Resolved

/-- The statement for a group. -/
def matchBlock (r : Resolved) (g : Group) : MatchBlock where
  listed := (r.members g).map Argument.name
  cases :=
    let required := CheckOutcome.raise "One of \x7bargs!r\x7d is required!"
    let exclusive := CheckOutcome.raise "Arguments \x7bargs!r\x7d are mutually exclusive!"
    if g.isRequired then [(.oneOf [0], required), (.oneOf [1], .pass), (.any, exclusive)]
    else [(.oneOf [0, 1], .pass), (.any, exclusive)]

/-- The statements of the constructor, one for each group. -/
def matchBlocks (r : Resolved) : List MatchBlock :=
  r.command.groups.map r.matchBlock

/-- The lines of every constructor: it sets the defaults, and then what is given. -/
def constructorHead : List String :=
  ["def __init__(self, **kwargs):",
   "    self.__dict__.update(\x7bf.name: f.default for f in fields(self) if f.default != MISSING\x7d)",
   "    self.__dict__.update(kwargs)"]

theorem lines_matchBlock (r : Resolved) (g : Group) :
    (r.matchBlock g).lines = r.groupCheck g := by
  rw [MatchBlock.lines, matchBlock, groupCheck, List.map_map]
  cases g.isRequired with
  | true => rfl
  | false => rfl

/-- The constructor is its fixed head and the statements of the groups. -/
theorem constructor_eq (r : Resolved) :
    r.constructor = joinLines (constructorHead ++ r.matchBlocks.flatMap MatchBlock.lines) := by
  rw [constructor, matchBlocks, List.flatMap_map]
  simp only [lines_matchBlock]
  rfl

/-- **What a statement lets through.**  Of the arguments of a required group exactly one is given,
and at most one of the arguments of any other group. -/
theorem passes_matchBlock_iff {r : Resolved} {g : Group} {K : Finset String} :
    (r.matchBlock g).Passes K ↔
      if g.isRequired then (K ∩ ((r.members g).map Argument.name).toFinset).card = 1
      else (K ∩ ((r.members g).map Argument.name).toFinset).card ≤ 1 := by
  unfold MatchBlock.Passes
  have hlisted : (r.matchBlock g).listed = (r.members g).map Argument.name := rfl
  rw [hlisted]
  generalize (K ∩ ((r.members g).map Argument.name).toFinset).card = n
  unfold MatchBlock.outcome matchBlock
  -- no case tells counts above one apart
  match n with
  | 0 => cases g.isRequired <;> simp [CountPattern.fits]
  | 1 => cases g.isRequired <;> simp [CountPattern.fits]
  | n + 2 => cases g.isRequired <;> simp [CountPattern.fits]

end Resolved

end RpcBindings
