import RpcBindings.Proofs.LiteralValue
import RpcBindings.Proofs.Tree

/-!
# The values of constant strings

Expressions that are built from ordinary string literals with `+` and parentheses.  Evaluation puts
the decoded pieces of all literals one behind another; so it gives no value exactly if some piece is
not decoded, and what it gives can be compared with the value of the expression literal by literal.

## Main definitions

* `StringExpression` — the expressions, with their literals and their values.
* `StringExpression.isSpelledBy` — whether a syntax node is the expression.

## Main results

* `StringExpression.constant?_eq` — the value of a node is that of its pieces.
* `StringExpression.constant_strings_valued` — **which constant strings have a value**, and when it
  is the one that the language gives.
-/

namespace RpcBindings.Source

open Literal

/-! ### Expressions -/

namespace Literal.Piece

/-- Whether a piece is a Unicode escape with more than one `u`, or one of a surrogate. -/
def IsRefused : Piece → Prop
  | unicode k _ n => 0 < k ∨ ¬n.isValidChar
  | _ => False

instance : DecidablePred IsRefused
  | plain _ | pair _ => inferInstanceAs (Decidable False)
  | unicode k _ n => inferInstanceAs (Decidable (0 < k ∨ ¬n.isValidChar))

theorem decoded?_eq_none_iff {p : Piece} : p.decoded? = none ↔ p.IsRefused := by
  match p with
  | plain c | pair c => simp [decoded?, IsRefused]
  | unicode 0 ds n => simp [decoded?, IsRefused, char?]
  | unicode (k + 1) ds n => simp [decoded?, IsRefused]

end Literal.Piece

theorem Literal.mapM_decoded?_append (ps qs : List Piece) :
    (ps ++ qs).mapM Piece.decoded? =
      (ps.mapM Piece.decoded?).bind fun v => (qs.mapM Piece.decoded?).map (v ++ ·) := by
  rw [List.mapM_append]
  cases ps.mapM Piece.decoded? with
  | none => rfl
  | some v => cases qs.mapM Piece.decoded? <;> rfl

theorem Literal.mapM_decoded?_eq_none_iff {ps : List Piece} :
    ps.mapM Piece.decoded? = none ↔ ∃ p ∈ ps, p.IsRefused := by
  induction ps with
  | nil => simp
  | cons p ps ih =>
    simp only [List.mem_cons, exists_eq_or_imp]
    rw [← ih, ← Piece.decoded?_eq_none_iff, mapM_decoded?_cons]
    cases p.decoded? <;> simp

namespace StringLiteral

/-- No Unicode escape in the literal spells a backslash. -/
def HidesNothing (l : StringLiteral) : Prop :=
  ∀ p ∈ l.pieces, ¬p.HidesBackslash

instance (l : StringLiteral) : Decidable l.HidesNothing :=
  inferInstanceAs (Decidable (∀ p ∈ l.pieces, ¬p.HidesBackslash))

/-- All octal escapes in the literal are escapes of a zero. -/
def OctalsAreZero (l : StringLiteral) : Prop :=
  ∀ i ∈ l.items, i.IsZeroIfOctal

instance (l : StringLiteral) : Decidable l.OctalsAreZero :=
  inferInstanceAs (Decidable (∀ i ∈ l.items, i.IsZeroIfOctal))

end StringLiteral

/-- An expression built from literals with `+` and parentheses. -/
inductive StringExpression
  | literal (l : StringLiteral)
  | parens (e : StringExpression)
  | sum (left right : StringExpression)

namespace StringExpression

/-- The literals of an expression, from left to right. -/
def literals : StringExpression → List StringLiteral
  | literal l => [l]
  | parens e => e.literals
  | sum a b => a.literals ++ b.literals

/-- The codes of the characters of the value of an expression. -/
def value : StringExpression → List Nat
  | literal l => l.value
  | parens e => e.value
  | sum a b => a.value ++ b.value

/-- Whether a syntax node is the expression.  Comments may stand between its parts. -/
def isSpelledBy : StringExpression → Node → Bool
  | literal l, n => n.is .stringLiteral && n.text == l.text
  | parens e, n => n.is .parenthesizedExpression && match n.members with
    | [m] => e.isSpelledBy m
    | _ => false
  | sum a b, n => n.is .binaryExpression &&
    match n.child? .left, n.child? .operator, n.child? .right with
    | some left, some operator, some right =>
      operator.text == ['+'] && a.isSpelledBy left && b.isSpelledBy right
    | _, _, _ => false

end StringExpression

/-! ### Evaluation -/

namespace Node

theorem firstConstant?_eq (cs : List Node) :
    firstConstant? cs =
      ((cs.filter fun c => c.isNamed && !c.isComment).head?).bind constant? := by
  induction cs with
  | nil => rfl
  | cons c cs ih =>
    rw [firstConstant?, List.filter_cons]
    split
    · rfl
    · exact ih

theorem constantIn?_eq (r : Role) (cs : List Node) :
    constantIn? r cs = (cs.find? fun c => c.role == some r).bind constant? := by
  induction cs with
  | nil => rfl
  | cons c cs ih =>
    rw [constantIn?, List.find?_cons]
    cases c.role == some r with
    | true => rfl
    | false => exact ih

theorem constant?_literal {n : Node} (h : n.kind? = some .stringLiteral) :
    n.constant? = Literal.decode? n.text := by
  cases n with
  | leaf g r k l t =>
    obtain rfl : k = some .stringLiteral := h
    rfl
  | tree g r k l cs =>
    obtain rfl : k = .stringLiteral := by simpa [kind?] using h
    rw [constant?]

theorem constant?_parens {n m : Node} (h : n.kind? = some .parenthesizedExpression)
    (hmembers : n.members = [m]) : n.constant? = m.constant? := by
  cases n with
  | leaf => cases hmembers
  | tree g r k l cs =>
    obtain rfl : k = .parenthesizedExpression := by simpa [kind?] using h
    rw [constant?, firstConstant?_eq]
    exact congrArg (fun ms => (List.head? ms).bind constant?) hmembers

theorem constant?_sum {n left operator right : Node} (h : n.kind? = some .binaryExpression)
    (hleft : n.child? .left = some left) (hoperator : n.child? .operator = some operator)
    (hplus : operator.text = ['+']) (hright : n.child? .right = some right) :
    n.constant? = left.constant?.bind fun a => right.constant?.map (a ++ ·) := by
  cases n with
  | leaf => cases hleft
  | tree g r k l cs =>
    obtain rfl : k = .binaryExpression := by simpa [kind?] using h
    rw [child?, children] at hleft hoperator hright
    rw [constant?, isSum, hoperator, constantIn?_eq, constantIn?_eq, hleft, hright]
    simp only [hplus, beq_self_eq_true, if_true, Option.bind_some]
    cases left.constant? with
    | none => rfl
    | some a => cases right.constant? <;> rfl

end Node

namespace StringExpression

/-- The value of a node is that of the pieces of its literals. -/
theorem constant?_eq {e : StringExpression} {n : Node} (h : e.isSpelledBy n = true) :
    n.constant? = (e.literals.flatMap StringLiteral.pieces).mapM Piece.decoded? := by
  induction e generalizing n with
  | literal l =>
    simp only [isSpelledBy, Bool.and_eq_true, Node.is, beq_iff_eq] at h
    rw [Node.constant?_literal h.1, h.2, l.decode?_text, literals, List.flatMap_singleton]
  | parens e ih =>
    simp only [isSpelledBy, Bool.and_eq_true, Node.is, beq_iff_eq] at h
    obtain ⟨hkind, h⟩ := h
    split at h
    · next m hmembers => rw [Node.constant?_parens hkind hmembers, ih h, literals]
    · cases h
  | sum a b iha ihb =>
    simp only [isSpelledBy, Bool.and_eq_true, Node.is, beq_iff_eq] at h
    obtain ⟨hkind, h⟩ := h
    split at h
    · next left operator right hleft hoperator hright =>
      simp only [Bool.and_eq_true, beq_iff_eq] at h
      obtain ⟨⟨hplus, hl⟩, hr⟩ := h
      rw [Node.constant?_sum hkind hleft hoperator hplus hright, iha hl, ihb hr, literals,
        List.flatMap_append, mapM_decoded?_append]
    · cases h

theorem value_eq (e : StringExpression) :
    e.value = (e.literals.flatMap StringLiteral.items).map Item.value := by
  induction e with
  | literal l => simp [value, literals, StringLiteral.value]
  | parens e ih => exact ih
  | sum a b iha ihb => simp [value, literals, iha, ihb]

/-- What is made of literals one behind another, in none of which a backslash is hidden. -/
theorem matches_of_literals {ls : List StringLiteral} {v : List Char}
    (hopen : ∀ l ∈ ls, l.HidesNothing)
    (hv : (ls.flatMap StringLiteral.pieces).mapM Piece.decoded? = some v) :
    Matches v (ls.flatMap StringLiteral.items) := by
  induction ls generalizing v with
  | nil =>
    cases hv
    exact matches_nil
  | cons l ls ih =>
    obtain ⟨hl, hopen⟩ := List.forall_mem_cons.mp hopen
    rw [List.flatMap_cons, mapM_decoded?_append, Option.bind_eq_some_iff] at hv
    obtain ⟨w, hw, hv⟩ := hv
    obtain ⟨x, hx, rfl⟩ := Option.map_eq_some_iff.mp hv
    exact (matches_of_reads l.proper hl l.reads hw).append (ih hopen hx)

/-- **Which constant strings have a value.**  Evaluation gives no value exactly if there is a
Unicode escape with more than one `u` or one of a surrogate.  Where no Unicode escape spells a
backslash, a value that it gives is the one of the language exactly if all octal escapes are escapes
of a zero by a single digit. -/
theorem constant_strings_valued {e : StringExpression} {n : Node}
    (h : e.isSpelledBy n = true) :
    (n.constant? = none ↔ ∃ l ∈ e.literals, ∃ p ∈ l.pieces, p.IsRefused) ∧
      ((∀ l ∈ e.literals, l.HidesNothing) → ∀ v, n.constant? = some v →
        (v.map Char.toNat = e.value ↔ ∀ l ∈ e.literals, l.OctalsAreZero)) := by
  rw [constant?_eq h]
  constructor
  · rw [mapM_decoded?_eq_none_iff]
    simp only [List.mem_flatMap]
    grind
  · intro hopen v hv
    rw [value_eq, (matches_of_literals hopen hv).eq_iff]
    simp only [List.mem_flatMap, StringLiteral.OctalsAreZero]
    grind

/-- The literal `"a\t"`. -/
def letterAndTab : StringLiteral where
  pieces := [.plain 'a', .pair 't']
  items := [.plain 97, .letter '\t']
  proper := by decide
  reads := .plain (by decide) (.letter (c := 't') (by decide) .nil)

/-- The literal `"\0B"`. -/
def zeroAndLetter : StringLiteral where
  pieces := [.pair '0', .plain 'B']
  items := [.octal [48], .plain 66]
  proper := by decide
  reads := .octal (show IsOctal [48] by decide) (by decide) (.plain (by decide) .nil)

/-- The literal `"\u0043"`. -/
def letterByCode : StringLiteral where
  pieces := [.unicode 0 ['0', '0', '4', '3'] 67]
  items := [.plain 67]
  proper := by decide
  reads := .plain (by decide) .nil

/-- The expression `("a\t" + "\0B") + "\u0043"`. -/
def sumOfLiterals : StringExpression :=
  .sum (.parens (.sum (.literal letterAndTab) (.literal zeroAndLetter))) (.literal letterByCode)

/-- A class with a field that has the expression as its value. -/
def inField (expression : String) : String :=
  "class T \x7b Object x = " ++ expression ++ "; \x7d"

def sumText : String :=
  inField "(\"a\\t\" + \"\\0B\") + \"\\u0043\""

/-- Whether the text has a node that is the expression and has the value. -/
def isEvaluated (text : String) (e : StringExpression) (v : List Char) : Bool :=
  File.hasNode text fun n => e.isSpelledBy n && n.constant? == some v

theorem exists_of_isEvaluated {text : String} {e : StringExpression} {v : List Char}
    (h : isEvaluated text e v = true) :
    ∃ file n, File.ofText? "T.java" text = some file ∧ n ∈ file.root.preorder ∧
      e.isSpelledBy n = true ∧ n.constant? = some v := by
  obtain ⟨file, n, hfile, hn, h⟩ := File.exists_of_hasNode h "T.java"
  obtain ⟨hspelled, hv⟩ := Bool.and_eq_true_iff.mp h
  exact ⟨file, n, hfile, hn, hspelled, by simpa using hv⟩

theorem isEvaluated_sumText :
    isEvaluated sumText sumOfLiterals ['a', '\t', '\x00', 'B', 'C'] = true := by
  decide +kernel

/-- The sum has the value that the language gives it. -/
theorem sum_constant_strings_valued :
    ∃ file n v, File.ofText? "T.java" sumText = some file ∧ n ∈ file.root.preorder ∧
      sumOfLiterals.isSpelledBy n = true ∧ (∀ l ∈ sumOfLiterals.literals, l.HidesNothing) ∧
        n.constant? = some v ∧ v.map Char.toNat = sumOfLiterals.value := by
  obtain ⟨file, n, hfile, hn, hspelled, hv⟩ := exists_of_isEvaluated isEvaluated_sumText
  have hopen : ∀ l ∈ sumOfLiterals.literals, l.HidesNothing := by decide
  exact ⟨file, n, _, hfile, hn, hspelled, hopen, hv,
    ((constant_strings_valued hspelled).2 hopen _ hv).mpr (by decide)⟩

/-- The literal `"\101"`, whose value is the letter `A`. -/
def letterByOctal : StringLiteral where
  pieces := [.pair '1', .plain '0', .plain '1']
  items := [.octal [49, 48, 49]]
  proper := by decide
  reads := .octal (show IsOctal [49, 48, 49] by decide) (by decide) .nil

def octalText : String :=
  inField "\"\\101\""

theorem isEvaluated_octalText :
    isEvaluated octalText (literal letterByOctal) ['1', '0', '1'] = true := by
  decide +kernel

/-- The literal `"\u005cn"`, whose value is a line feed. -/
def feedByCode : StringLiteral where
  pieces := [.unicode 0 ['0', '0', '5', 'c'] 92, .plain 'n']
  items := [.letter '\n']
  proper := by decide
  reads := .letter (c := 'n') (by decide) .nil

def hiddenText : String :=
  inField "\"\\u005cn\""

theorem isEvaluated_hiddenText :
    isEvaluated hiddenText (literal feedByCode) ['\\', 'n'] = true := by
  decide +kernel

/-- An octal escape gives its digits, and a backslash that a Unicode escape spells starts no escape
with the letter behind it. -/
theorem escapes_misread :
    (∃ file n, File.ofText? "T.java" octalText = some file ∧ n ∈ file.root.preorder ∧
      (literal letterByOctal).isSpelledBy n = true ∧ n.constant? = some ['1', '0', '1'] ∧
        (literal letterByOctal).value = ['A'.toNat]) ∧
    ∃ file n, File.ofText? "T.java" hiddenText = some file ∧ n ∈ file.root.preorder ∧
      (literal feedByCode).isSpelledBy n = true ∧ n.constant? = some ['\\', 'n'] ∧
        (literal feedByCode).value = ['\n'.toNat] := by
  constructor
  · obtain ⟨file, n, hfile, hn, hspelled, hv⟩ := exists_of_isEvaluated isEvaluated_octalText
    exact ⟨file, n, hfile, hn, hspelled, hv, by decide⟩
  · obtain ⟨file, n, hfile, hn, hspelled, hv⟩ := exists_of_isEvaluated isEvaluated_hiddenText
    exact ⟨file, n, hfile, hn, hspelled, hv, by decide⟩

end StringExpression

end RpcBindings.Source
