import RpcBindings.Proofs.Pieces
import RpcBindings.Text.Identifier

/-!
# Words and signs of a program text

A program text without quoted parts consists of words, which are dotted names or parts of them, and
of single characters around them.  A text is cut wherever such a character stands, so that its atoms
are known from the atoms of its parts.

## Main definitions

* `Identifier.isName`, `Identifier.isDotted` — identifiers, and dotted names with dots in front.
* `Atom`, `atoms` — the words and signs of a text.

## Main results

* `atoms_append_sign` — **a sign cuts a text into two parts with atoms of their own.**
* `atoms_of_isDotted` — a dotted name is one word.
-/

namespace RpcBindings.Text

/-! ### Dotted names -/

namespace Identifier

/-- An identifier: a letter or an underscore, then letters, digits and underscores. -/
def isName : List Char → Bool
  | [] => false
  | c :: cs => (isStart c || c == '_') && cs.all isContinue

/-- The words of the language that are no identifiers. -/
def keywords : List String :=
  ["False", "None", "True", "and", "as", "assert", "async", "await", "break", "class", "continue",
   "def", "del", "elif", "else", "except", "finally", "for", "from", "global", "if", "import",
   "in", "is", "lambda", "nonlocal", "not", "or", "pass", "raise", "return", "try", "while",
   "with", "yield"]

/-- Identifiers with dots between them, and dots in front if the name is relative. -/
def isDotted (cs : List Char) : Bool :=
  (splitOn '.' (cs.dropWhile (· == '.'))).all fun w =>
    isName w && !keywords.contains (String.ofList w)

/-- The characters of identifiers. -/
def isNameChar (c : Char) : Bool :=
  isStart c || isContinue c

theorem isNameChar_of_isName {w : List Char} (h : isName w = true) :
    ∀ c ∈ w, isNameChar c = true := by
  cases w with
  | nil => cases h
  | cons c w =>
    obtain ⟨hc, hw⟩ := Bool.and_eq_true_iff.mp h
    have hunderscore : isNameChar '_' = true := by decide
    refine List.forall_mem_cons.mpr ⟨?_, fun d hd => ?_⟩
    · rcases Bool.or_eq_true_iff.mp hc with hc | hc
      · simp [isNameChar, hc]
      · rwa [beq_iff_eq.mp hc]
    · simp [isNameChar, List.all_eq_true.mp hw d hd]

end Identifier

/-- The characters of dotted names. -/
def isWordChar (c : Char) : Bool :=
  Identifier.isNameChar c || c == '.'

theorem isWordChar_of_isName {w : List Char} (h : Identifier.isName w = true) :
    ∀ c ∈ w, isWordChar c = true := fun c hc => by
  rw [isWordChar, Identifier.isNameChar_of_isName h c hc, Bool.true_or]

theorem isWordChar_of_isDotted {w : List Char} (h : Identifier.isDotted w = true) :
    ∀ c ∈ w, isWordChar c = true := by
  have hdot : isWordChar '.' = true := by decide
  intro c hc
  rw [← List.takeWhile_append_dropWhile (p := (· == '.')) (l := w), List.mem_append] at hc
  rcases hc with hc | hc
  · have heq : c = '.' := by simpa using List.mem_takeWhile_imp hc
    rwa [heq]
  · rcases exists_mem_splitOn '.' hc with rfl | ⟨s, hs, hc⟩
    · exact hdot
    · exact isWordChar_of_isName (Bool.and_eq_true_iff.mp (List.all_eq_true.mp h s hs)).1 c hc

theorem ne_nil_of_isDotted {w : List Char} (h : Identifier.isDotted w = true) : w ≠ [] := by
  rintro rfl
  cases h

/-! ### Atoms -/

/-- A word of a text, or a single character around words. -/
inductive Atom
  | word (cs : List Char)
  | sign (c : Char)
  deriving DecidableEq, Repr

/-- Puts a character of a word in front of some atoms. -/
def glue (c : Char) : List Atom → List Atom
  | .word w :: as => .word (c :: w) :: as
  | as => .word [c] :: as

/-- The words and signs of a text. -/
def atoms : List Char → List Atom
  | [] => []
  | c :: cs => if isWordChar c then glue c (atoms cs) else .sign c :: atoms cs

variable {c : Char} {w : List Char}

theorem glue_append_sign (d : Char) (as bs : List Atom) :
    glue d (as ++ .sign c :: bs) = glue d as ++ .sign c :: bs := by
  match as with
  | [] => rfl
  | .word w :: as => rfl
  | .sign e :: as => rfl

/-- **A sign cuts a text into two parts with atoms of their own.** -/
theorem atoms_append_sign (hc : isWordChar c = false) (cs ds : List Char) :
    atoms (cs ++ c :: ds) = atoms cs ++ .sign c :: atoms ds := by
  induction cs with
  | nil => simp [atoms, hc]
  | cons d cs ih =>
    rw [List.cons_append, atoms, atoms, ih]
    split
    · exact glue_append_sign d (atoms cs) (atoms ds)
    · rfl

/-- A text of word characters is one word. -/
theorem atoms_of_word (hne : w ≠ []) (hw : ∀ c ∈ w, isWordChar c = true) :
    atoms w = [.word w] := by
  induction w with
  | nil => exact absurd rfl hne
  | cons c w ih =>
    obtain ⟨hc, hw⟩ := List.forall_mem_cons.mp hw
    rw [atoms, if_pos hc]
    cases w with
    | nil => rfl
    | cons d w => rw [ih (List.cons_ne_nil d w) hw]; rfl

theorem atoms_of_isDotted (h : Identifier.isDotted w = true) : atoms w = [.word w] :=
  atoms_of_word (ne_nil_of_isDotted h) (isWordChar_of_isDotted h)

end RpcBindings.Text
