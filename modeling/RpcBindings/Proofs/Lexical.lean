import RpcBindings.Proofs.Pieces
import RpcBindings.Source.Token
import RpcBindings.Text.LetterCase
import Mathlib.Data.List.TakeDrop
import Mathlib.Data.List.TakeWhile

/-!
# Tokens of a file

What the tokens of a file look like.  Words are made of the characters of the language's
identifiers, which the Unicode tables give as ranges; that one table contains another is decided by
one walk through both, since the ranges of each stand in order.  Only the few strides of capitals
that no single range contains are looked up one by one.

## Main definitions

* `CodePoints.uncovered` — the ranges left over by a walk along ranges that cover them.
* `Token.IsWord` — the texts of words.
* `Token.IsFit` — what the gap, the kind and the text of a token have in common.

## Main results

* `Token.continuesWord_of_startsWord` — a character that starts a word may stand anywhere in it.
* `Token.startsWord_of_isCapital` — a capital inside of a word could start one.
* `Token.isFit_of_scan?` — **each token of a text is fit.**
-/

namespace RpcBindings

/-! ### Tables -/

namespace Text.CodePoints

/-- Whether the range lies in another one. -/
def Range.within (r q : Range) : Bool :=
  q.1.ble r.1 && r.2.ble q.2

/-- Whether the range lies outside of another one. -/
def Range.apart (r q : Range) : Bool :=
  q.2.blt r.1 || r.2.blt q.1

/-- The ranges that are left over when those in front which lie in a range are dropped, for one
range after another. -/
def uncovered (qs rs : List Range) : List Range :=
  qs.foldl (fun rs q => rs.dropWhile fun r => r.within q) rs

theorem exists_within_of_uncovered {qs rs : List Range} (h : uncovered qs rs = []) :
    ∀ r ∈ rs, ∃ q ∈ qs, r.within q = true := by
  induction qs generalizing rs with
  | nil =>
    rw [uncovered, List.foldl_nil] at h
    simp [h]
  | cons q qs ih =>
    intro r hr
    rw [← List.takeWhile_append_dropWhile (p := fun r => Range.within r q) (l := rs),
      List.mem_append] at hr
    rcases hr with hr | hr
    · exact ⟨q, List.mem_cons_self, List.mem_takeWhile_imp (p := fun r => Range.within r q) hr⟩
    · obtain ⟨q', hq', hwithin⟩ := ih h r hr
      exact ⟨q', List.mem_cons_of_mem q hq', hwithin⟩

theorem inRanges_iff {rs : List Range} {n : Nat} :
    inRanges rs n = true ↔ ∃ r ∈ rs, r.1 ≤ n ∧ n ≤ r.2 := by
  simp [inRanges]

theorem inRanges_of_within {qs : List Range} {r : Range} {n : Nat} (hlow : r.1 ≤ n) (hhigh : n ≤ r.2)
    (h : ∃ q ∈ qs, r.within q = true) : inRanges qs n = true := by
  obtain ⟨q, hq, hwithin⟩ := h
  simp only [Range.within, Bool.and_eq_true, Nat.ble_eq] at hwithin
  exact inRanges_iff.mpr ⟨q, hq, by omega, by omega⟩

theorem inRanges_of_uncovered {qs rs : List Range} (h : uncovered qs rs = []) {n : Nat}
    (hn : inRanges rs n = true) : inRanges qs n = true := by
  obtain ⟨r, hr, hlow, hhigh⟩ := inRanges_iff.mp hn
  exact inRanges_of_within hlow hhigh (exists_within_of_uncovered h r hr)

theorem not_inRanges_of_apart {qs : List Range} {r : Range}
    (h : (qs.all fun q => r.apart q) = true) {n : Nat} (hlow : r.1 ≤ n) (hhigh : n ≤ r.2) :
    inRanges qs n = false := by
  rw [Bool.eq_false_iff, Ne, inRanges_iff]
  rintro ⟨q, hq, hq1, hq2⟩
  have hapart := List.all_eq_true.mp h q hq
  simp only [Range.apart, Bool.or_eq_true, Nat.blt_eq] at hapart
  omega

/-- The code points of a stride. -/
def Stride.points (s : Stride) : List Nat :=
  List.range' s.1 ((s.2.1 - s.1) / s.2.2 + 1) s.2.2

theorem Stride.bounds {s : Stride} {n : Nat} (h : Stride.contains s n = true) :
    s.1 ≤ n ∧ n ≤ s.2.1 := by
  simp only [Stride.contains, Bool.and_eq_true, decide_eq_true_eq] at h
  exact h.1

theorem Stride.mem_points {s : Stride} {n : Nat} (h : Stride.contains s n = true) :
    n ∈ Stride.points s := by
  simp only [Stride.contains, Bool.and_eq_true, decide_eq_true_eq, beq_iff_eq] at h
  obtain ⟨⟨hlow, hhigh⟩, hmod⟩ := h
  rw [points, List.mem_range']
  refine ⟨(n - s.1) / s.2.2, ?_, ?_⟩
  · have hle : (n - s.1) / s.2.2 ≤ (s.2.1 - s.1) / s.2.2 := Nat.div_le_div_right (by omega)
    omega
  · have hdiv := Nat.mul_div_cancel' (Nat.dvd_of_mod_eq_zero hmod)
    omega

end Text.CodePoints

namespace Source.Token

open Text Text.CodePoints

/-! ### Characters of words -/

/-- A character that starts a word may stand anywhere in it. -/
theorem continuesWord_of_startsWord {c : Char} (h : startsWord c = true) :
    continuesWord c = true := by
  have hranges : inRanges Identifier.starts c.toNat = true →
      inRanges Identifier.continues c.toNat = true :=
    inRanges_of_uncovered (by decide +kernel)
  simp only [startsWord, Identifier.isStart, Bool.or_eq_true, beq_iff_eq] at h
  simp only [continuesWord, Identifier.isContinue, Bool.or_eq_true, beq_iff_eq]
  rcases h with (h | rfl) | rfl
  · refine .inl (.inl ?_)
    split at h
    · next hascii => rw [if_pos hascii, Char.isAlphanum, h]; rfl
    · next hascii => rw [if_neg hascii]; exact hranges h
  · exact .inl (.inl (by decide))
  · exact .inl (.inr rfl)

/-- The strides of capitals that no range of `starts` holds as a whole: there are other characters
between their code points, or they are letters in circles and squares, which no identifier has. -/
def scattered : List Stride :=
  [(902, 910, 2), (911, 939, 2), (8025, 8031, 2), (8484, 8492, 2), (9398, 9423, 1),
   (66928, 66964, 2), (119964, 119966, 2), (127280, 127305, 1), (127312, 127337, 1),
   (127344, 127369, 1)]

/-- Whether the code points of a stride start identifiers, or do not occur in them. -/
def settles (s : Stride) : Bool :=
  (Identifier.continues.all fun q => Range.apart (s.1, s.2.1) q) ||
    (Stride.points s).all fun n => Identifier.starts.any fun q => Range.within (n, n) q

theorem inRanges_starts_of_settles {s : Stride} (h : settles s = true) {n : Nat}
    (hn : Stride.contains s n = true) (hcontinues : inRanges Identifier.continues n = true) :
    inRanges Identifier.starts n = true := by
  simp only [settles, Bool.or_eq_true] at h
  rcases h with h | h
  · obtain ⟨hlow, hhigh⟩ := Stride.bounds hn
    rw [not_inRanges_of_apart h hlow hhigh] at hcontinues
    cases hcontinues
  · exact inRanges_of_within (r := (n, n)) (Nat.le_refl n) (Nat.le_refl n)
      (List.any_eq_true.mp (List.all_eq_true.mp h n (Stride.mem_points hn)))

/-- A capital that may continue an identifier may start one. -/
theorem inRanges_starts_of_capital {s : Stride} (hs : s ∈ LetterCase.capitals) {n : Nat}
    (hn : Stride.contains s n = true) (hcontinues : inRanges Identifier.continues n = true) :
    inRanges Identifier.starts n = true := by
  have hsettles : scattered.all settles = true := by decide +kernel
  have hothers : uncovered Identifier.starts
      ((LetterCase.capitals.filter (!scattered.contains ·)).map fun s => (s.1, s.2.1)) = [] := by
    decide +kernel
  by_cases hscattered : s ∈ scattered
  · exact inRanges_starts_of_settles (List.all_eq_true.mp hsettles s hscattered) hn hcontinues
  · obtain ⟨hlow, hhigh⟩ := Stride.bounds hn
    exact inRanges_of_within (r := (s.1, s.2.1)) hlow hhigh
      (exists_within_of_uncovered hothers _
        (List.mem_map_of_mem (List.mem_filter.mpr ⟨hs, by simpa using hscattered⟩)))

/-- A capital inside of a word could start one. -/
theorem startsWord_of_isCapital {c : Char} (h : LetterCase.isCapital c = true)
    (hcontinues : continuesWord c = true) : startsWord c = true := by
  have hnot : c ≠ '$' ∧ c ≠ '¢' := by
    constructor
    all_goals
      rintro rfl
      revert h
      decide
  simp only [continuesWord, Identifier.isContinue, Bool.or_eq_true, beq_iff_eq, hnot, or_false]
    at hcontinues
  simp only [startsWord, Identifier.isStart, Bool.or_eq_true]
  refine .inl (.inl ?_)
  rw [LetterCase.isCapital] at h
  split at h
  · next hascii =>
    rw [if_pos hascii]
    exact (Bool.or_eq_true _ _).mpr (.inl h)
  · next hascii =>
    rw [if_neg hascii] at hcontinues ⊢
    obtain ⟨s, hs, hcontains⟩ := List.any_eq_true.mp h
    exact inRanges_starts_of_capital hs hcontains hcontinues

/-- The blanks outside of ASCII. -/
def wideBlanks : List Range :=
  [(0x85, 0x85), (0xA0, 0xA0), (0x1680, 0x1680), (0x2000, 0x200A), (0x2028, 0x2029),
   (0x202F, 0x202F), (0x205F, 0x205F), (0x3000, 0x3000)]

/-- A blank stands in no word. -/
theorem continuesWord_of_isBlank {c : Char} (h : isBlank c = true) : continuesWord c = false := by
  have hwide : wideBlanks.all (fun r => Identifier.continues.all fun q => r.apart q) = true := by
    decide +kernel
  have hranges : inRanges wideBlanks c.toNat = true →
      inRanges Identifier.continues c.toNat = false := by
    intro hn
    obtain ⟨r, hr, hlow, hhigh⟩ := inRanges_iff.mp hn
    exact not_inRanges_of_apart (List.all_eq_true.mp hwide r hr) hlow hhigh
  have hsigns : c ≠ '_' ∧ c ≠ '$' ∧ c ≠ '¢' := by
    refine ⟨?_, ?_, ?_⟩
    all_goals
      rintro rfl
      revert h
      decide
  rw [continuesWord, Identifier.isContinue]
  -- the tables leave out ASCII, and the other blanks are few
  by_cases hascii : c.toNat < 128
  · rw [if_pos hascii, isAlphanum_of_isBlank h]
    simp [hsigns]
  · have hn : inRanges wideBlanks c.toNat = true := by
      simp only [isBlank, Bool.or_eq_true, beq_iff_eq, Bool.and_eq_true, decide_eq_true_eq,
        ← Char.toNat_inj] at h
      simp only [inRanges, wideBlanks, List.any_cons, List.any_nil, Bool.or_eq_true,
        Bool.and_eq_true, decide_eq_true_eq]
      simp at h ⊢
      omega
    rw [if_neg hascii, hranges hn]
    simp [hsigns]

/-! ### Texts of tokens -/

/-- The texts of words. -/
def IsWord : List Char → Prop
  | [] => False
  | c :: cs => startsWord c = true ∧ ∀ d ∈ cs, continuesWord d = true

theorem IsWord.continuesWord {w : List Char} (h : IsWord w) :
    ∀ c ∈ w, continuesWord c = true := by
  cases w with
  | nil => cases h
  | cons c cs => exact List.forall_mem_cons.mpr ⟨continuesWord_of_startsWord h.1, h.2⟩

theorem isWord_takeWhile {c : Char} {cs : List Char} (h : startsWord c = true) :
    IsWord ((c :: cs).takeWhile Token.continuesWord) := by
  rw [List.takeWhile_cons_of_pos (continuesWord_of_startsWord h)]
  exact ⟨h, fun d hd => List.mem_takeWhile_imp hd⟩

/-- The kinds of numbers and characters. -/
def literalKinds : List Kind :=
  [.decimalIntegerLiteral, .hexIntegerLiteral, .octalIntegerLiteral, .binaryIntegerLiteral,
   .decimalFloatingPointLiteral, .hexFloatingPointLiteral, .characterLiteral]

theorem number_mem_literalKinds (cs : List Char) : (number cs).1 ∈ literalKinds := by
  have hhex : ∀ mark cs, (hexNumber mark cs).1 ∈ literalKinds := by
    intro mark cs
    simp only [hexNumber, literalKinds]
    repeat' split
    all_goals simp
  have hplain : ∀ cs, (plainNumber cs).1 ∈ literalKinds := by
    intro cs
    simp only [plainNumber, literalKinds]
    repeat' split
    all_goals simp
  unfold number
  split
  · exact hhex _ _
  · exact hhex _ _
  · split
    · simp [literalKinds]
    · exact hplain _
  · exact hplain _

/-- What the gap, the kind and the text of a token have in common. -/
structure IsFit (t : Token) : Prop where
  gap : ∀ c ∈ t.gap, isGap c = true ∨ c = byteOrderMark
  word : t.lexeme = .word → IsWord t.text
  comment : ∀ k, t.lexeme = .comment k → k.isComment = true ∧ '/' ∈ t.text
  literal : ∀ k, t.lexeme = .literal k → k ∈ literalKinds

/-- The token at the start of a text is fit behind any gap. -/
theorem isFit_of_lexeme? {cs text rest gap : List Char} {lexeme : Lexeme} {line : Nat}
    (h : lexeme? cs = some (lexeme, text, rest))
    (hgap : ∀ c ∈ gap, isGap c = true ∨ c = byteOrderMark) :
    IsFit ⟨gap, line, lexeme, text⟩ := by
  -- in order: the end, the two comments, the two strings, a character, and the other tokens
  unfold lexeme? at h
  split at h
  · cases h
  · rw [List.span_eq_takeWhile_dropWhile] at h
    cases h
    refine ⟨hgap, by simp, ?_, by simp⟩
    rintro k ⟨⟩
    exact ⟨rfl, by simp⟩
  · obtain ⟨⟨body, after⟩, -, h⟩ := Option.map_eq_some_iff.mp h
    cases h
    refine ⟨hgap, by simp, ?_, by simp⟩
    rintro k ⟨⟩
    exact ⟨rfl, List.mem_cons_self⟩
  · obtain ⟨⟨body, after⟩, -, h⟩ := Option.map_eq_some_iff.mp h
    cases h
    exact ⟨hgap, by simp, by simp, by simp⟩
  · obtain ⟨⟨body, after⟩, -, h⟩ := Option.map_eq_some_iff.mp h
    cases h
    exact ⟨hgap, by simp, by simp, by simp⟩
  · obtain ⟨⟨body, after⟩, -, h⟩ := Option.bind_eq_some_iff.mp h
    simp only [Option.ite_none_left_eq_some, Option.some.injEq, Prod.mk.injEq] at h
    obtain ⟨-, rfl, rfl, rfl⟩ := h
    exact ⟨hgap, by simp, by simp, by simp [literalKinds]⟩
  · next c cs _ _ _ _ _ =>
    split at h
    · next hstarts =>
      rw [List.span_eq_takeWhile_dropWhile] at h
      cases h
      exact ⟨hgap, fun _ => isWord_takeWhile hstarts, by simp, by simp⟩
    · split at h
      · cases h
        refine ⟨hgap, by simp, by simp, ?_⟩
        rintro k ⟨⟩
        exact number_mem_literalKinds _
      · split at h
        · cases h
          exact ⟨hgap, by simp, by simp, by simp⟩
        · obtain ⟨⟨sign, after⟩, -, h⟩ := Option.map_eq_some_iff.mp h
          cases h
          exact ⟨hgap, by simp, by simp, by simp⟩

theorem isFit_of_scanFrom? {fuel line : Nat} {cs : List Char} {ts : List Token}
    (h : scanFrom? fuel line cs = some ts) : ∀ t ∈ ts, t.IsFit := by
  induction fuel generalizing line cs ts with
  | zero => cases h
  | succ fuel ih =>
    have hgap : ∀ c ∈ (cs.span isGap).1, isGap c = true ∨ c = byteOrderMark := by
      rw [List.span_eq_takeWhile_dropWhile]
      exact fun c hc => .inl (List.mem_takeWhile_imp hc)
    simp only [scanFrom?] at h
    split at h
    · cases h
      intro t ht
      rw [List.mem_singleton.mp ht]
      exact ⟨hgap, by simp, by simp, by simp⟩
    · simp only [Option.bind_eq_bind, Option.bind_eq_some_iff, Option.pure_def,
        Option.some.injEq] at h
      obtain ⟨⟨lexeme, text, after⟩, hlexeme, tokens, htokens, rfl⟩ := h
      exact List.forall_mem_cons.mpr ⟨isFit_of_lexeme? hlexeme hgap, ih htokens⟩

/-- **Each token of a text is fit.** -/
theorem isFit_of_scan? {cs : List Char} {ts : List Token} (h : scan? cs = some ts) :
    ∀ t ∈ ts, t.IsFit := by
  -- a byte order mark comes into the gap of the first token
  unfold scan? at h
  split at h
  · next c rest =>
    split at h
    · next hmark =>
      split at h
      · next t ts' hscan =>
        cases h
        obtain ⟨ht, hts⟩ := List.forall_mem_cons.mp (isFit_of_scanFrom? hscan)
        have hgap : ∀ d ∈ c :: t.gap, isGap d = true ∨ d = byteOrderMark :=
          List.forall_mem_cons.mpr ⟨.inr hmark, ht.gap⟩
        exact List.forall_mem_cons.mpr ⟨⟨hgap, ht.word, ht.comment, ht.literal⟩, hts⟩
      · exact isFit_of_scanFrom? h
    · exact isFit_of_scanFrom? h
  · exact isFit_of_scanFrom? h

end Source.Token

end RpcBindings
