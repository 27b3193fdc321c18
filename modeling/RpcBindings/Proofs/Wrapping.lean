import RpcBindings.Proofs.Words
import RpcBindings.Text.Wrap
import Mathlib.Data.List.Chain

/-!
# Greedy wrapping

A text is wrapped by putting each word on the current line as long as the line does not get too
long.  What comes of it can be said without the words being put down one after another: no line that
could take the first word of the next line ends before it, and a line that is too long holds nothing
but one word.  There is only one way to satisfy these laws.

## Main definitions

* `Wraps` — the laws of greedy wrapping.
* `Spaced` — lines that consist of words, single spaces, and the indentation.
* `Fills` — the lines that a started line and the words after it fill.

## Main results

* `exists_fills` — a started line is filled as `wrapFrom` says.
* `Fills.wrapFrom_eq` — and in no other way.
* `wraps_greedily` — **wrapping follows the laws, and nothing else does.**
-/

namespace RpcBindings.Text

variable {text hang line w l m : List Char} {ws us ls rest : List (List Char)} {width : Nat}

/-! ### The laws -/

/-- The end of the line `l` is necessary: the first word of the next line `m` does not fit on it. -/
def Breaks (width : Nat) (l m : List Char) : Prop :=
  ∃ w ∈ (words m).head?, width < l.length + 1 + w.length

/-- The laws of greedy wrapping. -/
structure Wraps (text : List Char) (width : Nat) (hang : List Char) (ls : List (List Char)) :
    Prop where
  /-- The lines have the words of the text in their order, none of them broken. -/
  words_eq : ls.flatMap words = words text
  /-- Every line after the first starts with the indentation. -/
  indented : ∀ l ∈ ls.tail, hang <+: l
  /-- A line that is too long holds a single word. -/
  single : ∀ l ∈ ls, width < l.length → (words l).length = 1
  /-- Every line end is necessary. -/
  necessary : ls.IsChain (Breaks width)

/-- The lines consist of at least one word each, single spaces between the words, and the
indentation of the later lines. -/
structure Spaced (hang : List Char) (ls : List (List Char)) : Prop where
  first : ∀ l ∈ ls.head?, l = join [' '] (words l)
  later : ∀ l ∈ ls.tail, l = hang ++ join [' '] (words l)
  filled : ∀ l ∈ ls, words l ≠ []

/-- If only single words may be too long, a line of several words is not. -/
theorem length_le_of_single (hl : words l = w :: us)
    (hsingle : width < l.length → (words l).length = 1) (hus : us ≠ []) : l.length ≤ width := by
  by_contra hlong
  have hone := hsingle (by omega)
  rw [hl, List.length_cons] at hone
  exact hus (List.length_eq_zero_iff.mp (by omega))

/-! ### Filling a started line -/

/-- The words `ws` go on a started line: `us` are those that it takes, which makes it the line `l`,
and the others fill the lines `rest`. -/
structure Fills (width : Nat) (hang line : List Char) (ws us : List (List Char)) (l : List Char)
    (rest : List (List Char)) : Prop where
  line_eq : l = line ++ us.flatMap (' ' :: ·)
  words_eq : us ++ rest.flatMap words = ws
  fits : us ≠ [] → l.length ≤ width
  later : ∀ m ∈ rest, m = hang ++ join [' '] (words m)
  filled : ∀ m ∈ rest, words m ≠ []
  single : ∀ m ∈ rest, width < m.length → (words m).length = 1
  necessary : (l :: rest).IsChain (Breaks width)

namespace Fills

theorem nil (width : Nat) (hang line : List Char) : Fills width hang line [] [] line [] where
  line_eq := by simp
  words_eq := rfl
  fits := fun h => absurd rfl h
  later := by simp
  filled := by simp
  single := by simp
  necessary := .singleton line

/-- A word that fits goes on the line. -/
theorem cons_of_fits (h : Fills width hang (line ++ ' ' :: w) ws us l rest)
    (hfits : line.length + 1 + w.length ≤ width) : Fills width hang line (w :: ws) (w :: us) l rest
    where
  line_eq := by
    rw [h.line_eq]
    simp
  words_eq := by rw [List.cons_append, h.words_eq]
  fits := by
    intro _
    by_cases hus : us = []
    · have hl : l = line ++ ' ' :: w := by
        rw [h.line_eq, hus]
        simp
      rw [hl, List.length_append, List.length_cons]
      omega
    · exact h.fits hus
  later := h.later
  filled := h.filled
  single := h.single
  necessary := h.necessary

/-- A line that starts with a word has the words that it has been filled with. -/
theorem words_line (h : Fills width hang line ws us l rest) (hline : words line = [w])
    (hws : ∀ v ∈ ws, IsWord v) : words l = w :: us := by
  have hus : ∀ u ∈ us, IsWord u := by
    intro u hu
    refine hws u ?_
    rw [← h.words_eq]
    exact List.mem_append_left _ hu
  rw [h.line_eq, words_append_spaced line hus, hline]
  rfl

/-- A line of several words is not too long. -/
theorem length_words_of_lt (h : Fills width hang line ws us l rest) (hl : words l = w :: us)
    (hlong : width < l.length) : (words l).length = 1 := by
  have hnone : us = [] := by
    by_contra hus
    have hle := h.fits hus
    omega
  rw [hl, hnone]
  rfl

/-- A word that does not fit starts a new line. -/
theorem cons_of_not_fits (h : Fills width hang (hang ++ w) ws us m rest) (hm : words m = w :: us)
    (hover : width < line.length + 1 + w.length) :
    Fills width hang line (w :: ws) [] line (m :: rest) where
  line_eq := by simp
  words_eq := by rw [List.flatMap_cons, hm, List.nil_append, List.cons_append, h.words_eq]
  fits := fun hne => absurd rfl hne
  later := by
    refine List.forall_mem_cons.mpr ⟨?_, h.later⟩
    rw [hm, join_cons, ← List.append_assoc]
    exact h.line_eq
  filled := by
    refine List.forall_mem_cons.mpr ⟨?_, h.filled⟩
    rw [hm]
    exact List.cons_ne_nil w us
  single := List.forall_mem_cons.mpr ⟨h.length_words_of_lt hm, h.single⟩
  necessary := by
    refine List.isChain_cons_cons.mpr ⟨⟨w, ?_, hover⟩, h.necessary⟩
    rw [hm]
    rfl

/-- **A started line is filled in no other way.** -/
theorem wrapFrom_eq (h : Fills width hang line ws us l rest) :
    wrapFrom width hang line ws = l :: rest := by
  induction ws generalizing line us l rest with
  | nil =>
    obtain ⟨rfl, hrest⟩ := List.append_eq_nil_iff.mp h.words_eq
    -- a further line would have a word
    cases rest with
    | nil =>
      have hl := h.line_eq
      rw [List.flatMap_nil, List.append_nil] at hl
      rw [wrapFrom, hl]
    | cons m rest =>
      rw [List.flatMap_cons] at hrest
      exact absurd (List.append_eq_nil_iff.mp hrest).1 (h.filled m List.mem_cons_self)
  | cons w ws ih =>
    cases us with
    | cons u us =>
      -- the line takes the word, which must have fitted
      obtain ⟨rfl, hwords⟩ := List.cons.inj h.words_eq
      have hl := h.line_eq
      have hle := h.fits (List.cons_ne_nil u us)
      have hlen : l.length = line.length + 1 + u.length + (us.flatMap (' ' :: ·)).length := by
        rw [hl, List.flatMap_cons]
        simp only [List.length_append, List.length_cons]
        omega
      have hfits : ¬ line.length + 1 + u.length > width := by omega
      rw [wrapFrom, if_neg hfits]
      refine ih ⟨?_, hwords, fun _ => hle, h.later, h.filled, h.single, h.necessary⟩
      rw [hl]
      simp
    | nil =>
      cases rest with
      | nil => exact absurd h.words_eq (by simp)
      | cons m rest =>
        -- the word starts the next line, and cannot have fitted
        have hl := h.line_eq
        rw [List.flatMap_nil, List.append_nil] at hl
        subst hl
        obtain ⟨u, us, hm⟩ := List.exists_cons_of_ne_nil (h.filled m List.mem_cons_self)
        have hwords := h.words_eq
        rw [List.nil_append, List.flatMap_cons, hm] at hwords
        obtain ⟨rfl, htail⟩ := List.cons.inj hwords
        obtain ⟨⟨v, hv, hover⟩, hchain⟩ := List.isChain_cons_cons.mp h.necessary
        rw [hm] at hv
        cases hv
        obtain ⟨hmline, hlater⟩ := List.forall_mem_cons.mp h.later
        obtain ⟨hsingle, hsingles⟩ := List.forall_mem_cons.mp h.single
        have hrest : Fills width hang (hang ++ u) ws us m rest := by
          refine ⟨?_, htail, length_le_of_single hm hsingle, hlater,
            fun m hm => h.filled m (List.mem_cons_of_mem _ hm), hsingles, hchain⟩
          rw [hmline, hm, join_cons, List.append_assoc]
        rw [wrapFrom, if_pos hover, ih hrest]

end Fills

/-- **A started line is filled as `wrapFrom` says.** -/
theorem exists_fills (width : Nat) (hhang : ∀ c ∈ hang, isBlank c = true) (line : List Char)
    (hws : ∀ w ∈ ws, IsWord w) :
    ∃ us l rest, wrapFrom width hang line ws = l :: rest ∧ Fills width hang line ws us l rest := by
  induction ws generalizing line with
  | nil => exact ⟨[], line, [], rfl, .nil width hang line⟩
  | cons w ws ih =>
    obtain ⟨hw, hws⟩ := List.forall_mem_cons.mp hws
    by_cases hover : line.length + 1 + w.length > width
    · obtain ⟨us, m, rest, heq, hfills⟩ := ih (hang ++ w) hws
      have hstart : words (hang ++ w) = [w] := by
        rw [words_blanks_append hhang, words_of_isWord hw]
      refine ⟨[], line, m :: rest, ?_, hfills.cons_of_not_fits (hfills.words_line hstart hws) hover⟩
      rw [wrapFrom, if_pos hover, heq]
    · obtain ⟨us, l, rest, heq, hfills⟩ := ih (line ++ ' ' :: w) hws
      refine ⟨w :: us, l, rest, ?_, hfills.cons_of_fits (by omega)⟩
      rw [wrapFrom, if_neg hover, heq]

/-! ### Wrapped texts -/

theorem wrap_of_words_eq_nil (h : words text = []) : wrap text width hang = [] := by
  rw [wrap, h]

theorem wrap_of_words_eq_cons (h : words text = w :: ws) :
    wrap text width hang = wrapFrom width hang w ws := by
  rw [wrap, h]

/-- Wrapping follows the laws. -/
theorem wraps_wrap (text : List Char) (width : Nat) (hhang : ∀ c ∈ hang, isBlank c = true) :
    Wraps text width hang (wrap text width hang) ∧ Spaced hang (wrap text width hang) := by
  cases htext : words text with
  | nil =>
    rw [wrap_of_words_eq_nil htext]
    exact ⟨⟨htext.symm, by simp, by simp, .nil⟩, ⟨by simp, by simp, by simp⟩⟩
  | cons w ws =>
    have hwords : ∀ v ∈ w :: ws, IsWord v := fun v hv => isWord_of_mem_words (htext ▸ hv)
    obtain ⟨hw, hws⟩ := List.forall_mem_cons.mp hwords
    obtain ⟨us, l, rest, heq, hfills⟩ := exists_fills width hhang w hws
    have hl : words l = w :: us := hfills.words_line (words_of_isWord hw) hws
    rw [wrap_of_words_eq_cons htext, heq]
    refine ⟨⟨?_, fun m hm => ?_, ?_, hfills.necessary⟩, ⟨?_, hfills.later, ?_⟩⟩
    · rw [List.flatMap_cons, hl, List.cons_append, hfills.words_eq, htext]
    · rw [hfills.later m hm]
      exact List.prefix_append hang _
    · exact List.forall_mem_cons.mpr ⟨hfills.length_words_of_lt hl, hfills.single⟩
    · rintro _ ⟨rfl⟩
      rw [hl, join_cons]
      exact hfills.line_eq
    · refine List.forall_mem_cons.mpr ⟨?_, hfills.filled⟩
      rw [hl]
      exact List.cons_ne_nil w us

/-- The laws leave no choice. -/
theorem Wraps.eq_wrap (h : Wraps text width hang ls) (hspaced : Spaced hang ls) :
    ls = wrap text width hang := by
  have hwords := h.words_eq
  cases ls with
  | nil =>
    rw [List.flatMap_nil] at hwords
    rw [wrap_of_words_eq_nil hwords.symm]
  | cons l rest =>
    obtain ⟨hl, hrest⟩ := List.forall_mem_cons.mp hspaced.filled
    obtain ⟨hsingle, hsingles⟩ := List.forall_mem_cons.mp h.single
    obtain ⟨w, us, hl⟩ := List.exists_cons_of_ne_nil hl
    rw [List.flatMap_cons, hl, List.cons_append] at hwords
    rw [wrap_of_words_eq_cons hwords.symm]
    have hfirst := hspaced.first l rfl
    rw [hl, join_cons] at hfirst
    have hfills : Fills width hang w (us ++ rest.flatMap words) us l rest := by
      exact ⟨hfirst, rfl, length_le_of_single hl hsingle, hspaced.later, hrest, hsingles,
        h.necessary⟩
    exact hfills.wrapFrom_eq.symm

/-- **Wrapping is greedy.**  The lines have the words of the text, each later line is indented, a
line that is too long holds a single word, and every line end is necessary; a text without words
has no lines.  Lines of words with single spaces that follow these laws are those that wrapping
gives. -/
theorem wraps_greedily (text : List Char) (width : Nat) (hhang : ∀ c ∈ hang, isBlank c = true) :
    Wraps text width hang (wrap text width hang) ∧
      (words text = [] → wrap text width hang = []) ∧
      ∀ ls, Wraps text width hang ls ∧ Spaced hang ls ↔ ls = wrap text width hang := by
  obtain ⟨hwraps, hspaced⟩ := wraps_wrap text width hhang
  refine ⟨hwraps, wrap_of_words_eq_nil, fun ls => ⟨fun h => h.1.eq_wrap h.2, ?_⟩⟩
  rintro rfl
  exact ⟨hwraps, hspaced⟩

/-- A long word between short ones, wrapped with an indentation. -/
theorem longWord_wraps_greedily :
    (∀ c ∈ "\t ".toList, isBlank c = true) ∧
      wrap "ab  c\nabcdefgh i jk lm".toList 6 "\t ".toList
        = ["ab c".toList, "\t abcdefgh".toList, "\t i jk".toList, "\t lm".toList] ∧
      Wraps "ab  c\nabcdefgh i jk lm".toList 6 "\t ".toList
        ["ab c".toList, "\t abcdefgh".toList, "\t i jk".toList, "\t lm".toList] := by
  have hblank : ∀ c ∈ "\t ".toList, isBlank c = true := List.all_eq_true.mp (by decide)
  have hwrap : wrap "ab  c\nabcdefgh i jk lm".toList 6 "\t ".toList
      = ["ab c".toList, "\t abcdefgh".toList, "\t i jk".toList, "\t lm".toList] := by decide
  refine ⟨hblank, hwrap, ?_⟩
  rw [← hwrap]
  exact (wraps_greedily "ab  c\nabcdefgh i jk lm".toList 6 hblank).1

end RpcBindings.Text
