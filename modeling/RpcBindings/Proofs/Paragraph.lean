import RpcBindings.Proofs.Wrapping
import RpcBindings.Text.Lines

/-!
# Paragraphs

A paragraph is a text wrapped at one of four widths: the first of them at which the last line is not
a leftover, and the first of all if there is none.  What wrapping guarantees at each width holds of
the paragraph, and the lines of the paragraph are those of the wrapping.

## Main definitions

* `IsLine` — a text that is read back as a line.
* `preferredWidth` — the width at which a text is wrapped.

## Main results

* `lines_join` — lines are put together and taken apart again.
* `lines_rewrap` — **the lines of a paragraph** are those of the text wrapped at one width.
* `wrap_of_length_le` — a text that fits on one line is one line.
* `rewrap_lays_out` — **how a paragraph is laid out.**
-/

namespace RpcBindings.Text

variable {text hang cs w l : List Char} {ws ls : List (List Char)} {width : Nat}

/-! ### Reading lines back -/

/-- A text is read back as a line if it has no line feed and ends in a character that is not
blank. -/
def IsLine (l : List Char) : Prop :=
  '\n' ∉ l ∧ ∃ c ∈ l.getLast?, isBlank c = false

theorem IsLine.dropReturn_eq (h : IsLine l) : dropReturn l = l := by
  obtain ⟨-, c, hc, hblank⟩ := h
  rw [← List.head?_reverse] at hc
  unfold dropReturn
  split
  · next rest hreverse =>
    rw [hreverse] at hc
    cases hc
    exact absurd hblank (by decide)
  · rfl

theorem IsLine.isEmpty_eq (h : IsLine l) : l.isEmpty = false := by
  obtain ⟨-, c, hc, -⟩ := h
  cases l with
  | nil => cases hc
  | cons d l => rfl

theorem linesOfPieces_of_isLine (h : ∀ l ∈ ls, IsLine l) : linesOfPieces ls = ls := by
  induction ls with
  | nil => rfl
  | cons l ls ih =>
    obtain ⟨hl, hls⟩ := List.forall_mem_cons.mp h
    cases ls with
    | nil =>
      rw [linesOfPieces, hl.isEmpty_eq]
      rfl
    | cons m ls =>
      rw [linesOfPieces, hl.dropReturn_eq, ih hls]
      exact List.cons_ne_nil m ls

/-- **Lines are put together and taken apart again.** -/
theorem lines_join (h : ∀ l ∈ ls, IsLine l) : lines (join ['\n'] ls) = ls := by
  by_cases hne : ls = []
  · rw [hne]
    rfl
  · rw [lines, splitOn_join hne fun l hl => (h l hl).1, linesOfPieces_of_isLine h]

theorem lineFeed_notMem_of_isWord (h : IsWord w) : '\n' ∉ w := by
  intro hmem
  exact absurd (h.2 _ hmem) (by decide)

/-- Words with single spaces between them are a line, whatever they are indented by. -/
theorem isLine_append_join (hcs : '\n' ∉ cs) (hne : ws ≠ []) (hws : ∀ w ∈ ws, IsWord w) :
    IsLine (cs ++ join [' '] ws) := by
  induction ws generalizing cs with
  | nil => exact absurd rfl hne
  | cons w ws ih =>
    obtain ⟨hw, hrest⟩ := List.forall_mem_cons.mp hws
    have hfeed := lineFeed_notMem_of_isWord hw
    cases ws with
    | nil =>
      refine ⟨by simp [join, hcs, hfeed], w.getLast hw.1, ?_, hw.2 _ (List.getLast_mem hw.1)⟩
      rw [join, List.getLast?_append_of_ne_nil cs hw.1, List.getLast?_eq_some_getLast hw.1]
      rfl
    | cons v ws =>
      have hcons : cs ++ join [' '] (w :: v :: ws) = cs ++ w ++ [' '] ++ join [' '] (v :: ws) := by
        simp [join]
      rw [hcons]
      exact ih (by simp [hcs, hfeed]) (List.cons_ne_nil v ws) hrest

/-- Each line of a wrapped text is read back. -/
theorem isLine_of_mem_wrap (hhang : ∀ c ∈ hang, isBlank c = true) (hfeed : '\n' ∉ hang)
    (hl : l ∈ wrap text width hang) : IsLine l := by
  obtain ⟨-, hspaced⟩ := wraps_wrap text width hhang
  have hne := hspaced.filled l hl
  have hwords : ∀ w ∈ words l, IsWord w := fun w hw => isWord_of_mem_words hw
  cases hwrap : wrap text width hang with
  | nil =>
    rw [hwrap] at hl
    cases hl
  | cons first later =>
    rw [hwrap] at hl hspaced
    rcases List.mem_cons.mp hl with rfl | hl
    · rw [hspaced.first l rfl]
      have hnone : '\n' ∉ ([] : List Char) := by simp
      exact isLine_append_join hnone hne hwords
    · rw [hspaced.later l hl]
      exact isLine_append_join hfeed hne hwords

/-! ### The width of a paragraph -/

/-- The width at which a text is wrapped: the first one at which no leftover remains, or else the
first one. -/
def preferredWidth (text hang : List Char) : Nat :=
  (widths.find? fun n => endsWell (wrap text n hang)).getD 80

theorem rewrap_eq_join (text hang : List Char) :
    rewrap text hang = join ['\n'] (wrap text (preferredWidth text hang) hang) := by
  have hcomp : (widths.find? (endsWell ∘ fun n => wrap text n hang))
      = widths.find? fun n => endsWell (wrap text n hang) := rfl
  rw [rewrap, preferredWidth, List.find?_map, hcomp]
  cases widths.find? fun n => endsWell (wrap text n hang) with
  | none => rfl
  | some n => rfl

/-- At the preferred width no leftover remains, or one remains at every width and the first one is
preferred. -/
theorem preferredWidth_spec (text hang : List Char) :
    preferredWidth text hang ∈ widths ∧
        endsWell (wrap text (preferredWidth text hang) hang) = true ∨
      preferredWidth text hang = 80 ∧ ∀ n ∈ widths, endsWell (wrap text n hang) = false := by
  unfold preferredWidth
  cases hfind : widths.find? fun n => endsWell (wrap text n hang) with
  | none =>
    refine .inr ⟨rfl, fun n hn => ?_⟩
    simpa using List.find?_eq_none.mp hfind n hn
  | some n =>
    have hends : endsWell (wrap text n hang) = true :=
      List.find?_some (p := fun n => endsWell (wrap text n hang)) hfind
    exact .inl ⟨List.mem_of_find?_eq_some hfind, hends⟩

theorem preferredWidth_mem_widths (text hang : List Char) : preferredWidth text hang ∈ widths := by
  rcases preferredWidth_spec text hang with ⟨hmem, -⟩ | ⟨hfirst, -⟩
  · exact hmem
  · rw [hfirst]
    decide

/-- If a leftover remains at every width the first one is taken. -/
theorem preferredWidth_of_forall (h : ∀ n ∈ widths, endsWell (wrap text n hang) = false) :
    preferredWidth text hang = 80 := by
  rcases preferredWidth_spec text hang with ⟨hmem, hends⟩ | ⟨hfirst, -⟩
  · rw [h _ hmem] at hends
    cases hends
  · exact hfirst

/-- A leftover remains at the preferred width only if one remains at every width. -/
theorem endsWell_preferredWidth_iff (text hang : List Char) :
    endsWell (wrap text (preferredWidth text hang) hang) = false ↔
      ∀ n ∈ widths, endsWell (wrap text n hang) = false := by
  constructor
  · intro h
    rcases preferredWidth_spec text hang with ⟨-, hends⟩ | ⟨-, hall⟩
    · rw [h] at hends
      cases hends
    · exact hall
  · intro h
    exact h _ (preferredWidth_mem_widths text hang)

/-- **The lines of a paragraph** are those of the text wrapped at the preferred width. -/
theorem lines_rewrap (text : List Char) (hhang : ∀ c ∈ hang, isBlank c = true)
    (hfeed : '\n' ∉ hang) :
    lines (rewrap text hang) = wrap text (preferredWidth text hang) hang := by
  rw [rewrap_eq_join, lines_join fun l hl => isLine_of_mem_wrap hhang hfeed hl]

theorem endsWell_eq_false_iff :
    endsWell ls = false ↔ ∀ l ∈ ls.getLast?, l.length ≤ leftover := by
  unfold endsWell
  cases ls.getLast? with
  | none => simp
  | some l => simp

/-! ### Short texts -/

/-- A text that fits on one line is one line. -/
theorem wrap_of_length_le (hne : words text ≠ [])
    (hfits : (join [' '] (words text)).length ≤ width) :
    wrap text width hang = [join [' '] (words text)] := by
  have hback : words (join [' '] (words text)) = words text :=
    words_join_space fun w hw => isWord_of_mem_words hw
  refine (Wraps.eq_wrap ⟨?_, by simp, ?_, .singleton _⟩ ⟨?_, by simp, ?_⟩).symm
  · rw [List.flatMap_singleton, hback]
  · rw [List.forall_mem_singleton]
    intro hlong
    omega
  · rintro _ ⟨rfl⟩
    rw [hback]
  · rw [List.forall_mem_singleton, hback]
    exact hne

/-- A text that fits on one line is a paragraph of one line. -/
theorem rewrap_of_length_le (hfits : (join [' '] (words text)).length ≤ 80) :
    rewrap text hang = join [' '] (words text) := by
  rw [rewrap_eq_join]
  by_cases hne : words text = []
  · rw [wrap_of_words_eq_nil hne, hne]
    rfl
  by_cases hshort : (join [' '] (words text)).length ≤ leftover
  · -- it is a leftover at every width
    have hall : ∀ n ∈ widths, endsWell (wrap text n hang) = false := by
      intro n hn
      have hwidth : leftover ≤ n := by
        have hmin : ∀ n ∈ widths, leftover ≤ n := by decide
        exact hmin n hn
      rw [wrap_of_length_le hne (hshort.trans hwidth), endsWell_eq_false_iff]
      simpa using hshort
    rw [preferredWidth_of_forall hall, wrap_of_length_le hne hfits]
    rfl
  · -- it ends well at the first width
    have hends : endsWell (wrap text 80 hang) = true := by
      rw [wrap_of_length_le hne hfits]
      simpa [endsWell] using hshort
    have hfirst : preferredWidth text hang = 80 := by
      simp [preferredWidth, widths, hends]
    rw [hfirst, wrap_of_length_le hne hfits]
    rfl

/-- **How a paragraph is laid out.**  It has the words of the text, and no line of several words is
longer than 100 characters.  A text that takes at most 80 characters stays on one line.  The last
line has at most 25 characters only if this is so at each of the four widths, and then the text is
wrapped at the first of them. -/
theorem rewrap_lays_out (text : List Char) (hhang : ∀ c ∈ hang, isBlank c = true)
    (hfeed : '\n' ∉ hang) :
    words (rewrap text hang) = words text ∧
      (∀ l ∈ lines (rewrap text hang), 1 < (words l).length → l.length ≤ 100) ∧
      ((join [' '] (words text)).length ≤ 80 → rewrap text hang = join [' '] (words text)) ∧
      ((∀ l ∈ (lines (rewrap text hang)).getLast?, l.length ≤ 25) ↔
        ∀ n ∈ [80, 90, 100, 70], ∀ l ∈ (wrap text n hang).getLast?, l.length ≤ 25) ∧
      ((∀ l ∈ (lines (rewrap text hang)).getLast?, l.length ≤ 25) →
        rewrap text hang = join ['\n'] (wrap text 80 hang)) := by
  have hlines := lines_rewrap text hhang hfeed
  obtain ⟨hwraps, -⟩ := wraps_wrap text (preferredWidth text hang) hhang
  have hlast : (∀ l ∈ (lines (rewrap text hang)).getLast?, l.length ≤ 25) ↔
      ∀ n ∈ widths, ∀ l ∈ (wrap text n hang).getLast?, l.length ≤ 25 := by
    rw [hlines]
    have h := endsWell_preferredWidth_iff text hang
    simp only [endsWell_eq_false_iff] at h
    exact h
  refine ⟨?_, ?_, rewrap_of_length_le, hlast, fun h => ?_⟩
  · rw [rewrap_eq_join, words_join_lineFeed, hwraps.words_eq]
  · rw [hlines]
    intro l hl hseveral
    have hwidth : ∀ n ∈ widths, n ≤ 100 := by decide
    refine le_trans ?_ (hwidth _ (preferredWidth_mem_widths text hang))
    by_contra hlong
    have hone := hwraps.single l hl (by omega)
    omega
  · have hall : ∀ n ∈ widths, endsWell (wrap text n hang) = false := by
      intro n hn
      exact endsWell_eq_false_iff.mpr (hlast.mp h n hn)
    rw [rewrap_eq_join, preferredWidth_of_forall hall]

/-- The description of a parameter, with blanks to spare. -/
def description : List Char :=
  ":param admins:  Specify one or more members to make a group admin, \n".toList ++
    "required if you're currently the only admin.".toList

theorem description_rewrap_lays_out :
    (∀ c ∈ "    ".toList, isBlank c = true) ∧ '\n' ∉ "    ".toList ∧
      rewrap description "    ".toList
        = ":param admins: Specify one or more members to make a group admin, ".toList ++
          "required if\n    you're currently the only admin.".toList ∧
      words (rewrap description "    ".toList) = words description ∧
      ¬ ∀ n ∈ [80, 90, 100, 70], ∀ l ∈ (wrap description n "    ".toList).getLast?,
        l.length ≤ 25 := by
  have hblank : ∀ c ∈ "    ".toList, isBlank c = true := List.all_eq_true.mp (by decide)
  have hfeed : '\n' ∉ "    ".toList := by decide
  obtain ⟨hwords, -, -, hlast, -⟩ := rewrap_lays_out description hblank hfeed
  refine ⟨hblank, hfeed, by decide +kernel, hwords, fun hall => ?_⟩
  exact absurd (hlast.mpr hall) (by decide +kernel)

end RpcBindings.Text
