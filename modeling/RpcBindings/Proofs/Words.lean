import RpcBindings.Proofs.Pieces

/-!
# Words of a text

The words of a text are what is left of it between its blanks.  Everything about them follows from
one equation: at a blank the words of a text are those in front of it and those behind it.

## Main definitions

* `IsWord` — a text without blanks that is not empty.

## Main results

* `words_append_blank` — **the words on both sides of a blank.**
* `isWord_of_mem_words` — the words of a text are words.
* `words_append_spaced` — words with a space in front of each are read back.
* `words_join_lineFeed` — the words of a text are those of its lines.
-/

namespace RpcBindings.Text

variable {cs w : List Char} {ws : List (List Char)}

/-- A text is a word if it is not empty and no character of it is blank. -/
def IsWord (w : List Char) : Prop :=
  w ≠ [] ∧ ∀ c ∈ w, isBlank c = false

/-- **The words on both sides of a blank.** -/
theorem words_append_blank {c : Char} (hc : isBlank c = true) (cs ds : List Char) :
    words (cs ++ c :: ds) = words cs ++ words ds := by
  rw [words, splitWhen_append_cons hc, List.filter_append]
  rfl

/-- Blanks at the start of a text belong to no word. -/
theorem words_blanks_append {blanks : List Char} (h : ∀ c ∈ blanks, isBlank c = true)
    (cs : List Char) : words (blanks ++ cs) = words cs := by
  induction blanks with
  | nil => rfl
  | cons c blanks ih =>
    obtain ⟨hc, hblanks⟩ := List.forall_mem_cons.mp h
    have hfirst : words (c :: (blanks ++ cs)) = words (blanks ++ cs) := words_append_blank hc [] _
    rw [List.cons_append, hfirst, ih hblanks]

theorem words_of_isWord (h : IsWord w) : words w = [w] := by
  obtain ⟨hne, hblank⟩ := h
  rw [words, splitWhen_of_forall hblank]
  simpa using hne

/-- **The words of a text are words.** -/
theorem isWord_of_mem_words (h : w ∈ words cs) : IsWord w := by
  obtain ⟨hpiece, hne⟩ := List.mem_filter.mp h
  exact ⟨by simpa using hne, fun c hc => (mem_of_mem_splitWhen hpiece hc).2⟩

/-- **Words with a space in front of each are read back** behind any text. -/
theorem words_append_spaced (cs : List Char) (hws : ∀ w ∈ ws, IsWord w) :
    words (cs ++ ws.flatMap (' ' :: ·)) = words cs ++ ws := by
  induction ws generalizing cs with
  | nil => simp
  | cons w ws ih =>
    obtain ⟨hw, hws⟩ := List.forall_mem_cons.mp hws
    have hspace : isBlank ' ' = true := rfl
    have hassoc : cs ++ (w :: ws).flatMap (' ' :: ·)
        = cs ++ ' ' :: w ++ ws.flatMap (' ' :: ·) := by simp
    rw [hassoc, ih _ hws, words_append_blank hspace, words_of_isWord hw, List.append_assoc]
    rfl

/-- Words with single spaces between them are read back. -/
theorem words_join_space (hws : ∀ w ∈ ws, IsWord w) : words (join [' '] ws) = ws := by
  cases ws with
  | nil => rfl
  | cons w ws =>
    obtain ⟨hw, hws⟩ := List.forall_mem_cons.mp hws
    rw [join_cons, words_append_spaced w hws, words_of_isWord hw]
    rfl

/-- **The words of a text are those of its lines.** -/
theorem words_join_lineFeed (ls : List (List Char)) :
    words (join ['\n'] ls) = ls.flatMap words := by
  have hfeed : isBlank '\n' = true := by decide
  cases ls with
  | nil => rfl
  | cons l ls =>
    rw [join_cons, List.flatMap_cons]
    induction ls generalizing l with
    | nil => simp
    | cons m ls ih =>
      have hassoc : l ++ (m :: ls).flatMap ('\n' :: ·)
          = l ++ '\n' :: (m ++ ls.flatMap ('\n' :: ·)) := by simp
      rw [hassoc, words_append_blank hfeed, ih, List.flatMap_cons]

end RpcBindings.Text
