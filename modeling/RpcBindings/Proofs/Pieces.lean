import RpcBindings.Text.Blank
import Mathlib.Data.List.TakeWhile

/-!
# Pieces of a text

The pieces of a text between separators, and the pieces without the blanks around them; a blank is
no letter or digit.

## Main results

* `Text.splitWhen_append_cons` — the pieces of two texts with a separator between them.
* `Text.exists_splitOn_append` — a text without separators continues the last piece.
* `Text.splitOn_join` — texts without separators are put together and taken apart again.
* `Text.flatMap_intercalate` — texts with line ends between them are read one by one, if lines are.
* `Text.trim_of_blanks` — the blanks around a text without blanks are taken off.
-/

namespace RpcBindings.Text

/-! ### Blanks -/

/-- The ASCII letters and digits lie between `0` and `z`. -/
theorem bounds_of_isAlphanum {c : Char} (h : c.isAlphanum = true) :
    '0'.val ≤ c.val ∧ c.val ≤ 'z'.val := by
  rcases (Bool.or_eq_true _ _).mp h with h | h
  · rcases (Bool.or_eq_true _ _).mp h with h | h
    · obtain ⟨hlow, hhigh⟩ := of_decide_eq_true h
      exact ⟨UInt32.le_trans (by decide) hlow, UInt32.le_trans hhigh (by decide)⟩
    · obtain ⟨hlow, hhigh⟩ := (Bool.and_eq_true _ _).mp h
      exact ⟨UInt32.le_trans (by decide) (of_decide_eq_true hlow), of_decide_eq_true hhigh⟩
  · obtain ⟨hlow, hhigh⟩ := (Bool.and_eq_true _ _).mp h
    exact ⟨of_decide_eq_true hlow, UInt32.le_trans (of_decide_eq_true hhigh) (by decide)⟩

/-- A blank is no letter or digit. -/
theorem isAlphanum_of_isBlank {c : Char} (h : isBlank c = true) : c.isAlphanum = false := by
  cases halphanum : c.isAlphanum with
  | false => rfl
  | true =>
    obtain ⟨hlow, hhigh⟩ := bounds_of_isAlphanum halphanum
    have hzero : 48 ≤ c.toNat := UInt32.le_iff_toNat_le.mp hlow
    have hz : c.toNat ≤ 122 := UInt32.le_iff_toNat_le.mp hhigh
    have hspace : ' '.toNat = 32 := rfl
    simp only [isBlank, Bool.or_eq_true, beq_iff_eq, Bool.and_eq_true, decide_eq_true_eq,
      ← Char.toNat_inj, hspace] at h
    omega

/-! ### Pieces between separators -/

variable {sep : Char} {cs ds w : List Char}

theorem splitOn_cons_self (sep : Char) (cs : List Char) :
    splitOn sep (sep :: cs) = [] :: splitOn sep cs := by
  rw [splitOn, splitWhen, if_pos (beq_self_eq_true sep)]
  rfl

/-- A character that is no separator belongs to the first piece. -/
theorem splitOn_cons_of_ne {c : Char} (h : c ≠ sep) {s : List Char} {ss : List (List Char)}
    (hs : splitOn sep cs = s :: ss) : splitOn sep (c :: cs) = (c :: s) :: ss := by
  rw [splitOn] at hs ⊢
  rw [splitWhen, if_neg (by simpa using h), hs]

theorem exists_splitOn_eq_cons (sep : Char) (cs : List Char) :
    ∃ s ss, splitOn sep cs = s :: ss :=
  List.exists_cons_of_ne_nil (splitWhen_ne_nil _ cs)

/-- The pieces of two texts with a separator between them. -/
theorem splitWhen_append_cons {p : Char → Bool} {c : Char} (hc : p c = true) (cs ds : List Char) :
    splitWhen p (cs ++ c :: ds) = splitWhen p cs ++ splitWhen p ds := by
  induction cs with
  | nil => exact if_pos hc
  | cons d cs ih =>
    rw [List.cons_append, splitWhen, splitWhen, ih]
    cases p d with
    | true => rfl
    | false =>
      -- the first piece of the first text takes up the character
      obtain ⟨s, ss, hs⟩ := List.exists_cons_of_ne_nil (splitWhen_ne_nil p cs)
      rw [hs]
      rfl

theorem splitOn_append_cons (sep : Char) (cs ds : List Char) :
    splitOn sep (cs ++ sep :: ds) = splitOn sep cs ++ splitOn sep ds :=
  splitWhen_append_cons (p := (· == sep)) (beq_self_eq_true sep) cs ds

/-- The characters of a piece are those of the text, without the separators. -/
theorem mem_of_mem_splitWhen {p : Char → Bool} {c : Char} (hw : w ∈ splitWhen p cs) (hc : c ∈ w) :
    c ∈ cs ∧ p c = false := by
  induction cs generalizing w with
  | nil =>
    rw [splitWhen, List.mem_singleton] at hw
    rw [hw] at hc
    cases hc
  | cons d cs ih =>
    rw [splitWhen] at hw
    cases hd : p d with
    | true =>
      rw [hd, if_pos rfl] at hw
      rcases List.mem_cons.mp hw with rfl | hw
      · cases hc
      · exact (ih hw hc).imp_left (List.mem_cons_of_mem d)
    | false =>
      obtain ⟨s, ss, hs⟩ := List.exists_cons_of_ne_nil (splitWhen_ne_nil p cs)
      rw [hd, if_neg Bool.false_ne_true, hs] at hw
      rw [hs] at ih
      rcases List.mem_cons.mp hw with rfl | hw
      · rcases List.mem_cons.mp hc with rfl | hc
        · exact ⟨List.mem_cons_self, hd⟩
        · exact (ih List.mem_cons_self hc).imp_left (List.mem_cons_of_mem d)
      · exact (ih (List.mem_cons_of_mem s hw) hc).imp_left (List.mem_cons_of_mem d)

/-- A text without separators is not taken apart. -/
theorem splitWhen_of_forall {p : Char → Bool} (h : ∀ c ∈ w, p c = false) : splitWhen p w = [w] := by
  induction w with
  | nil => rfl
  | cons c w ih =>
    obtain ⟨hc, hw⟩ := List.forall_mem_cons.mp h
    rw [splitWhen, hc, ih hw]
    rfl

/-- A text without separators continues the last piece of the text in front of it. -/
theorem exists_splitOn_append (cs : List Char) (hw : sep ∉ w) :
    ∃ ss s, splitOn sep cs = ss ++ [s] ∧ splitOn sep (cs ++ w) = ss ++ [s ++ w] := by
  induction cs with
  | nil =>
    refine ⟨[], [], rfl, ?_⟩
    induction w with
    | nil => rfl
    | cons c w ih =>
      rw [List.mem_cons, not_or] at hw
      exact splitOn_cons_of_ne (Ne.symm hw.1) (ih hw.2)
  | cons c cs ih =>
    obtain ⟨ss, s, hcs, happend⟩ := ih
    by_cases h : c = sep
    · subst h
      refine ⟨[] :: ss, s, ?_, ?_⟩
      · rw [splitOn_cons_self, hcs, List.cons_append]
      · rw [List.cons_append, splitOn_cons_self, happend, List.cons_append]
    · rw [List.cons_append]
      cases ss with
      | nil =>
        exact ⟨[], c :: s, splitOn_cons_of_ne h hcs, splitOn_cons_of_ne h happend⟩
      | cons t ss =>
        exact ⟨(c :: t) :: ss, s, splitOn_cons_of_ne h hcs, splitOn_cons_of_ne h happend⟩

theorem splitOn_of_notMem (hw : sep ∉ w) : splitOn sep w = [w] := by
  refine splitWhen_of_forall fun c hc => ?_
  rw [beq_eq_false_iff_ne]
  rintro rfl
  exact hw hc

/-- Each character of a text is a separator or stands in a piece. -/
theorem exists_mem_splitOn (sep : Char) {c : Char} (hc : c ∈ cs) :
    c = sep ∨ ∃ s ∈ splitOn sep cs, c ∈ s := by
  induction cs with
  | nil => cases hc
  | cons d cs ih =>
    by_cases h : d = sep
    · subst h
      rw [splitOn_cons_self]
      rcases List.mem_cons.mp hc with hc | hc
      · exact .inl hc
      · obtain hc | ⟨s, hs, hc⟩ := ih hc
        · exact .inl hc
        · exact .inr ⟨s, List.mem_cons_of_mem _ hs, hc⟩
    · obtain ⟨s, ss, hpieces⟩ := exists_splitOn_eq_cons sep cs
      rw [splitOn_cons_of_ne h hpieces]
      rw [hpieces] at ih
      rcases List.mem_cons.mp hc with rfl | hc
      · exact .inr ⟨c :: s, List.mem_cons_self, List.mem_cons_self⟩
      · obtain hc | ⟨t, ht, hc⟩ := ih hc
        · exact .inl hc
        · rcases List.mem_cons.mp ht with rfl | ht
          · exact .inr ⟨d :: t, List.mem_cons_self, List.mem_cons_of_mem d hc⟩
          · exact .inr ⟨t, List.mem_cons_of_mem _ ht, hc⟩

/-! ### Texts with separators between them -/

/-- Texts with a separator between each two are the first of them, and then each further one after a
separator. -/
theorem join_cons (sep : Char) (w : List Char) (ws : List (List Char)) :
    join [sep] (w :: ws) = w ++ ws.flatMap (sep :: ·) := by
  induction ws generalizing w with
  | nil => simp [join]
  | cons v ws ih =>
    have hcons : join [sep] (w :: v :: ws) = w ++ [sep] ++ join [sep] (v :: ws) := rfl
    rw [hcons, ih, List.flatMap_cons]
    simp

/-- Texts without separators are the pieces of what they are put together to. -/
theorem splitOn_join {ws : List (List Char)} (hne : ws ≠ []) (hws : ∀ w ∈ ws, sep ∉ w) :
    splitOn sep (join [sep] ws) = ws := by
  induction ws with
  | nil => exact absurd rfl hne
  | cons w ws ih =>
    obtain ⟨hw, hws⟩ := List.forall_mem_cons.mp hws
    cases ws with
    | nil => exact splitOn_of_notMem hw
    | cons v ws =>
      have hcons : join [sep] (w :: v :: ws) = w ++ sep :: join [sep] (v :: ws) := by simp [join]
      rw [hcons, splitOn_append_cons, splitOn_of_notMem hw, ih (List.cons_ne_nil v ws) hws]
      rfl

/-! ### Texts with line ends between them -/

/-- Between texts that are put together stand one or two line ends. -/
def IsGap (sep : List Char) : Prop :=
  sep = ['\n'] ∨ sep = ['\n', '\n']

/-- What reads a text line by line, and nothing in a blank line, reads texts with line ends between
them one by one.  A text may have to satisfy `p` for that. -/
theorem flatMap_intercalate {β : Type} {f : List Char → List β} {p : List Char → Prop}
    {sep : List Char} (hsep : IsGap sep) (hnil : f [] = []) (hp : p [])
    (happend : ∀ cs ds, p cs → f (cs ++ '\n' :: ds) = f cs ++ f ds) {parts : List (List Char)}
    (h : ∀ cs ∈ parts, p cs) : f (sep.intercalate parts) = parts.flatMap f := by
  have hgap : ∀ cs ds, p cs → f (cs ++ (sep ++ ds)) = f cs ++ f ds := by
    intro cs ds hcs
    rcases hsep with rfl | rfl
    · exact happend cs ds hcs
    · have hblank : f ([] ++ '\n' :: ds) = f [] ++ f ds := happend [] ds hp
      rw [hnil, List.nil_append] at hblank
      exact (happend cs ('\n' :: ds) hcs).trans (congrArg _ hblank)
  induction parts with
  | nil => exact hnil
  | cons cs parts ih =>
    obtain ⟨hcs, hparts⟩ := List.forall_mem_cons.mp h
    cases parts with
    | nil => simp
    | cons ds parts =>
      rw [List.intercalate_cons_cons, List.append_assoc, hgap cs _ hcs, ih hparts]
      rfl

/-! ### Blanks around a text -/

/-- The blanks around a text without blanks are taken off. -/
theorem trim_of_blanks {before after : List Char} (hbefore : ∀ c ∈ before, isBlank c = true)
    (hw : ∀ c ∈ w, isBlank c = false) (hafter : ∀ c ∈ after, isBlank c = true) :
    trim (before ++ w ++ after) = w := by
  have hstart : trimStart (before ++ w ++ after) = trimStart (w ++ after) := by
    rw [trimStart, List.append_assoc, List.dropWhile_append_of_pos hbefore, trimStart]
  have hreverse : ∀ c ∈ after.reverse, isBlank c = true :=
    fun c hc => hafter c (List.mem_reverse.mp hc)
  have hself : ∀ {w : List Char}, (∀ c ∈ w, isBlank c = false) → w.dropWhile isBlank = w := by
    intro w hw
    cases w with
    | nil => rfl
    | cons c w => exact List.dropWhile_cons_of_neg (by simp [hw c List.mem_cons_self])
  rw [trim, hstart]
  cases w with
  | nil =>
    rw [trimStart, List.nil_append, List.dropWhile_eq_nil_iff.mpr hafter]
    rfl
  | cons c w =>
    have hc : isBlank c = false := hw c List.mem_cons_self
    have hw' : ∀ d ∈ (c :: w).reverse, isBlank d = false :=
      fun d hd => hw d (List.mem_reverse.mp hd)
    rw [trimStart, List.cons_append, List.dropWhile_cons_of_neg (by simp [hc]), ← List.cons_append,
      trimEnd, List.reverse_append, List.dropWhile_append_of_pos hreverse, hself hw',
      List.reverse_reverse]

/-- Only blanks are taken off a text. -/
theorem mem_trim {c : Char} (hc : c ∈ cs) : isBlank c = true ∨ c ∈ trim cs := by
  have hdrop : ∀ {cs : List Char}, c ∈ cs → isBlank c = true ∨ c ∈ cs.dropWhile isBlank := by
    intro cs hc
    rw [← List.takeWhile_append_dropWhile (p := isBlank) (l := cs), List.mem_append] at hc
    exact hc.imp_left fun h => List.mem_takeWhile_imp h
  obtain hc | hc := hdrop hc
  · exact .inl hc
  · rw [trim, trimEnd, List.mem_reverse]
    exact hdrop (List.mem_reverse.mpr hc)

end RpcBindings.Text
