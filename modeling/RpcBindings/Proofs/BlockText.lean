import RpcBindings.Template.Value
import RpcBindings.Text.Literal

/-!
# Reading blocks of text

A literal in triple quotes ends at the first fence of which no quote is escaped; a backslash escapes
the next character, and every other character, a line end among them, stands for itself.  Escaped
texts are read back, whatever runs of quotes and backslashes they hold.  All that counts at the end
is that a quote there does not meet the quotes of the closing fence: a block has a line end between
them, and a text in triple quotes on one line is read back if it does not end in a quote.

## Main definitions

* `readUntilFence?` — the value of what stands behind an opening fence.
* `readBlock?` — the value of a literal in triple quotes.
* `doubled` — a text with its backslashes escaped, which is what is searched for fences.

## Main results

* `escapeBlock_eq_replace` — escaping is replacing backslashes, and then fences.
* `readUntilFence?_escapeBlock` — an escaped text is read back in front of any text that does not
  extend its last quotes.
* `blocks_read` — **docstrings of several lines and texts in triple quotes are literals** with the
  expected values.
-/

namespace RpcBindings.Text.Literal

/-! ### The literals of the language -/

/-- The value of what stands behind an opening fence up to the first fence that is not escaped, and
what follows it.  A backslash gives the next character. -/
def readUntilFence? : List Char → Option (List Char × List Char)
  | [] => none
  | ['\\'] => none
  | '\\' :: c :: cs => (readUntilFence? cs).map fun (value, rest) => (c :: value, rest)
  | '"' :: '"' :: '"' :: cs => some ([], cs)
  | c :: cs => (readUntilFence? cs).map fun (value, rest) => (c :: value, rest)

/-- The value of the literal in triple quotes at the start of a text, and what follows it. -/
def readBlock? : List Char → Option (List Char × List Char)
  | '"' :: '"' :: '"' :: cs => readUntilFence? cs
  | _ => none

theorem readUntilFence?_cons {c : Char} {cs : List Char} (hbackslash : c ≠ '\\')
    (hfence : c = '"' → ∀ ds, cs ≠ '"' :: '"' :: ds) :
    readUntilFence? (c :: cs) =
      (readUntilFence? cs).map fun (value, rest) => (c :: value, rest) := by
  rw [readUntilFence?]
  · exact fun h _ => hbackslash h
  · exact fun _ _ h _ => hbackslash h
  · exact fun ds hc hcs => hfence hc ds hcs

/-! ### Escaped texts -/

theorem escapeBlock_cons {c : Char} {cs : List Char} (hbackslash : c ≠ '\\')
    (hfence : c = '"' → ∀ ds, cs ≠ '"' :: '"' :: ds) :
    escapeBlock (c :: cs) = c :: escapeBlock cs := by
  rw [escapeBlock]
  · exact fun ds hc hcs => hfence hc ds hcs
  · exact hbackslash

/-- A text in which each backslash has been doubled. -/
def doubled (cs : List Char) : List Char :=
  Template.replaceFrom ['\\'] ['\\', '\\'] 0 cs

theorem doubled_cons {c : Char} (hbackslash : c ≠ '\\') (cs : List Char) :
    doubled (c :: cs) = c :: doubled cs := by
  simp [doubled, Template.replaceFrom, Ne.symm hbackslash]

theorem exists_of_doubled_eq {cs ds : List Char} (h : doubled cs = '"' :: ds) :
    ∃ es, cs = '"' :: es ∧ ds = doubled es := by
  cases cs with
  | nil => cases h
  | cons c cs =>
    by_cases hbackslash : c = '\\'
    · rw [hbackslash] at h
      cases h
    · rw [doubled_cons hbackslash, List.cons.injEq] at h
      exact ⟨cs, by rw [h.1], h.2.symm⟩

/-- Escaping replaces all backslashes, and then all fences. -/
theorem escapeBlock_eq_replace (cs : List Char) :
    escapeBlock cs =
      Template.replaceFrom fence ['\\', '"', '\\', '"', '\\', '"'] 0 (doubled cs) := by
  fun_induction escapeBlock cs with
  | case1 cs ih =>
    rw [ih, doubled_cons (by decide), doubled_cons (by decide), doubled_cons (by decide)]
    rfl
  | case2 cs ih =>
    rw [ih]
    rfl
  | case3 c cs hfence hbackslash ih =>
    -- two more quotes behind a quote come from two quotes of the text
    have hstarts : fence.isPrefixOf (c :: doubled cs) = false := by
      rw [Bool.eq_false_iff, Ne, List.isPrefixOf_iff_prefix]
      rintro ⟨ds, hds⟩
      obtain ⟨rfl, htwo⟩ := List.cons.inj hds
      obtain ⟨es, rfl, hes⟩ := exists_of_doubled_eq htwo.symm
      obtain ⟨fs, rfl, -⟩ := exists_of_doubled_eq hes.symm
      exact hfence fs rfl rfl
    rw [ih, doubled_cons hbackslash, Template.replaceFrom, if_neg (by decide), hstarts]
    rfl
  | case4 => rfl

/-- An escaped text starts with a quote only if the text does. -/
theorem head?_of_head?_escapeBlock {cs tail : List Char}
    (h : (escapeBlock cs ++ tail).head? = some '"') :
    cs.head? = some '"' ∨ cs = [] ∧ tail.head? = some '"' := by
  unfold escapeBlock at h
  split at h
  · exact .inl rfl
  · cases h
  · exact .inl h
  · exact .inr ⟨rfl, h⟩

/-- A quote that is not escaped is followed by at most one more. -/
theorem escapeBlock_append_ne {cs tail : List Char} (hfence : ∀ ds, cs ≠ '"' :: '"' :: ds)
    (hend : ('"' :: cs).getLast? = some '"' → tail.head? ≠ some '"') (ds : List Char) :
    escapeBlock cs ++ tail ≠ '"' :: '"' :: ds := by
  intro h
  obtain hcs | ⟨rfl, htail⟩ := head?_of_head?_escapeBlock (congrArg List.head? h)
  · obtain ⟨es, rfl⟩ := List.head?_eq_some_iff.mp hcs
    rw [escapeBlock_cons (by decide) fun _ fs hes => hfence _ (by rw [hes]), List.cons_append,
      List.cons.injEq] at h
    obtain hes | ⟨rfl, htail⟩ := head?_of_head?_escapeBlock (congrArg List.head? h.2)
    · obtain ⟨fs, rfl⟩ := List.head?_eq_some_iff.mp hes
      exact hfence fs rfl
    · exact hend rfl htail
  · exact hend rfl htail

/-- **An escaped text is read back** in front of any text that does not extend its last quotes. -/
theorem readUntilFence?_escapeBlock {cs tail value rest : List Char}
    (htail : readUntilFence? tail = some (value, rest))
    (hend : cs.getLast? = some '"' → tail.head? ≠ some '"') :
    readUntilFence? (escapeBlock cs ++ tail) = some (cs ++ value, rest) := by
  -- the last quote of what is left to read is that of the whole text
  fun_induction escapeBlock cs with
  | case1 cs ih =>
    have hread := ih fun h => hend (by simp [List.getLast?_cons, h])
    simp [readUntilFence?, hread]
  | case2 cs ih =>
    have hread := ih fun h => hend (by simp [List.getLast?_cons, h])
    simp [readUntilFence?, hread]
  | case3 c cs hfence hbackslash ih =>
    have hread := ih fun h => hend (by simp [List.getLast?_cons, h])
    rw [List.cons_append, readUntilFence?_cons hbackslash, hread]
    · rfl
    · rintro rfl ds
      exact escapeBlock_append_ne (fun es hes => hfence es rfl hes) hend ds
  | case4 => exact htail

theorem readUntilFence?_lineFeed (cs : List Char) :
    readUntilFence? ('\n' :: cs) =
      (readUntilFence? cs).map fun (value, rest) => ('\n' :: value, rest) :=
  readUntilFence?_cons (by decide) fun h => absurd h (by decide)

theorem readBlock?_fence (cs : List Char) : readBlock? (fence ++ cs) = readUntilFence? cs :=
  rfl

theorem readUntilFence?_fence (rest : List Char) :
    readUntilFence? (fence ++ rest) = some ([], rest) :=
  rfl

/-- **Docstrings of several lines and texts in triple quotes are literals.**  The value of the
docstring is the text with a line feed on each side; the value of the other literal is the text
itself, if the text does not end in a quote. -/
theorem blocks_read (text rest : List Char) :
    ('\n' ∈ text → readBlock? (docstring text ++ rest) = some ('\n' :: text ++ ['\n'], rest)) ∧
      (text.getLast? ≠ some '"' → readBlock? (quoteLine text ++ rest) = some (text, rest)) := by
  constructor
  · intro hfeed
    -- the line feed behind the text keeps its last quotes apart from the closing fence
    have htail : readUntilFence? ('\n' :: (fence ++ rest)) = some (['\n'], rest) := by
      rw [readUntilFence?_lineFeed, readUntilFence?_fence]
      rfl
    have hread : readUntilFence? (escapeBlock text ++ '\n' :: (fence ++ rest)) =
        some (text ++ ['\n'], rest) :=
      readUntilFence?_escapeBlock htail (by simp)
    rw [docstring, if_pos (by simpa using hfeed), List.append_assoc, List.append_assoc,
      readBlock?_fence, List.cons_append, readUntilFence?_lineFeed]
    simp [hread]
  · intro hend
    have hread := readUntilFence?_escapeBlock (readUntilFence?_fence rest) fun h => absurd h hend
    rw [quoteLine, List.append_assoc, List.append_assoc, readBlock?_fence, hread, List.append_nil]

/-- A text of two lines, with a fence and a backslash at the end of the first line and two quotes at
the end of the second one. -/
def quotesAtEnds : List Char :=
  "a\"\"\"\\\nb\"\"".toList

/-- A text with runs of quotes and backslashes, as a link may hold them. -/
def quotesInLink : List Char :=
  "\"\"\\\"\"\"\"[c](d)]*".toList

theorem quotes_blocks_read :
    ('\n' ∈ quotesAtEnds ∧ readBlock? (docstring quotesAtEnds ++ ['"']) =
      some ('\n' :: quotesAtEnds ++ ['\n'], ['"'])) ∧
      quotesInLink.getLast? ≠ some '"' ∧
        readBlock? (quoteLine quotesInLink ++ []) = some (quotesInLink, []) :=
  ⟨⟨by decide, (blocks_read quotesAtEnds ['"']).1 (by decide)⟩, by decide,
    (blocks_read quotesInLink []).2 (by decide)⟩

end RpcBindings.Text.Literal
