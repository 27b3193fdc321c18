import RpcBindings.Proofs.Pieces
import RpcBindings.Text.Lines
import Mathlib.Data.List.Basic

/-!
# Texts laid out by indentation

A text is read as rows, which are its lines that are not blank, each with the column in which it
starts.  A row heads a block with the rows below it that start further to the right, so that the
columns of the rows make up a forest of blocks.  A forest that is laid out with four columns for
each level is read back.

## Main definitions

* `Row`, `rows` — the rows of a text.
* `Lays` — a text that has given rows, and no carriage returns.
* `Block`, `Block.rowsOf` — forests, and the rows that they are laid out in.
* `blocks?` — the forest of a text.

## Main results

* `Lays.indent` — a text that is moved to the right has its rows moved to the right.
* `assemble?_rowsOf` — **the forest is read back from its rows.**
* `blocks?_of_lays` — a text with the rows of a forest is read as the forest.
-/

namespace RpcBindings.Text

/-! ### Rows -/

/-- A line that is not blank: the column in which it starts, and what it holds. -/
structure Row where
  column : Nat
  content : List Char
  deriving DecidableEq, Repr

/-- The row of a line, unless the line is blank. -/
def row? (line : List Char) : Option Row :=
  match line.dropWhile (· == ' ') with
  | [] => none
  | c :: cs => some ⟨(line.takeWhile (· == ' ')).length, c :: cs⟩

/-- The rows of a text. -/
def rows (cs : List Char) : List Row :=
  (splitOn '\n' cs).filterMap row?

/-- The row moved to the right. -/
def Row.shift (n : Nat) (r : Row) : Row :=
  ⟨r.column + n, r.content⟩

variable {cs ds l : List Char} {rs qs : List Row} {n : Nat}

theorem row?_replicate_append (n : Nat) (l : List Char) :
    row? (List.replicate n ' ' ++ l) = (row? l).map (Row.shift n) := by
  have hblanks : ∀ c ∈ List.replicate n ' ', (c == ' ') = true := by
    intro c hc
    rw [List.eq_of_mem_replicate hc]
    rfl
  rw [row?, row?, List.dropWhile_append_of_pos hblanks, List.takeWhile_append_of_pos hblanks,
    List.length_append, List.length_replicate]
  cases l.dropWhile (· == ' ') with
  | nil => rfl
  | cons c cs => simp [Row.shift, Nat.add_comm]

theorem rows_append (cs ds : List Char) : rows (cs ++ '\n' :: ds) = rows cs ++ rows ds := by
  rw [rows, splitOn_append_cons, List.filterMap_append]
  rfl

theorem rows_intercalate {sep : List Char} (hsep : IsGap sep) (parts : List (List Char)) :
    rows (sep.intercalate parts) = parts.flatMap rows :=
  flatMap_intercalate hsep rfl (p := fun _ => True) trivial (fun cs ds _ => rows_append cs ds)
    fun _ _ => trivial

theorem rows_of_line (hl : '\n' ∉ l) : rows l = (row? l).toList := by
  rw [rows, splitOn_of_notMem hl]
  cases h : row? l <;> simp [h]

/-! ### Moving a text to the right -/

theorem mem_of_mem_splitOn {sep c : Char} {s : List Char} (hs : s ∈ splitOn sep cs) (hc : c ∈ s) :
    c ∈ cs ∧ c ≠ sep := by
  obtain ⟨hmem, hne⟩ := mem_of_mem_splitWhen hs hc
  exact ⟨hmem, beq_eq_false_iff_ne.mp hne⟩

theorem join_eq_intercalate (sep : List Char) (ws : List (List Char)) :
    join sep ws = sep.intercalate ws := by
  fun_induction join sep ws with
  | case1 => rfl
  | case2 w => simp
  | case3 w ws hws ih =>
    obtain ⟨v, vs, rfl⟩ := List.exists_cons_of_ne_nil fun h => hws h
    rw [ih, List.intercalate_cons_cons]

theorem dropReturn_of_notMem (h : '\r' ∉ l) : dropReturn l = l := by
  unfold dropReturn
  split
  · next cs hreverse =>
    refine absurd ?_ h
    rw [← List.mem_reverse, hreverse]
    exact List.mem_cons_self
  · rfl

/-- Without carriage returns the lines are the pieces, apart from an empty one at the end. -/
theorem filterMap_row?_linesOfPieces {ps : List (List Char)} (h : ∀ p ∈ ps, '\r' ∉ p) :
    (linesOfPieces ps).filterMap row? = ps.filterMap row? := by
  fun_induction linesOfPieces ps with
  | case1 => rfl
  | case2 last hempty =>
    rw [List.isEmpty_iff.mp hempty]
    rfl
  | case3 last hempty => rfl
  | case4 p ps hps ih =>
    obtain ⟨hp, hps⟩ := List.forall_mem_cons.mp h
    rw [dropReturn_of_notMem hp, List.filterMap_cons, List.filterMap_cons, ih hps]

/-- At most a carriage return is left out at the end of a line. -/
theorem dropReturn_append (l : List Char) : ∃ rest, dropReturn l ++ rest = l := by
  unfold dropReturn
  split
  · next cs hreverse =>
    refine ⟨['\r'], ?_⟩
    rw [← List.reverse_cons, ← hreverse, List.reverse_reverse]
  · exact ⟨[], List.append_nil l⟩

theorem exists_append_of_mem_linesOfPieces {ps : List (List Char)} (hl : l ∈ linesOfPieces ps) :
    ∃ rest, l ++ rest ∈ ps := by
  fun_induction linesOfPieces ps with
  | case1 => cases hl
  | case2 last hempty => cases hl
  | case3 last hempty => exact ⟨[], by simpa using hl⟩
  | case4 p ps hps ih =>
    rcases List.mem_cons.mp hl with rfl | hl
    · obtain ⟨rest, hrest⟩ := dropReturn_append p
      exact ⟨rest, List.mem_cons.mpr (.inl hrest)⟩
    · obtain ⟨rest, hrest⟩ := ih hl
      exact ⟨rest, List.mem_cons_of_mem _ hrest⟩

/-- What a line of a text holds, the text holds, apart from line feeds. -/
theorem mem_of_mem_lines {c : Char} (hl : l ∈ lines cs) (hc : c ∈ l) : c ∈ cs ∧ c ≠ '\n' := by
  obtain ⟨rest, hrest⟩ := exists_append_of_mem_linesOfPieces hl
  exact mem_of_mem_splitOn hrest (List.mem_append_left rest hc)

/-- A line that is moved to the right, unless it is empty. -/
def padded (n : Nat) (l : List Char) : List Char :=
  if l.isEmpty then [] else List.replicate n ' ' ++ l

theorem eq_or_mem_of_mem_padded {c : Char} (h : c ∈ padded n l) : c = ' ' ∨ c ∈ l := by
  rw [padded] at h
  split at h
  · cases h
  · exact (List.mem_append.mp h).imp_left List.eq_of_mem_replicate

theorem row?_padded (n : Nat) (l : List Char) : row? (padded n l) = (row? l).map (Row.shift n) := by
  rw [padded]
  split
  · next h =>
    rw [List.isEmpty_iff.mp h]
    rfl
  · exact row?_replicate_append n l

theorem indent_eq_intercalate (n : Nat) (cs : List Char) :
    indent n cs = ['\n'].intercalate ((lines cs).map (padded n)) := by
  rw [indent, join_eq_intercalate]
  rfl

theorem lineFeed_notMem_padded (n : Nat) (hl : l ∈ lines cs) : '\n' ∉ padded n l := by
  intro hmem
  rcases eq_or_mem_of_mem_padded hmem with heq | hmem
  · exact absurd heq (by decide)
  · exact (mem_of_mem_lines hl hmem).2 rfl

/-- The lines of a text that is moved to the right are those of the text, moved to the right. -/
theorem splitOn_indent (n : Nat) (hne : lines cs ≠ []) :
    splitOn '\n' (indent n cs) = (lines cs).map (padded n) := by
  refine splitOn_join (by simpa using hne) fun line hline => ?_
  obtain ⟨l, hl, rfl⟩ := List.mem_map.mp hline
  exact lineFeed_notMem_padded n hl

theorem rows_indent (n : Nat) (h : '\r' ∉ cs) :
    rows (indent n cs) = (rows cs).map (Row.shift n) := by
  have hpieces : ∀ p ∈ splitOn '\n' cs, '\r' ∉ p := fun p hp hmem =>
    h (mem_of_mem_splitOn hp hmem).1
  have hline : ∀ l ∈ lines cs, rows (padded n l) = ((row? l).map (Row.shift n)).toList := by
    intro l hl
    rw [rows_of_line (lineFeed_notMem_padded n hl), row?_padded]
  rw [indent_eq_intercalate, rows_intercalate (.inl rfl), List.flatMap_map,
    List.flatMap_congr hline, ← List.filterMap_eq_flatMap_toList, rows,
    ← filterMap_row?_linesOfPieces hpieces, List.map_filterMap]
  rfl

/-! ### Texts with given rows -/

theorem mem_of_mem_intercalate {c : Char} {sep : List Char} {parts : List (List Char)}
    (h : c ∈ sep.intercalate parts) : c ∈ sep ∨ ∃ p ∈ parts, c ∈ p := by
  induction parts with
  | nil => simp at h
  | cons p parts ih =>
    cases parts with
    | nil => exact .inr ⟨p, List.mem_cons_self, by simpa using h⟩
    | cons q parts =>
      rw [List.intercalate_cons_cons, List.mem_append, List.mem_append] at h
      rcases h with (h | h) | h
      · exact .inr ⟨p, List.mem_cons_self, h⟩
      · exact .inl h
      · exact (ih h).imp_right fun ⟨q, hq, hc⟩ => ⟨q, List.mem_cons_of_mem p hq, hc⟩

/-- The text has the given rows, and no carriage returns. -/
structure Lays (cs : List Char) (rs : List Row) : Prop where
  rows_eq : rows cs = rs
  noReturn : '\r' ∉ cs

/-- The text has no line ends. -/
def NoBreak (cs : List Char) : Prop :=
  '\n' ∉ cs ∧ '\r' ∉ cs

instance (cs : List Char) : Decidable (NoBreak cs) :=
  inferInstanceAs (Decidable (_ ∧ _))

theorem noBreak_append : NoBreak (cs ++ ds) ↔ NoBreak cs ∧ NoBreak ds := by
  simp only [NoBreak, List.mem_append, not_or]
  exact and_and_and_comm

theorem noBreak_cons {c : Char} : NoBreak (c :: cs) ↔ NoBreak [c] ∧ NoBreak cs := by
  rw [← noBreak_append, List.singleton_append]

/-- A line with blanks in front of it. -/
theorem lays_line (n : Nat) (hne : l ≠ []) (hblank : l.head? ≠ some ' ') (hbreak : NoBreak l) :
    Lays (List.replicate n ' ' ++ l) [⟨n, l⟩] := by
  have hblanks : NoBreak (List.replicate n ' ') :=
    ⟨fun h => absurd (List.eq_of_mem_replicate h) (by decide),
      fun h => absurd (List.eq_of_mem_replicate h) (by decide)⟩
  obtain ⟨hfeed, hreturn⟩ := noBreak_append.mpr ⟨hblanks, hbreak⟩
  refine ⟨?_, hreturn⟩
  rw [rows_of_line hfeed, row?_replicate_append]
  cases l with
  | nil => exact absurd rfl hne
  | cons c l =>
    have hc : (c == ' ') = false := by simpa using hblank
    simp [row?, hc, Row.shift]

theorem Lays.indent (h : Lays cs rs) (n : Nat) : Lays (indent n cs) (rs.map (Row.shift n)) := by
  refine ⟨by rw [rows_indent n h.noReturn, h.rows_eq], fun hmem => ?_⟩
  rw [indent_eq_intercalate] at hmem
  rcases mem_of_mem_intercalate hmem with hmem | ⟨p, hp, hmem⟩
  · exact absurd hmem (by decide)
  · obtain ⟨l, hl, rfl⟩ := List.mem_map.mp hp
    rcases eq_or_mem_of_mem_padded hmem with heq | hmem
    · exact absurd heq (by decide)
    · exact h.noReturn (mem_of_mem_lines hl hmem).1

/-- The texts have the given rows, one after another, and no carriage returns. -/
inductive LaysAll : List (List Char) → List Row → Prop
  | nil : LaysAll [] []
  | cons {cs : List Char} {parts : List (List Char)} {rs qs : List Row} (h : Lays cs rs)
    (hparts : LaysAll parts qs) : LaysAll (cs :: parts) (rs ++ qs)

theorem LaysAll.append {parts parts' : List (List Char)} (h : LaysAll parts rs)
    (h' : LaysAll parts' qs) : LaysAll (parts ++ parts') (rs ++ qs) := by
  induction h with
  | nil => exact h'
  | cons hcs _ ih =>
    rw [List.cons_append, List.append_assoc]
    exact .cons hcs ih

theorem lays_intercalate {sep : List Char} (hsep : IsGap sep) {parts : List (List Char)}
    (h : LaysAll parts rs) : Lays (sep.intercalate parts) rs := by
  have hparts : parts.flatMap rows = rs ∧ ∀ p ∈ parts, '\r' ∉ p := by
    induction h with
    | nil => exact ⟨rfl, by simp⟩
    | cons hcs _ ih =>
      refine ⟨?_, List.forall_mem_cons.mpr ⟨hcs.noReturn, ih.2⟩⟩
      rw [List.flatMap_cons, hcs.rows_eq, ih.1]
  refine ⟨(rows_intercalate hsep parts).trans hparts.1, fun hmem => ?_⟩
  rcases mem_of_mem_intercalate hmem with hmem | ⟨p, hp, hmem⟩
  · rcases hsep with rfl | rfl
    · exact absurd hmem (by decide)
    · exact absurd hmem (by decide)
  · exact hparts.2 p hp hmem

/-- A blank line has no rows. -/
theorem lays_nil : Lays [] [] :=
  ⟨rfl, by simp⟩

/-! ### Blocks -/

/-- A row, and the blocks below it that start further to the right. -/
inductive Block
  | mk (head : List Char) (body : List Block)
  deriving Repr

namespace Block

mutual

/-- The rows of a block that starts in a column. -/
def rowsAt (column : Nat) : Block → List Row
  | mk head body => ⟨column, head⟩ :: rowsOf (column + 4) body

/-- The rows of blocks that start in a column. -/
def rowsOf (column : Nat) : List Block → List Row
  | [] => []
  | b :: bs => rowsAt column b ++ rowsOf column bs

end

mutual

theorem map_shift_rowsAt (n column : Nat) :
    (b : Block) → (rowsAt column b).map (Row.shift n) = rowsAt (column + n) b
  | mk head body => by
    rw [rowsAt, rowsAt, List.map_cons, map_shift_rowsOf, Nat.add_right_comm]
    rfl

theorem map_shift_rowsOf (n column : Nat) :
    (bs : List Block) → (rowsOf column bs).map (Row.shift n) = rowsOf (column + n) bs
  | [] => rfl
  | b :: bs => by
    rw [rowsOf, rowsOf, List.map_append, map_shift_rowsAt, map_shift_rowsOf]

end

theorem rowsOf_append (column : Nat) (bs bs' : List Block) :
    rowsOf column (bs ++ bs') = rowsOf column bs ++ rowsOf column bs' := by
  induction bs with
  | nil => rfl
  | cons b bs ih => rw [List.cons_append, rowsOf, rowsOf, ih, List.append_assoc]

/-- The body of the last block stands below its head. -/
theorem rowsOf_body {column : Nat} {head : List Char} {body : List Block} (bs : List Block) :
    rowsOf column (bs ++ [mk head body]) =
      rowsOf column (bs ++ [mk head []]) ++ rowsOf (column + 4) body := by
  simp [rowsOf_append, rowsOf, rowsAt]

end Block

open Block

/-- The blocks that rows head, each with its column.  What stands below a row and further to the
right must start four columns from it. -/
def assemble? : List Row → Option (List (Nat × Block))
  | [] => some []
  | r :: rs =>
    (assemble? rs).bind fun fs =>
      let body := fs.takeWhile fun f => r.column < f.1
      if body.all (fun f => f.1 == r.column + 4) then
        some ((r.column, .mk r.content (body.map Prod.snd)) ::
          fs.dropWhile fun f => r.column < f.1)
      else none

/-- The blocks of a text that start in the first column, if all others lie in them. -/
def blocks? (cs : List Char) : Option (List Block) :=
  (assemble? (rows cs)).bind fun fs =>
    if fs.all (fun f => f.1 == 0) then some (fs.map Prod.snd) else none

/-- Blocks that follow do not start to the right of the column. -/
def EndsAt (column : Nat) (fs : List (Nat × Block)) : Prop :=
  ∀ f ∈ fs.head?, f.1 ≤ column

theorem EndsAt.takeWhile_dropWhile {column : Nat} {fs : List (Nat × Block)} (h : EndsAt column fs) :
    (fs.takeWhile fun f => column < f.1) = [] ∧ (fs.dropWhile fun f => column < f.1) = fs := by
  cases fs with
  | nil => exact ⟨rfl, rfl⟩
  | cons f fs =>
    have hf : ¬column < f.1 := Nat.not_lt.mpr (h f rfl)
    simp [hf]

theorem EndsAt.map_append {column : Nat} {fs : List (Nat × Block)} (h : EndsAt column fs)
    (bs : List Block) : EndsAt column (bs.map (fun b => (column, b)) ++ fs) := by
  cases bs with
  | nil => exact h
  | cons b bs =>
    intro f hf
    cases hf
    exact Nat.le_refl column

theorem map_snd_map (column : Nat) (bs : List Block) :
    (bs.map fun b => (column, b)).map Prod.snd = bs := by
  rw [List.map_map]
  exact List.map_id bs

mutual

theorem assemble?_rowsAt {column : Nat} {fs : List (Nat × Block)} {rs : List Row}
    (hrs : assemble? rs = some fs) (hfs : EndsAt column fs) :
    (b : Block) → assemble? (rowsAt column b ++ rs) = some ((column, b) :: fs)
  | mk head body => by
    have hfs' : EndsAt (column + 4) fs := fun f hf => Nat.le_add_right_of_le (hfs f hf)
    have hbody := assemble?_rowsOf hrs hfs' body
    have hright : ∀ f ∈ body.map fun b => (column + 4, b), decide (column < f.1) = true := by
      simp
    have hall : ((body.map fun b => (column + 4, b)).all fun f => f.1 == column + 4) = true := by
      simp
    obtain ⟨htake, hdrop⟩ := hfs.takeWhile_dropWhile
    rw [rowsAt, List.cons_append, assemble?, hbody, Option.bind_some,
      List.takeWhile_append_of_pos hright, List.dropWhile_append_of_pos hright, htake, hdrop,
      List.append_nil]
    simp only [hall, if_true, map_snd_map]

/-- **The forest is read back from its rows**, whatever follows it. -/
theorem assemble?_rowsOf {column : Nat} {fs : List (Nat × Block)} {rs : List Row}
    (hrs : assemble? rs = some fs) (hfs : EndsAt column fs) :
    (bs : List Block) →
      assemble? (rowsOf column bs ++ rs) = some (bs.map (fun b => (column, b)) ++ fs)
  | [] => hrs
  | b :: bs => by
    rw [rowsOf, List.append_assoc]
    exact assemble?_rowsAt (assemble?_rowsOf hrs hfs bs) (hfs.map_append bs) b

end

/-- A text with the rows of a forest is read as the forest. -/
theorem blocks?_of_lays {bs : List Block} (h : Lays cs (rowsOf 0 bs)) : blocks? cs = some bs := by
  have hrows : assemble? (rowsOf 0 bs ++ []) = some (bs.map (fun b => (0, b)) ++ []) :=
    assemble?_rowsOf rfl (by simp [EndsAt]) bs
  rw [List.append_nil, List.append_nil] at hrows
  have hall : ((bs.map fun b => (0, b)).all fun f => f.1 == 0) = true := by
    simp
  rw [blocks?, h.rows_eq, hrows, Option.bind_some, if_pos hall, map_snd_map]

end RpcBindings.Text
