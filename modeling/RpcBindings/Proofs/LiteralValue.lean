import RpcBindings.Source.Constant

/-!
# The values of string literals

What a string literal means in Java.  Its text is first cut into pieces, of which those that are
Unicode escapes stand for the character that they spell; then escape sequences are read, and these
may consist of more than one piece, since a digit behind an octal escape belongs to it, however it
is spelled.  The decoder goes through the text only once and gives one character for each piece.  So
its result is never shorter than the value, and it is the value exactly if each piece means alone
what it means in its place.

## Main definitions

* `Piece` — what the translation of Unicode escapes reads.
* `Item`, `Reads` — characters and escape sequences, and how they are read from codes.
* `StringLiteral` — a literal, by its pieces and by what they are read as.

## Main results

* `unescape?_flatMap_text` — the decoder gives one character for each piece.
* `Matches.append` — results that are never too short can be compared part by part.
* `matches_of_reads` — **what the decoder makes of a literal**, compared with its value.
-/

namespace RpcBindings.Source

open Text

namespace Literal

/-! ### Literals of the language -/

/-- What the translation of Unicode escapes reads. -/
inductive Piece
  /-- A character. -/
  | plain (c : Char)
  /-- A backslash with the next character, so that a second backslash starts no Unicode escape. -/
  | pair (c : Char)
  /-- A Unicode escape with further letters `u` and with the digits of a code. -/
  | unicode (further : Nat) (digits : List Char) (code : Nat)
  deriving DecidableEq, Repr

namespace Piece

/-- How a piece is written. -/
def text : Piece → List Char
  | plain c => [c]
  | pair c => ['\\', c]
  | unicode k ds _ => '\\' :: 'u' :: (List.replicate k 'u' ++ ds)

/-- The codes that a piece stands for once Unicode escapes are translated. -/
def codes : Piece → List Nat
  | plain c => [c.toNat]
  | pair c => ['\\'.toNat, c.toNat]
  | unicode _ _ n => [n]

/-- Whether a piece can be told from the others by its text, and holds no escaped line feed. -/
def IsProper : Piece → Prop
  | plain c => c ≠ '\\'
  | pair c => c ≠ 'u' ∧ c ≠ '\n'
  | unicode _ ds n => ds.length = 4 ∧ number? 16 ds = some n

instance : DecidablePred IsProper
  | plain c => inferInstanceAs (Decidable (c ≠ '\\'))
  | pair c => inferInstanceAs (Decidable (c ≠ 'u' ∧ c ≠ '\n'))
  | unicode _ ds n => inferInstanceAs (Decidable (ds.length = 4 ∧ number? 16 ds = some n))

/-- Whether a piece spells a backslash by its code. -/
def HidesBackslash : Piece → Prop
  | unicode _ _ n => n = '\\'.toNat
  | _ => False

instance : DecidablePred HidesBackslash
  | plain _ | pair _ => inferInstanceAs (Decidable False)
  | unicode _ _ n => inferInstanceAs (Decidable (n = '\\'.toNat))

/-- The character that the decoder gives for a piece. -/
def decoded? : Piece → Option Char
  | plain c => some c
  | pair c => some (escaped c)
  | unicode 0 _ n => char? n
  | unicode (_ + 1) _ _ => none

end Piece

/-- What a literal consists of when its Unicode escapes are translated. -/
inductive Item
  /-- A character of the given code. -/
  | plain (code : Nat)
  /-- An escape of one letter, by the character that it stands for. -/
  | letter (c : Char)
  /-- An octal escape, by the codes of its digits. -/
  | octal (digits : List Nat)
  deriving DecidableEq, Repr

/-- The code that an item stands for. -/
def Item.value : Item → Nat
  | plain u => u
  | letter c => c.toNat
  | octal ds => ds.foldl (fun n d => 8 * n + (d - '0'.toNat)) 0

/-- Whether an item is an escape of a zero, if it is an octal escape at all. -/
def Item.IsZeroIfOctal : Item → Prop
  | octal ds => ds = ['0'.toNat]
  | _ => True

instance : DecidablePred Item.IsZeroIfOctal
  | .plain _ | .letter _ => inferInstanceAs (Decidable True)
  | .octal ds => inferInstanceAs (Decidable (ds = ['0'.toNat]))

/-- The letters of the escapes, each with the character that it stands for. -/
def letters : List (Char × Char) :=
  [('b', '\x08'), ('s', ' '), ('t', '\t'), ('n', '\n'), ('f', '\x0c'), ('r', '\r'), ('"', '"'),
   ('\'', '\''), ('\\', '\\')]

/-- The code of an octal digit. -/
def IsDigit (d : Nat) : Prop :=
  '0'.toNat ≤ d ∧ d ≤ '7'.toNat

instance (d : Nat) : Decidable (IsDigit d) :=
  inferInstanceAs (Decidable (_ ∧ _))

/-- The codes of the digits of an octal escape.  The first of three is at most `3`. -/
def IsOctal : List Nat → Prop
  | [a] => IsDigit a
  | [a, b] => IsDigit a ∧ IsDigit b
  | [a, b, c] => IsDigit a ∧ a ≤ '3'.toNat ∧ IsDigit b ∧ IsDigit c
  | _ => False

instance : DecidablePred IsOctal
  | [] | _ :: _ :: _ :: _ :: _ => inferInstanceAs (Decidable False)
  | [a] => inferInstanceAs (Decidable (IsDigit a))
  | [a, b] => inferInstanceAs (Decidable (IsDigit a ∧ IsDigit b))
  | [a, b, c] => inferInstanceAs (Decidable (IsDigit a ∧ a ≤ '3'.toNat ∧ IsDigit b ∧ IsDigit c))

/-- What codes between the quotes of a literal are read as.  An octal escape takes as many digits
as it can. -/
inductive Reads : List Nat → List Item → Prop
  | nil : Reads [] []
  | plain {u : Nat} {us : List Nat} {is : List Item}
    (hu : u ∉ ['"'.toNat, '\\'.toNat, '\n'.toNat, '\r'.toNat]) (h : Reads us is) :
    Reads (u :: us) (.plain u :: is)
  | letter {c d : Char} {us : List Nat} {is : List Item} (hc : (c, d) ∈ letters)
    (h : Reads us is) : Reads ('\\'.toNat :: c.toNat :: us) (.letter d :: is)
  | octal {ds us : List Nat} {is : List Item} (hds : IsOctal ds)
    (hlongest : ∀ d ∈ us.head?, ¬IsOctal (ds ++ [d])) (h : Reads us is) :
    Reads ('\\'.toNat :: (ds ++ us)) (.octal ds :: is)

end Literal

/-- An ordinary string literal: its pieces and what their codes are read as. -/
structure StringLiteral where
  pieces : List Literal.Piece
  items : List Literal.Item
  proper : ∀ p ∈ pieces, p.IsProper
  reads : Literal.Reads (pieces.flatMap Literal.Piece.codes) items

namespace StringLiteral

/-- The text of a literal. -/
def text (l : StringLiteral) : List Char :=
  '"' :: l.pieces.flatMap Literal.Piece.text ++ ['"']

/-- The codes of the characters of the value of a literal. -/
def value (l : StringLiteral) : List Nat :=
  l.items.map Literal.Item.value

end StringLiteral

namespace Literal

/-! ### The decoder on pieces -/

theorem number?_of_notHex {c : Char} (hc : hexDigit? c = none) (cs : List Char) :
    number? 16 (c :: cs) = none := by
  simp [number?, numberFrom?, digit?, hc]

theorem hex?_of_number? {ds : List Char} {n : Nat} (h : number? 16 ds = some n) :
    hex? ds = some n := by
  unfold hex?
  split
  · rw [number?_of_notHex (by decide)] at h
    cases h
  · exact h

theorem unescape?_cons {c : Char} (hc : c ≠ '\\') (cs : List Char) :
    unescape? (c :: cs) = (unescape? cs).map (c :: ·) := by
  rw [unescape?]
  · exact fun h _ => hc h
  · exact fun _ h _ => hc h
  · exact fun _ _ _ _ _ h _ => hc h
  · exact fun _ h _ => hc h
  · exact fun _ _ h _ => hc h

theorem unescape?_pair {c : Char} (hu : c ≠ 'u') (hfeed : c ≠ '\n') (cs : List Char) :
    unescape? ('\\' :: c :: cs) = (unescape? cs).map (escaped c :: ·) := by
  rw [unescape?]
  · exact hfeed
  · exact fun _ _ _ _ _ h _ => hu h
  · exact hu

theorem unescape?_unicode {ds : List Char} {n : Nat} (hlength : ds.length = 4)
    (hcode : number? 16 ds = some n) (cs : List Char) :
    unescape? ('\\' :: 'u' :: (ds ++ cs)) =
      (char? n).bind fun c => (unescape? cs).map (c :: ·) := by
  match ds, hlength with
  | [a, b, c, d], _ =>
    simp only [List.cons_append, List.nil_append, unescape?, hex?_of_number? hcode,
      Option.bind_some]
    cases char? n with
    | none => rfl
    | some value => cases unescape? cs <;> rfl

theorem unescape?_manyLetters {cs : List Char} (hlength : 3 ≤ cs.length) :
    unescape? ('\\' :: 'u' :: 'u' :: cs) = none := by
  match cs, hlength with
  | a :: b :: c :: cs, _ =>
    have hhex : hex? ['u', a, b, c] = none := number?_of_notHex (by decide) _
    simp [unescape?, hhex]

theorem mapM_decoded?_cons (p : Piece) (ps : List Piece) :
    (p :: ps).mapM Piece.decoded? =
      p.decoded?.bind fun c => (ps.mapM Piece.decoded?).map (c :: ·) := by
  rw [List.mapM_cons]
  cases p.decoded? with
  | none => rfl
  | some c => cases ps.mapM Piece.decoded? <;> rfl

/-- The decoder gives one character for each piece. -/
theorem unescape?_flatMap_text {ps : List Piece} (hproper : ∀ p ∈ ps, p.IsProper) :
    unescape? (ps.flatMap Piece.text) = ps.mapM Piece.decoded? := by
  induction ps with
  | nil => simp [unescape?]
  | cons p ps ih =>
    obtain ⟨hp, hproper⟩ := List.forall_mem_cons.mp hproper
    rw [mapM_decoded?_cons, List.flatMap_cons, ← ih hproper]
    match p, hp with
    | .plain c, hp => exact unescape?_cons hp _
    | .pair c, hp => exact unescape?_pair hp.1 hp.2 _
    | .unicode 0 ds n, hp => exact unescape?_unicode hp.1 hp.2 _
    | .unicode (k + 1) ds n, hp =>
      have hlength : 3 ≤ (List.replicate k 'u' ++ ds ++ ps.flatMap Piece.text).length := by
        simp only [List.length_append, hp.1]
        omega
      exact unescape?_manyLetters hlength

/-! ### Comparing results with values -/

/-- The result is not shorter than the value of the items, and it is the value exactly if all octal
escapes among the items are escapes of a zero. -/
structure Matches (v : List Char) (is : List Item) : Prop where
  length_le : is.length ≤ v.length
  eq_iff : v.map Char.toNat = is.map Item.value ↔ ∀ i ∈ is, i.IsZeroIfOctal

/-- **Results that are never too short can be compared part by part**: none of the parts can make
up for what another one has too much. -/
theorem Matches.append {v w : List Char} {is js : List Item} (hv : Matches v is)
    (hw : Matches w js) : Matches (v ++ w) (is ++ js) where
  length_le := by
    rw [List.length_append, List.length_append]
    exact Nat.add_le_add hv.length_le hw.length_le
  eq_iff := by
    rw [List.forall_mem_append, ← hv.eq_iff, ← hw.eq_iff, List.map_append, List.map_append]
    constructor
    · intro h
      have hlength := congrArg List.length h
      simp only [List.length_append, List.length_map] at hlength
      have hle := hv.length_le
      have hle' := hw.length_le
      exact List.append_inj h (by simp only [List.length_map]; omega)
    · rintro ⟨hv, hw⟩
      rw [hv, hw]

theorem matches_nil : Matches [] [] :=
  ⟨Nat.le_refl _, by simp⟩

theorem matches_plain {c : Char} {u : Nat} (h : c.toNat = u) : Matches [c] [.plain u] :=
  ⟨Nat.le_refl _, by simp [h, Item.value, Item.IsZeroIfOctal]⟩

/-- The escapes of one letter are decoded alike. -/
theorem matches_letter {c d : Char} (h : (c, d) ∈ letters) : Matches [escaped c] [.letter d] := by
  have hsame : ∀ p ∈ letters, escaped p.1 = p.2 := by decide
  rw [hsame (c, d) h]
  exact ⟨Nat.le_refl _, by simp [Item.value, Item.IsZeroIfOctal]⟩

/-- Of the octal escapes with one digit only the zero is decoded, all others give their digit. -/
theorem matches_octal {c : Char} (h : IsDigit c.toNat) :
    Matches [escaped c] [.octal [c.toNat]] := by
  have hmem : c ∈ ['0', '1', '2', '3', '4', '5', '6', '7'] := by
    have hbounds : 48 ≤ c.toNat ∧ c.toNat ≤ 55 := h
    simp only [List.mem_cons, List.not_mem_nil, or_false, ← Char.toNat_inj]
    simp
    omega
  refine ⟨Nat.le_refl _, ?_⟩
  rw [List.forall_mem_singleton]
  change _ ↔ [c.toNat] = ['0'.toNat]
  simp only [List.mem_cons, List.not_mem_nil, or_false] at hmem
  rcases hmem with rfl | rfl | rfl | rfl | rfl | rfl | rfl | rfl
  all_goals decide

/-- An octal escape that gives more than one character is not decoded. -/
theorem matches_longer {v : List Char} {ds : List Nat} (hv : 1 < v.length) (hds : 1 < ds.length) :
    Matches v [.octal ds] := by
  refine ⟨Nat.le_of_lt hv, iff_of_false (fun h => ?_) fun h => ?_⟩
  · have hlength := congrArg List.length h
    simp only [List.length_map, List.length_singleton] at hlength
    omega
  · rw [List.forall_mem_singleton.mp h] at hds
    simp at hds

/-! ### Literals -/

theorem mapM_decoded?_cons_eq_some {p : Piece} {ps : List Piece} {v : List Char} :
    (p :: ps).mapM Piece.decoded? = some v ↔
      ∃ c w, p.decoded? = some c ∧ ps.mapM Piece.decoded? = some w ∧ v = c :: w := by
  simp only [mapM_decoded?_cons, Option.bind_eq_some_iff, Option.map_eq_some_iff, exists_and_left,
    eq_comm (a := v)]

theorem toNat_of_char? {n : Nat} {c : Char} (h : char? n = some c) : c.toNat = n := by
  unfold char? at h
  split at h
  · next hvalid =>
    cases h
    rw [Char.ofNat, dif_pos hvalid]
    rfl
  · cases h

/-- A code that is no backslash comes from a piece of its own, which is decoded to its character. -/
theorem exists_of_codes {ps : List Piece} {v : List Char} {u : Nat} {us : List Nat}
    (hcodes : ps.flatMap Piece.codes = u :: us) (hu : u ≠ '\\'.toNat)
    (hv : ps.mapM Piece.decoded? = some v) :
    ∃ p qs c w, ps = p :: qs ∧ qs.flatMap Piece.codes = us ∧ v = c :: w ∧
      qs.mapM Piece.decoded? = some w ∧ c.toNat = u := by
  cases ps with
  | nil => cases hcodes
  | cons p qs =>
    obtain ⟨c, w, hc, hw, rfl⟩ := mapM_decoded?_cons_eq_some.mp hv
    rw [List.flatMap_cons] at hcodes
    refine ⟨p, qs, c, w, rfl, ?_⟩
    match p, hc, hcodes with
    | .plain d, hc, hcodes =>
      cases hc
      obtain ⟨hd, hus⟩ := List.cons.inj hcodes
      exact ⟨hus, rfl, hw, hd⟩
    | .pair d, _, hcodes => exact absurd (List.cons.inj hcodes).1.symm hu
    | .unicode 0 ds n, hc, hcodes =>
      obtain ⟨hn, hus⟩ := List.cons.inj hcodes
      exact ⟨hus, rfl, hw, (toNat_of_char? hc).trans hn⟩

/-- Digits come from as many pieces, and are decoded to as many characters. -/
theorem exists_of_digits {ds us : List Nat} {ps : List Piece} {v : List Char}
    (hds : ∀ d ∈ ds, IsDigit d) (hcodes : ps.flatMap Piece.codes = ds ++ us)
    (hv : ps.mapM Piece.decoded? = some v) :
    ∃ qs w x, qs ⊆ ps ∧ qs.flatMap Piece.codes = us ∧ v = w ++ x ∧ w.length = ds.length ∧
      qs.mapM Piece.decoded? = some x := by
  induction ds generalizing ps v with
  | nil => exact ⟨ps, [], v, List.Subset.refl ps, hcodes, rfl, rfl, hv⟩
  | cons d ds ih =>
    obtain ⟨hd, hds⟩ := List.forall_mem_cons.mp hds
    have hbackslash : d ≠ '\\'.toNat := by
      rintro rfl
      exact absurd hd.2 (by decide)
    obtain ⟨p, qs, c, w, rfl, hqs, rfl, hw, -⟩ := exists_of_codes hcodes hbackslash hv
    obtain ⟨rs, x, y, hrs, hus, rfl, hlength, hy⟩ := ih hds hqs hw
    exact ⟨rs, c :: x, y, List.subset_cons_of_subset p hrs, hus, rfl, congrArg _ hlength, hy⟩

/-- A backslash that is not hidden comes with the character behind it. -/
theorem exists_of_backslash {ps : List Piece} {v : List Char} {us : List Nat}
    (hproper : ∀ p ∈ ps, p.IsProper) (hopen : ∀ p ∈ ps, ¬p.HidesBackslash)
    (hcodes : ps.flatMap Piece.codes = '\\'.toNat :: us)
    (hv : ps.mapM Piece.decoded? = some v) :
    ∃ qs c w, ps = .pair c :: qs ∧ us = c.toNat :: qs.flatMap Piece.codes ∧ v = escaped c :: w ∧
      qs.mapM Piece.decoded? = some w := by
  cases ps with
  | nil => cases hcodes
  | cons p qs =>
    obtain ⟨c, w, hc, hw, rfl⟩ := mapM_decoded?_cons_eq_some.mp hv
    have hp := hproper p List.mem_cons_self
    have hshown := hopen p List.mem_cons_self
    rw [List.flatMap_cons] at hcodes
    cases p with
    | plain d => exact absurd (Char.toNat_inj.mp (List.cons.inj hcodes).1) hp
    | pair d =>
      cases hc
      exact ⟨qs, d, w, rfl, (List.cons.inj hcodes).2.symm, rfl, hw⟩
    | unicode k ds n => exact absurd (List.cons.inj hcodes).1 hshown

theorem ne_nil_of_isOctal {ds : List Nat} (h : IsOctal ds) : ds ≠ [] := by
  rintro rfl
  exact h

theorem isDigit_of_isOctal {ds : List Nat} (h : IsOctal ds) : ∀ d ∈ ds, IsDigit d := by
  match ds, h with
  | [_], ha => exact List.forall_mem_singleton.mpr ha
  | [_, _], ⟨ha, hb⟩ => simp [ha, hb]
  | [_, _, _], ⟨ha, _, hb, hc⟩ => simp [ha, hb, hc]

/-- **What the decoder makes of a literal** without hidden backslashes is not shorter than the value
of the literal, and it is the value exactly if all octal escapes are escapes of a zero. -/
theorem matches_of_reads {ps : List Piece} {is : List Item} {v : List Char}
    (hproper : ∀ p ∈ ps, p.IsProper) (hopen : ∀ p ∈ ps, ¬p.HidesBackslash)
    (hreads : Reads (ps.flatMap Piece.codes) is) (hv : ps.mapM Piece.decoded? = some v) :
    Matches v is := by
  generalize hcodes : ps.flatMap Piece.codes = us at hreads
  -- each item takes whole pieces, so that the pieces behind it are those of the later items
  induction hreads generalizing ps v with
  | nil =>
    cases ps with
    | nil =>
      cases hv
      exact matches_nil
    | cons p ps => cases p <;> cases hcodes
  | plain hu h ih =>
    simp only [List.mem_cons, not_or] at hu
    obtain ⟨p, qs, c, w, rfl, hqs, rfl, hw, hc⟩ := exists_of_codes hcodes hu.2.1 hv
    have hrest := ih (List.forall_mem_cons.mp hproper).2 (List.forall_mem_cons.mp hopen).2 hw hqs
    exact (matches_plain hc).append hrest
  | letter hletter h ih =>
    obtain ⟨qs, c, w, rfl, hus, rfl, hw⟩ := exists_of_backslash hproper hopen hcodes hv
    obtain ⟨hc, hqs⟩ := List.cons.inj hus
    obtain rfl := Char.toNat_inj.mp hc
    have hrest :=
      ih (List.forall_mem_cons.mp hproper).2 (List.forall_mem_cons.mp hopen).2 hw hqs.symm
    exact (matches_letter hletter).append hrest
  | @octal ds us is hds hlongest h ih =>
    obtain ⟨qs, c, w, rfl, hus, rfl, hw⟩ := exists_of_backslash hproper hopen hcodes hv
    obtain ⟨d, ds, rfl⟩ := List.exists_cons_of_ne_nil (ne_nil_of_isOctal hds)
    obtain ⟨rfl, hqs⟩ := List.cons.inj hus
    obtain ⟨hdigit, hdigits⟩ := List.forall_mem_cons.mp (isDigit_of_isOctal hds)
    obtain ⟨rs, x, y, hrs, hcodes, rfl, hlength, hy⟩ := exists_of_digits hdigits hqs.symm hw
    have hrest : Matches y is :=
      ih (fun p hp => hproper p (List.mem_cons_of_mem _ (hrs hp)))
        (fun p hp => hopen p (List.mem_cons_of_mem _ (hrs hp))) hy hcodes
    cases ds with
    | nil =>
      obtain rfl := List.eq_nil_of_length_eq_zero hlength
      exact (matches_octal hdigit).append hrest
    | cons e ds =>
      have hlonger : Matches (escaped c :: x) [.octal (c.toNat :: e :: ds)] :=
        matches_longer (by simp [hlength]) (by simp)
      exact hlonger.append hrest

theorem unwrap?_singleton (c : Char) (cs : List Char) :
    unwrap? [c] [c] (c :: cs ++ [c]) = some cs := by
  simp [unwrap?]

end Literal

namespace StringLiteral

open Literal

/-- No quote stands behind the opening one in the text of a literal that is not empty. -/
theorem head?_flatMap_text (l : StringLiteral) :
    (l.pieces.flatMap Piece.text).head? ≠ some '"' := by
  obtain ⟨ps, is, -, hreads⟩ := l
  cases ps with
  | nil => simp
  | cons p ps =>
    cases p with
    | plain c =>
      rintro hc
      obtain rfl : c = '"' := by simpa [Piece.text] using hc
      cases hreads with
      | plain hu h => simp at hu
    | pair c => simp [Piece.text]
    | unicode k ds n => simp [Piece.text]

/-- The decoder goes through the pieces of a literal. -/
theorem decode?_text (l : StringLiteral) :
    Literal.decode? l.text = l.pieces.mapM Piece.decoded? := by
  have hblock : blockFence.isPrefixOf l.text = false := by
    have hhead := l.head?_flatMap_text
    rw [text]
    cases hbody : l.pieces.flatMap Piece.text with
    | nil => rfl
    | cons c cs =>
      rw [hbody, List.head?_cons, Ne, Option.some.injEq] at hhead
      rw [Bool.eq_false_iff, Ne, List.isPrefixOf_iff_prefix]
      rintro ⟨ds, hds⟩
      exact hhead (List.cons.inj (List.cons.inj hds).2).1.symm
  rw [Literal.decode?, unwrap?, hblock, text, unwrap?_singleton]
  exact unescape?_flatMap_text l.proper

end StringLiteral

end RpcBindings.Source
