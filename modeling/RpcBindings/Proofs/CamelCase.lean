import RpcBindings.Proofs.Pieces
import RpcBindings.Text.Naming
import Mathlib.Data.List.Chain

/-!
# Words of a camel-case name

A name in `camelCase` is a list of words without anything between them, and its `snake_case` form
shows the words again.  What is proved about one word is that none starts inside of it; what is
proved about two neighbours is that the later one is seen to start.  Other names are cut as well,
but never beside an underscore that they have themselves.

## Main definitions

* `IsLowerWord`, `IsCapitalWord`, `IsAcronym`, `IsPluralAcronym` — the shapes of words.
* `IsCamelCase` — the words of a name whose shapes show where they start.
* `IsCut` — the parts of a text, with no underscore beside a cut.

## Main results

* `snakeAfter_flatten` — words that follow a word are marked one by one.
* `exists_isCut` — the `snake_case` form of any name joins the parts of it.
* `IsCut.eq_of_join_eq` — which underscores are not of the text itself can be told.
* `names_split_into_words` — **words of a name are kept apart, and nothing else is changed.**
-/

namespace RpcBindings.Text

variable {b c : Char} {before : Option Char} {cs rest v w : List Char} {ws : List (List Char)}

/-! ### Shapes of words -/

/-- A lower-case letter, then lower-case letters and digits. -/
def IsLowerWord (w : List Char) : Prop :=
  ∃ c cs, w = c :: cs ∧ c.isLower ∧ ∀ d ∈ cs, d.isLower ∨ d.isDigit

/-- A capital in front of a lower-case word. -/
def IsCapitalWord (w : List Char) : Prop :=
  ∃ c cs, w = c :: cs ∧ c.isUpper ∧ IsLowerWord cs

/-- Two or more capitals. -/
def IsAcronym (w : List Char) : Prop :=
  2 ≤ w.length ∧ ∀ c ∈ w, c.isUpper

/-- An acronym with the `s` of the plural. -/
def IsPluralAcronym (w : List Char) : Prop :=
  ∃ v, IsAcronym v ∧ w = v ++ ['s']

/-- A word that starts with a capital. -/
def IsHump (w : List Char) : Prop :=
  IsCapitalWord w ∨ IsAcronym w ∨ IsPluralAcronym w

/-- Whether the start of the second word can be told: behind an acronym that is not in the plural
stands no acronym, and no word that would be its last letter and the `s` of the plural. -/
def MayMeet (v w : List Char) : Prop :=
  IsAcronym v → ¬IsAcronym w ∧ ¬IsPluralAcronym w ∧ ∀ c, c.isUpper → w ≠ [c, 's']

/-- The words of a name in `camelCase`. -/
structure IsCamelCase (ws : List (List Char)) : Prop where
  ne_nil : ws ≠ []
  first : ∀ w ∈ ws.head?, IsLowerWord w ∨ IsHump w
  later : ∀ w ∈ ws.tail, IsHump w
  chain : ws.IsChain MayMeet

/-- The text ends, or a word that starts with a capital follows. -/
def Opens (rest : List Char) : Prop :=
  ∀ c ∈ rest.head?, c.isUpper

/-! ### Characters of words -/

/-- The capitals are the characters with the codes of `A` to `Z`. -/
theorem isUpper_iff : c.isUpper = true ↔ 65 ≤ c.val.toNat ∧ c.val.toNat ≤ 90 := by
  constructor
  · intro h
    obtain ⟨hlow, hhigh⟩ := of_decide_eq_true h
    exact ⟨UInt32.le_iff_toNat_le.mp hlow, UInt32.le_iff_toNat_le.mp hhigh⟩
  · rintro ⟨hlow, hhigh⟩
    exact decide_eq_true ⟨UInt32.le_iff_toNat_le.mpr hlow, UInt32.le_iff_toNat_le.mpr hhigh⟩

theorem isLower_of_isUpper (h : c.isUpper = true) : c.isLower = false := by
  rw [← Bool.not_eq_true]
  intro hsmall
  have hlow : 97 ≤ c.val.toNat :=
    UInt32.le_iff_toNat_le.mp (of_decide_eq_true ((Bool.and_eq_true _ _).mp hsmall).1)
  have hhigh := (isUpper_iff.mp h).2
  omega

theorem isDigit_of_isUpper (h : c.isUpper = true) : c.isDigit = false := by
  rw [← Bool.not_eq_true]
  intro hdigit
  have hhigh : c.val.toNat ≤ 57 :=
    UInt32.le_iff_toNat_le.mp (of_decide_eq_true ((Bool.and_eq_true _ _).mp hdigit).2)
  have hlow := (isUpper_iff.mp h).1
  omega

/-- The characters behind the first one of a lower-case word are no capitals. -/
theorem isUpper_of_isLower_or_isDigit (h : c.isLower = true ∨ c.isDigit = true) :
    c.isUpper = false := by
  cases hupper : c.isUpper with
  | false => rfl
  | true =>
    rcases h with h | h
    · exact absurd h (Bool.eq_false_iff.mp (isLower_of_isUpper hupper))
    · exact absurd h (Bool.eq_false_iff.mp (isDigit_of_isUpper hupper))

theorem ne_underscore_of_isUpper (h : c.isUpper = true) : c ≠ '_' := by
  rintro rfl
  exact absurd h (by decide)

/-- A character that is no capital stays as it is. -/
theorem toLower_of_isUpper_eq_false (h : c.isUpper = false) : c.toLower = c :=
  dif_neg (of_decide_eq_false h)

/-- A capital becomes a small letter. -/
theorem le_toLower_of_isUpper (h : c.isUpper = true) : 97 ≤ c.toLower.val.toNat := by
  obtain ⟨hlow, hhigh⟩ := isUpper_iff.mp h
  have hlower : c.toLower.val = c.val + ('a'.val - 'A'.val) :=
    congrArg Char.val (dif_pos (of_decide_eq_true h))
  have hshift : ('a'.val - 'A'.val).toNat = 32 := rfl
  rw [hlower, UInt32.toNat_add, hshift]
  omega

theorem isUpper_toLower (c : Char) : c.toLower.isUpper = false := by
  cases hupper : c.isUpper with
  | false => rw [toLower_of_isUpper_eq_false hupper, hupper]
  | true =>
    have hsmall := le_toLower_of_isUpper hupper
    rw [← Bool.not_eq_true, isUpper_iff]
    omega

theorem toLower_eq_underscore_iff : c.toLower = '_' ↔ c = '_' := by
  cases hupper : c.isUpper with
  | false => rw [toLower_of_isUpper_eq_false hupper]
  | true =>
    refine iff_of_false (fun h => ?_) (ne_underscore_of_isUpper hupper)
    have hsmall := le_toLower_of_isUpper hupper
    rw [h] at hsmall
    exact absurd hsmall (by decide)

theorem IsLowerWord.isUpper_eq_false (h : IsLowerWord w) : ∀ c ∈ w, c.isUpper = false := by
  obtain ⟨c, cs, rfl, hc, hcs⟩ := h
  exact List.forall_mem_cons.mpr ⟨isUpper_of_isLower_or_isDigit (.inl hc),
    fun d hd => isUpper_of_isLower_or_isDigit (hcs d hd)⟩

theorem IsAcronym.exists_eq_cons (h : IsAcronym w) :
    ∃ c cs, w = c :: cs ∧ c.isUpper = true ∧ ∀ d ∈ cs, d.isUpper = true := by
  obtain ⟨hlength, hcapitals⟩ := h
  obtain ⟨c, cs, rfl⟩ := List.exists_cons_of_length_pos (Nat.zero_lt_of_lt hlength)
  exact ⟨c, cs, rfl, List.forall_mem_cons.mp hcapitals⟩

theorem IsHump.exists_eq_cons (h : IsHump w) : ∃ c cs, w = c :: cs ∧ c.isUpper = true := by
  rcases h with ⟨c, cs, rfl, hc, -⟩ | hw | ⟨v, hv, rfl⟩
  · exact ⟨c, cs, rfl, hc⟩
  · obtain ⟨c, cs, rfl, hc, -⟩ := hw.exists_eq_cons
    exact ⟨c, cs, rfl, hc⟩
  · obtain ⟨c, cs, rfl, hc, -⟩ := hv.exists_eq_cons
    exact ⟨c, cs ++ ['s'], rfl, hc⟩

theorem opens_flatten (h : ∀ w ∈ ws, IsHump w) : Opens ws.flatten := by
  cases ws with
  | nil => simp [Opens]
  | cons w ws =>
    obtain ⟨c, cs, rfl, hc⟩ := (h w List.mem_cons_self).exists_eq_cons
    rintro _ ⟨rfl⟩
    exact hc

/-! ### Where words start -/

theorem startsWord_of_not_isUpper (hc : c.isUpper = false) :
    startsWord before c rest = false := by
  simp [startsWord, hc]

/-- The first character starts no further word. -/
theorem startsWord_none : startsWord none c rest = false := by
  rw [startsWord, Bool.and_false]

/-- Behind a lower-case letter or a digit each capital starts a word. -/
theorem startsWord_of_isLower_or_isDigit (hc : c.isUpper = true)
    (hb : b.isLower = true ∨ b.isDigit = true) : startsWord (some b) c rest = true := by
  rw [startsWord, hc, Bool.true_and]
  rcases hb with hb | hb
  · simp [hb]
  · simp [hb]

/-- Behind a capital, what follows decides. -/
theorem startsWord_of_isUpper (hc : c.isUpper = true) (hb : b.isUpper = true) :
    startsWord (some b) c rest = (rest.head?.any Char.isLower && !isPluralEnd rest) := by
  simp [startsWord, hc, hb, isLower_of_isUpper hb, isDigit_of_isUpper hb]

/-- No word starts among characters that are no capitals. -/
theorem snakeAfter_of_not_isUpper (hw : ∀ c ∈ w, c.isUpper = false) (rest : List Char) :
    snakeAfter before (w ++ rest)
      = w.map Char.toLower ++ snakeAfter (w.getLast?.or before) rest := by
  induction w generalizing before with
  | nil => rfl
  | cons c w ih =>
    obtain ⟨hc, hw⟩ := List.forall_mem_cons.mp hw
    have hlast : (c :: w).getLast?.or before = w.getLast?.or (some c) := by
      cases hw : w.getLast? <;> simp [List.getLast?_cons, hw]
    rw [List.cons_append, snakeAfter, startsWord_of_not_isUpper hc, ih hw, hlast]
    rfl

/-- No word starts in a run of capitals, unless lower case follows that is not the plural. -/
theorem snakeAfter_of_isUpper (hb : b.isUpper = true) (hw : ∀ c ∈ w, c.isUpper = true)
    (hrest : (rest.head?.any Char.isLower && !isPluralEnd rest) = false) :
    snakeAfter (some b) (w ++ rest)
      = w.map Char.toLower ++ snakeAfter (b :: w).getLast? rest := by
  induction w generalizing b with
  | nil => rfl
  | cons c w ih =>
    obtain ⟨hc, hw⟩ := List.forall_mem_cons.mp hw
    have hstart : startsWord (some b) c (w ++ rest) = false := by
      rw [startsWord_of_isUpper hc hb]
      cases w with
      | nil => exact hrest
      | cons d w => simp [isLower_of_isUpper (hw d List.mem_cons_self)]
    rw [List.cons_append, snakeAfter, hstart, ih hc hw, List.getLast?_cons_cons]
    rfl

theorem Opens.head?_any_isLower (h : Opens rest) : rest.head?.any Char.isLower = false := by
  cases rest with
  | nil => rfl
  | cons c cs => exact isLower_of_isUpper (h c rfl)

theorem Opens.isPluralEnd_cons (h : Opens rest) : isPluralEnd ('s' :: rest) = true := by
  cases rest with
  | nil => rfl
  | cons c cs =>
    have hc : c.isUpper = true := h c rfl
    simp [isPluralEnd, hc]

/-- **No word starts inside of a word.** -/
theorem snakeAfter_inside (hw : IsLowerWord (c :: cs) ∨ IsHump (c :: cs)) (hrest : Opens rest) :
    snakeAfter (some c) (cs ++ rest)
      = cs.map Char.toLower ++ snakeAfter (c :: cs).getLast? rest := by
  have hlast : (c :: cs).getLast? = cs.getLast?.or (some c) := by
    cases h : cs.getLast? <;> simp [List.getLast?_cons, h]
  rcases hw with hw | ⟨d, ds, heq, -, hds⟩ | ⟨-, hcapitals⟩ | ⟨v, hv, heq⟩
  · obtain ⟨-, hcs⟩ := List.forall_mem_cons.mp hw.isUpper_eq_false
    rw [hlast]
    exact snakeAfter_of_not_isUpper hcs rest
  · obtain ⟨rfl, rfl⟩ := List.cons_eq_cons.mp heq
    rw [hlast]
    exact snakeAfter_of_not_isUpper hds.isUpper_eq_false rest
  · obtain ⟨hc, hcs⟩ := List.forall_mem_cons.mp hcapitals
    exact snakeAfter_of_isUpper hc hcs (by rw [hrest.head?_any_isLower, Bool.false_and])
  · -- the capitals, then the `s` that closes them
    obtain ⟨d, ds, rfl, hc, hds⟩ := hv.exists_eq_cons
    obtain ⟨rfl, rfl⟩ := List.cons_eq_cons.mp (heq.trans (List.cons_append ..))
    have hplural : isPluralEnd ('s' :: rest) = true := hrest.isPluralEnd_cons
    have hs : ∀ d ∈ ['s'], d.isUpper = false := List.forall_mem_singleton.mpr rfl
    have hclose : snakeAfter (c :: ds).getLast? ('s' :: rest) = 's' :: snakeAfter (some 's') rest :=
      snakeAfter_of_not_isUpper hs rest
    rw [List.append_assoc, List.singleton_append,
      snakeAfter_of_isUpper hc hds (by rw [hplural, Bool.not_true, Bool.and_false]), hclose, hlast,
      List.getLast?_concat, List.map_append, List.append_assoc]
    rfl

/-- Only an acronym that is not in the plural ends with a capital. -/
theorem closes_or_isAcronym (hv : IsLowerWord v ∨ IsHump v) :
    (∃ b, v.getLast? = some b ∧ (b.isLower = true ∨ b.isDigit = true)) ∨ IsAcronym v := by
  have hlower : ∀ {w : List Char}, IsLowerWord w →
      ∃ b, w.getLast? = some b ∧ (b.isLower = true ∨ b.isDigit = true) := by
    rintro _ ⟨c, cs, rfl, hc, hcs⟩
    cases hlast : cs.getLast? with
    | none => exact ⟨c, by rw [List.getLast?_cons, hlast]; rfl, .inl hc⟩
    | some b =>
      have hb := hcs b (List.mem_of_getLast? hlast)
      exact ⟨b, by rw [List.getLast?_cons, hlast]; rfl, hb⟩
  rcases hv with hv | ⟨c, cs, rfl, -, hcs⟩ | hv | ⟨u, -, rfl⟩
  · exact .inl (hlower hv)
  · obtain ⟨b, hlast, hb⟩ := hlower hcs
    exact .inl ⟨b, by rw [List.getLast?_cons, hlast]; rfl, hb⟩
  · exact .inr hv
  · exact .inl ⟨'s', List.getLast?_concat, .inl rfl⟩

/-- A lower-case word is not taken for the plural of the capitals in front of it. -/
theorem isPluralEnd_append (hw : IsLowerWord w) (hs : w ≠ ['s']) (rest : List Char) :
    isPluralEnd (w ++ rest) = false := by
  obtain ⟨c, cs, rfl, -, hcs⟩ := hw
  by_cases hc : c = 's'
  · subst hc
    cases cs with
    | nil => exact absurd rfl hs
    | cons d ds =>
      have hd := hcs d List.mem_cons_self
      have hunderscore : d ≠ '_' := by
        rintro rfl
        exact absurd hd (by decide)
      have hplural : isPluralEnd ('s' :: d :: ds ++ rest) = (d == '_' || d.isUpper) := rfl
      rw [hplural, isUpper_of_isLower_or_isDigit hd, Bool.or_false, beq_eq_false_iff_ne]
      exact hunderscore
  · unfold isPluralEnd
    split <;> simp_all

/-- **The start of a word is seen** behind the word in front of it. -/
theorem startsWord_of_mayMeet (hv : IsLowerWord v ∨ IsHump v) (hw : IsHump (c :: cs))
    (hmeet : MayMeet v (c :: cs)) (rest : List Char) :
    startsWord v.getLast? c (cs ++ rest) = true := by
  obtain ⟨_, _, heq, hc⟩ := hw.exists_eq_cons
  obtain ⟨rfl, rfl⟩ := List.cons_eq_cons.mp heq
  obtain ⟨b, hlast, hb⟩ | hacronym := closes_or_isAcronym hv
  · rw [hlast]
    exact startsWord_of_isLower_or_isDigit hc hb
  · -- behind an acronym only a capitalized word may stand
    obtain ⟨hno, hnone, hs⟩ := hmeet hacronym
    obtain ⟨_, _, heq, -, hcs⟩ := hw.resolve_right (by simp [hno, hnone])
    obtain ⟨rfl, rfl⟩ := List.cons_eq_cons.mp heq
    have hne : v ≠ [] := List.ne_nil_of_length_pos (Nat.zero_lt_of_lt hacronym.1)
    have hb : (v.getLast hne).isUpper = true := hacronym.2 _ (List.getLast_mem hne)
    have hplural := isPluralEnd_append hcs (fun h => hs c hc (by rw [h])) rest
    obtain ⟨d, ds, rfl, hd, -⟩ := hcs
    rw [List.getLast?_eq_some_getLast hne, startsWord_of_isUpper hc hb, hplural]
    simp [hd]

/-- **Words that follow a word are marked one by one.** -/
theorem snakeAfter_flatten (hv : IsLowerWord v ∨ IsHump v) (hws : ∀ w ∈ ws, IsHump w)
    (hchain : (v :: ws).IsChain MayMeet) :
    snakeAfter v.getLast? ws.flatten = ws.flatMap fun w => '_' :: w.map Char.toLower := by
  induction ws generalizing v with
  | nil => rfl
  | cons w ws ih =>
    obtain ⟨hw, hlater⟩ := List.forall_mem_cons.mp hws
    obtain ⟨hmeet, hrest⟩ := List.isChain_cons_cons.mp hchain
    obtain ⟨c, cs, rfl, -⟩ := hw.exists_eq_cons
    rw [List.flatten_cons, List.cons_append, snakeAfter, startsWord_of_mayMeet hv hw hmeet,
      snakeAfter_inside (.inr hw) (opens_flatten hlater), ih (.inr hw) hlater hrest]
    rfl

/-- The words of a name in `camelCase`, in lower case and with underscores between them. -/
theorem snakeCase_flatten (h : IsCamelCase ws) :
    snakeCase ws.flatten = join ['_'] (ws.map (List.map Char.toLower)) := by
  obtain ⟨hne, hfirst, hlater, hchain⟩ := h
  obtain ⟨w, ws, rfl⟩ := List.exists_cons_of_ne_nil hne
  have hw : IsLowerWord w ∨ IsHump w := hfirst w rfl
  have hcons : ∃ c cs, w = c :: cs := by
    rcases hw with ⟨c, cs, rfl, -⟩ | hw
    · exact ⟨c, cs, rfl⟩
    · obtain ⟨c, cs, rfl, -⟩ := hw.exists_eq_cons
      exact ⟨c, cs, rfl⟩
  obtain ⟨c, cs, rfl⟩ := hcons
  have hinside := snakeAfter_inside hw (opens_flatten hlater)
  have hmarked := snakeAfter_flatten hw hlater hchain
  rw [List.tail_cons] at hinside hmarked
  rw [snakeCase, List.flatten_cons, List.cons_append, snakeAfter, startsWord_none, hinside, hmarked,
    List.map_cons, join_cons, List.flatMap_map]
  rfl

/-! ### Names of any shape -/

/-- The parts of a text that is cut somewhere, but never beside an underscore.  No part is empty: a
cut is neither at the start nor at the end, and no two cuts are in one place. -/
structure IsCut (cs : List Char) (ps : List (List Char)) : Prop where
  flatten_eq : ps.flatten = cs
  ne_nil : ∀ p ∈ ps, p ≠ []
  apart : ps.IsChain fun p q => p.getLast? ≠ some '_' ∧ q.head? ≠ some '_'

theorem ne_underscore_of_startsWord (h : startsWord (some b) c rest = true) :
    b ≠ '_' ∧ c ≠ '_' := by
  constructor
  · rintro rfl
    simp [startsWord, show '_'.isLower = false from rfl, show '_'.isDigit = false from rfl,
      show '_'.isUpper = false from rfl] at h
  · rintro rfl
    simp [startsWord, show '_'.isUpper = false from rfl] at h

/-- The `snake_case` form of the rest of a name, with the character in front of it, joins the parts
of it. -/
theorem exists_isCut_snakeAfter (c : Char) (cs : List Char) :
    ∃ p ps, IsCut ((c :: cs).map Char.toLower) (p :: ps) ∧ p.head? = some c.toLower ∧
      c.toLower :: snakeAfter (some c) cs = join ['_'] (p :: ps) := by
  induction cs generalizing c with
  | nil =>
    refine ⟨[c.toLower], [], ⟨rfl, by simp, .singleton _⟩, rfl, rfl⟩
  | cons d ds ih =>
    obtain ⟨p, ps, hcut, hhead, hjoin⟩ := ih d
    have hp : p ≠ [] := hcut.ne_nil p List.mem_cons_self
    cases hstart : startsWord (some c) d ds with
    | true =>
      obtain ⟨hc, hd⟩ := ne_underscore_of_startsWord hstart
      refine ⟨[c.toLower], p :: ps, ⟨?_, ?_, ?_⟩, rfl, ?_⟩
      · rw [List.flatten_cons, hcut.flatten_eq]
        rfl
      · exact List.forall_mem_cons.mpr ⟨List.cons_ne_nil _ _, hcut.ne_nil⟩
      · refine List.isChain_cons_cons.mpr ⟨⟨?_, ?_⟩, hcut.apart⟩
        · simpa [toLower_eq_underscore_iff] using hc
        · simpa [hhead, toLower_eq_underscore_iff] using hd
      · rw [snakeAfter, hstart, if_pos rfl, List.cons_append, List.singleton_append, hjoin]
        rfl
    | false =>
      refine ⟨c.toLower :: p, ps, ⟨?_, ?_, ?_⟩, rfl, ?_⟩
      · rw [List.flatten_cons, List.cons_append, ← List.flatten_cons, hcut.flatten_eq]
        rfl
      · obtain ⟨-, hps⟩ := List.forall_mem_cons.mp hcut.ne_nil
        exact List.forall_mem_cons.mpr ⟨List.cons_ne_nil _ _, hps⟩
      · refine hcut.apart.imp_head fun h => ⟨?_, h.2⟩
        rw [List.getLast?_cons_of_ne_nil hp]
        exact h.1
      · rw [snakeAfter, hstart, if_neg Bool.false_ne_true, List.singleton_append, hjoin, join_cons,
          join_cons]
        rfl

/-- **The `snake_case` form of any name joins the parts of it.** -/
theorem exists_isCut (name : List Char) :
    ∃ ps, IsCut (name.map Char.toLower) ps ∧ snakeCase name = join ['_'] ps := by
  cases name with
  | nil => exact ⟨[], ⟨rfl, by simp, .nil⟩, rfl⟩
  | cons c cs =>
    obtain ⟨p, ps, hcut, -, hjoin⟩ := exists_isCut_snakeAfter c cs
    refine ⟨p :: ps, hcut, ?_⟩
    rw [snakeCase, snakeAfter, startsWord_none, ← hjoin]
    rfl

/-- What is put between texts goes when it is taken out everywhere. -/
theorem filter_join (ps : List (List Char)) :
    (join ['_'] ps).filter (· ≠ '_') = ps.flatten.filter (· ≠ '_') := by
  cases ps with
  | nil => rfl
  | cons p ps =>
    rw [join_cons, List.flatten_cons, List.filter_append, List.filter_append]
    congr 1
    induction ps with
    | nil => rfl
    | cons q ps ih =>
      rw [List.flatMap_cons, List.flatten_cons, List.filter_append, List.filter_append, ih,
        List.filter_cons_of_neg (by simp)]

/-- The part in front of an underscore cannot be longer: the next part would start with that
underscore. -/
theorem eq_nil_of_append_eq {r cs ds : List Char} {ps : List (List Char)}
    (hps : ∀ p ∈ ps, p ≠ [] ∧ p.head? ≠ some '_') (hflatten : ps.flatten = r ++ cs)
    (hmarked : ps.flatMap ('_' :: ·) = r ++ ds) : r = [] := by
  cases r with
  | nil => rfl
  | cons c r =>
    cases ps with
    | nil => cases hflatten
    | cons p ps =>
      obtain ⟨hp, hhead⟩ := hps p List.mem_cons_self
      obtain ⟨d, p, rfl⟩ := List.exists_cons_of_ne_nil hp
      obtain ⟨rfl, -⟩ := List.cons_eq_cons.mp hmarked
      obtain ⟨rfl, -⟩ := List.cons_eq_cons.mp hflatten
      exact absurd rfl hhead

/-- The first part is known from the texts with and without the underscores. -/
theorem head_eq_of_marked_eq {p q : List Char} {ps qs : List (List Char)}
    (hps : ∀ p ∈ ps, p ≠ [] ∧ p.head? ≠ some '_') (hqs : ∀ q ∈ qs, q ≠ [] ∧ q.head? ≠ some '_')
    (hflatten : p ++ ps.flatten = q ++ qs.flatten)
    (hmarked : p ++ ps.flatMap ('_' :: ·) = q ++ qs.flatMap ('_' :: ·)) : p = q := by
  rcases List.append_eq_append_iff.mp hflatten with ⟨r, rfl, hr⟩ | ⟨r, rfl, hr⟩
  · rw [List.append_assoc, List.append_cancel_left_eq] at hmarked
    rw [eq_nil_of_append_eq hps hr hmarked, List.append_nil]
  · rw [List.append_assoc, List.append_cancel_left_eq] at hmarked
    rw [eq_nil_of_append_eq hqs hr hmarked.symm, List.append_nil]

theorem eq_of_marked_eq {p q : List Char} {ps qs : List (List Char)}
    (hps : ∀ p ∈ ps, p ≠ [] ∧ p.head? ≠ some '_') (hqs : ∀ q ∈ qs, q ≠ [] ∧ q.head? ≠ some '_')
    (hflatten : p ++ ps.flatten = q ++ qs.flatten)
    (hmarked : p ++ ps.flatMap ('_' :: ·) = q ++ qs.flatMap ('_' :: ·)) : p :: ps = q :: qs := by
  induction ps generalizing p q qs with
  | nil =>
    obtain rfl := head_eq_of_marked_eq hps hqs hflatten hmarked
    cases qs with
    | nil => rfl
    | cons q' qs => simp at hmarked
  | cons p' ps ih =>
    obtain rfl := head_eq_of_marked_eq hps hqs hflatten hmarked
    cases qs with
    | nil => simp at hmarked
    | cons q' qs =>
      obtain ⟨-, hps⟩ := List.forall_mem_cons.mp hps
      obtain ⟨-, hqs⟩ := List.forall_mem_cons.mp hqs
      rw [List.append_cancel_left_eq, List.flatten_cons, List.flatten_cons] at hflatten
      rw [List.append_cancel_left_eq, List.flatMap_cons, List.flatMap_cons, List.cons_append,
        List.cons_append, List.cons.injEq] at hmarked
      rw [ih hps hqs hflatten hmarked.2]

theorem IsCut.of_mem_tail {cs p : List Char} {ps : List (List Char)} (h : IsCut cs (p :: ps)) :
    ∀ q ∈ ps, q ≠ [] ∧ q.head? ≠ some '_' := by
  obtain ⟨-, hne, happart⟩ := h
  induction ps generalizing p with
  | nil => simp
  | cons q ps ih =>
    obtain ⟨-, hne⟩ := List.forall_mem_cons.mp hne
    obtain ⟨hpq, happart⟩ := List.isChain_cons_cons.mp happart
    exact List.forall_mem_cons.mpr ⟨⟨hne q List.mem_cons_self, hpq.2⟩, ih hne happart⟩

/-- **Which underscores are not of the text itself can be told**: the parts of a text are known from
what they are joined to. -/
theorem IsCut.eq_of_join_eq {cs : List Char} {ps qs : List (List Char)} (hps : IsCut cs ps)
    (hqs : IsCut cs qs) (h : join ['_'] ps = join ['_'] qs) : ps = qs := by
  have hflatten : ps.flatten = qs.flatten := hps.flatten_eq.trans hqs.flatten_eq.symm
  -- only the empty text has no parts
  have hnil : ∀ {p : List Char} {ps : List (List Char)}, IsCut cs (p :: ps) → cs ≠ [] := by
    rintro p ps ⟨rfl, hne, -⟩ hflatten
    exact hne p List.mem_cons_self (List.append_eq_nil_iff.mp hflatten).1
  cases ps with
  | nil =>
    cases qs with
    | nil => rfl
    | cons q qs => exact absurd hps.flatten_eq.symm (hnil hqs)
  | cons p ps =>
    cases qs with
    | nil => exact absurd hqs.flatten_eq.symm (hnil hps)
    | cons q qs =>
      rw [join_cons, join_cons] at h
      exact eq_of_marked_eq hps.of_mem_tail hqs.of_mem_tail hflatten h

/-- A name without capitals is in `snake_case`. -/
theorem snakeCase_of_not_isUpper {name : List Char} (h : ∀ c ∈ name, c.isUpper = false) :
    snakeCase name = name := by
  have hlower : name.map Char.toLower = name.map id :=
    List.map_congr_left fun c hc => toLower_of_isUpper_eq_false (h c hc)
  have happend : snakeAfter none (name ++ []) = name.map Char.toLower ++ snakeAfter _ [] :=
    snakeAfter_of_not_isUpper h []
  rw [List.append_nil, hlower, List.map_id] at happend
  rw [snakeCase, happend]
  exact List.append_nil name

theorem isUpper_of_mem_snakeAfter {name : List Char} (hc : c ∈ snakeAfter before name) :
    c.isUpper = false := by
  induction name generalizing before with
  | nil => cases hc
  | cons d name ih =>
    rcases List.mem_append.mp hc with hc | hc
    · split at hc
      · rcases List.mem_cons.mp hc with rfl | hc
        · rfl
        · rw [List.mem_singleton.mp hc, isUpper_toLower]
      · rw [List.mem_singleton.mp hc, isUpper_toLower]
    · exact ih hc

/-- **Words of a name are kept apart, and nothing else is changed.**  A name in `camelCase` becomes
its words in lower case with single underscores between them.  Of any name the letters are lowered
and the underscores kept.  The further underscores stand between the parts of a cut, and there is
only one such cut: none of them stands at the start, at the end or beside another underscore.  What
has become `snake_case` stays as it is. -/
theorem names_split_into_words (h : IsCamelCase ws) (name : List Char) :
    snakeCase ws.flatten = join ['_'] (ws.map (List.map Char.toLower)) ∧
      (snakeCase name).filter (· ≠ '_') = (name.map Char.toLower).filter (· ≠ '_') ∧
        (∃! ps, IsCut (name.map Char.toLower) ps ∧ snakeCase name = join ['_'] ps) ∧
          snakeCase (snakeCase name) = snakeCase name := by
  obtain ⟨ps, hcut, hjoin⟩ := exists_isCut name
  refine ⟨snakeCase_flatten h, ?_, ⟨ps, ⟨hcut, hjoin⟩, ?_⟩, ?_⟩
  · rw [hjoin, filter_join, hcut.flatten_eq]
  · rintro qs ⟨hqs, hjoin'⟩
    exact hqs.eq_of_join_eq hcut (hjoin'.symm.trans hjoin)
  · exact snakeCase_of_not_isUpper fun c => isUpper_of_mem_snakeAfter

/-- A lower-case word, an acronym in the plural, one that is not, and a capitalized word. -/
def severalWords : List (List Char) :=
  [['v', '2'], ['I', 'D', 's'], ['H', 'T', 'T', 'P'], ['S', 'e', 'n', 't']]

theorem isCamelCase_severalWords : IsCamelCase severalWords := by
  have hhttp : IsAcronym ['H', 'T', 'T', 'P'] := ⟨by decide, by simp⟩
  have hids : IsPluralAcronym ['I', 'D', 's'] := ⟨['I', 'D'], ⟨by decide, by simp⟩, rfl⟩
  have hsent : IsCapitalWord ['S', 'e', 'n', 't'] :=
    ⟨'S', ['e', 'n', 't'], rfl, rfl, 'e', ['n', 't'], rfl, rfl, by simp⟩
  refine ⟨List.cons_ne_nil _ _, ?_, ?_, ?_⟩
  · rintro _ ⟨rfl⟩
    exact .inl ⟨'v', ['2'], rfl, rfl, by simp⟩
  · simp [severalWords, IsHump, hhttp, hids, hsent]
  · have hplural : ¬IsPluralAcronym ['S', 'e', 'n', 't'] := by
      rintro ⟨v, -, h⟩
      exact absurd (congrArg List.getLast? h) (by simp)
    -- only the third word is an acronym that is not in the plural
    simp [severalWords, MayMeet, IsAcronym, hplural]

/-- The words of a name with two acronyms, and a name with underscores of its own. -/
theorem severalWords_split_into_words :
    IsCamelCase severalWords ∧
      snakeCase severalWords.flatten = "v2_ids_http_sent".toList ∧
        (snakeCase "_aB__cD_".toList).filter (· ≠ '_') = "abcd".toList ∧
          snakeCase (snakeCase "_aB__cD_".toList) = snakeCase "_aB__cD_".toList := by
  obtain ⟨hwords, hletters, -, hagain⟩ :=
    names_split_into_words isCamelCase_severalWords "_aB__cD_".toList
  exact ⟨isCamelCase_severalWords, hwords.trans (by decide), hletters.trans (by decide), hagain⟩

end RpcBindings.Text
