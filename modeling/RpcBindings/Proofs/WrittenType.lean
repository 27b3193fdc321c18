import RpcBindings.Config.Check
import RpcBindings.Imports
import RpcBindings.Proofs.Choice
import RpcBindings.Proofs.Pieces
import Mathlib.Data.List.Chain
import Mathlib.Data.List.TakeWhile

/-!
# Written types

The types that a configuration may write form a language of their own: dotted names, of which each
may be followed by types in brackets, joined by bars.  It is given here by its grammar, and the
reader of `RpcBindings.TypeExpr.Names`, which knows no grammar and only counts open brackets, is
shown to accept exactly the texts of this language.

## Main definitions

* `TypeExpr.IsPhrase` — the grammar of written types, with the heads of the names in each phrase.
* `TypeExpr.Spells` — a text consists of tokens, with any blanks around each of them.
* `TypeExpr.Follows` — what may follow a term inside of a number of open brackets.
* `TypeExpr.ListsClasses` — the names that need a class, each once, by first occurrence.

## Main results

* `TypeExpr.lexemesFrom?_of_spells` — a text has only one reading in which names stand apart.
* `TypeExpr.heads?_eq_some_iff` — counting brackets decides the grammar.
* `TypeExpr.written_types_read` — **the texts of written types are read, and no other texts**.
-/

namespace RpcBindings.TypeExpr

open Text

/-! ### The language -/

namespace Lexeme

/-- The text of a token. -/
def text : Lexeme → List Char
  | name head tail => join ['.'] (head :: tail)
  | opening => ['[']
  | closing => [']']
  | comma => [',']
  | bar => ['|']

/-- Whether the token is a name. -/
def isName : Lexeme → Bool
  | name .. => true
  | _ => false

/-- The segments of a name are ASCII names. -/
def IsProper : Lexeme → Prop
  | name head tail => ∀ s ∈ head :: tail, Identifier.isAsciiName s = true
  | _ => True

end Lexeme

/-- The sorts of phrases in a written type. -/
inductive Phrase
  /-- A name, which types in brackets may follow. -/
  | term
  /-- Terms with a bar between each two. -/
  | union
  /-- Unions with a comma between each two. -/
  | list

/-- The grammar of written types: the tokens of a phrase, and the heads of the names in it. -/
inductive IsPhrase : Phrase → List Lexeme → List (List Char) → Prop
  | name {head tail} (h : (Lexeme.name head tail).IsProper) :
    IsPhrase .term [.name head tail] [head]
  | brackets {head tail ts hs} (h : (Lexeme.name head tail).IsProper) (hts : IsPhrase .list ts hs) :
    IsPhrase .term (.name head tail :: .opening :: (ts ++ [.closing])) (head :: hs)
  | term {ts hs} (hts : IsPhrase .term ts hs) : IsPhrase .union ts hs
  | bar {ts us hs ks} (hts : IsPhrase .term ts hs) (hus : IsPhrase .union us ks) :
    IsPhrase .union (ts ++ .bar :: us) (hs ++ ks)
  | union {ts hs} (hts : IsPhrase .union ts hs) : IsPhrase .list ts hs
  | comma {ts us hs ks} (hts : IsPhrase .union ts hs) (hus : IsPhrase .list us ks) :
    IsPhrase .list (ts ++ .comma :: us) (hs ++ ks)

/-- A text consists of tokens, with any blanks around each of them. -/
inductive Spells : List Lexeme → List Char → Prop
  | done {gap} (hgap : ∀ c ∈ gap, isBlank c = true) : Spells [] gap
  | token {gap t ts cs} (hgap : ∀ c ∈ gap, isBlank c = true) (hcs : Spells ts cs) :
    Spells (t :: ts) (gap ++ (t.text ++ cs))

/-- The text is a written type, and these are the heads of the names in it. -/
def Writes (text : String) (heads : List String) : Prop :=
  ∃ ts hs, Spells ts text.toList ∧ IsPhrase .union ts hs ∧ heads = hs.map String.ofList

/-- The names are those of the heads that need a class, each once, by first occurrence. -/
structure ListsClasses (heads names : List String) : Prop where
  mem_iff : ∀ n, n ∈ names ↔ n ∈ heads ∧ n ∉ builtinNames
  pairwise : names.Pairwise fun m n => heads.idxOf m < heads.idxOf n

/-! ### Tokens of a text -/

theorem isAsciiContinue_of_isAsciiStart {c : Char} (h : Identifier.isAsciiStart c = true) :
    Identifier.isAsciiContinue c = true := by
  rw [Identifier.isAsciiStart, Bool.or_eq_true] at h
  rw [Identifier.isAsciiContinue, Char.isAlphanum]
  rcases h with h | h
  · simp [h]
  · simp [h]

/-- What is read of a text with a letter in front is an ASCII name. -/
theorem isAsciiName_takeWhile {c : Char} {cs : List Char} (h : Identifier.isAsciiStart c = true) :
    Identifier.isAsciiName ((c :: cs).takeWhile Identifier.isAsciiContinue) = true := by
  rw [List.takeWhile_cons_of_pos (isAsciiContinue_of_isAsciiStart h), Identifier.isAsciiName, h,
    Bool.true_and, List.all_eq_true]
  exact fun x hx => List.mem_takeWhile_imp hx

/-- The segments that are read stand at the start of the text, and each of them is a name. -/
theorem segments_eq {fuel : Nat} {cs rest : List Char} {more : List (List Char)}
    (h : segments fuel cs = (more, rest)) :
    cs = more.flatMap ('.' :: ·) ++ rest ∧ ∀ s ∈ more, Identifier.isAsciiName s = true := by
  induction fuel generalizing cs more with
  | zero =>
    cases h
    simp
  | succ fuel ih =>
    unfold segments at h
    split at h
    · next c cs =>
      split at h
      · next hstart =>
        rw [List.span_eq_takeWhile_dropWhile] at h
        cases hmore : segments fuel ((c :: cs).dropWhile Identifier.isAsciiContinue) with
        | mk more' rest' =>
          simp only [hmore, Prod.mk.injEq] at h
          obtain ⟨rfl, rfl⟩ := h
          obtain ⟨heq, hnames⟩ := ih hmore
          refine ⟨?_, List.forall_mem_cons.mpr ⟨isAsciiName_takeWhile hstart, hnames⟩⟩
          rw [List.flatMap_cons, List.append_assoc, List.cons_append, ← heq,
            List.takeWhile_append_dropWhile]
      · cases h
        simp
    · cases h
      simp

/-- A token that is read stands at the start of the text, and its segments are names. -/
theorem lexeme?_eq {cs rest : List Char} {t : Lexeme} (h : lexeme? cs = some (t, rest)) :
    cs = t.text ++ rest ∧ t.IsProper := by
  unfold lexeme? at h
  split at h
  · cases h
  · cases h; exact ⟨rfl, trivial⟩
  · cases h; exact ⟨rfl, trivial⟩
  · cases h; exact ⟨rfl, trivial⟩
  · cases h; exact ⟨rfl, trivial⟩
  · next c cs _ _ _ _ =>
    split at h
    · next hstart =>
      rw [List.span_eq_takeWhile_dropWhile] at h
      cases hmore : segments ((c :: cs).dropWhile Identifier.isAsciiContinue).length
          ((c :: cs).dropWhile Identifier.isAsciiContinue) with
      | mk tail rest' =>
        simp only [hmore, Option.some.injEq, Prod.mk.injEq] at h
        obtain ⟨rfl, rfl⟩ := h
        obtain ⟨heq, hnames⟩ := segments_eq hmore
        refine ⟨?_, List.forall_mem_cons.mpr ⟨isAsciiName_takeWhile hstart, hnames⟩⟩
        rw [Lexeme.text, join_cons, List.append_assoc, ← heq, List.takeWhile_append_dropWhile]
    · cases h

/-- The tokens of a text spell it. -/
theorem spells_of_lexemesFrom? {fuel : Nat} {cs : List Char} {ts : List Lexeme}
    (h : lexemesFrom? fuel cs = some ts) : Spells ts cs ∧ ∀ t ∈ ts, t.IsProper := by
  induction fuel generalizing cs ts with
  | zero => cases h
  | succ fuel ih =>
    have hgap : ∀ c ∈ cs.takeWhile isBlank, isBlank c = true :=
      fun c hc => List.mem_takeWhile_imp hc
    have hcs : cs = cs.takeWhile isBlank ++ trimStart cs :=
      (List.takeWhile_append_dropWhile (p := isBlank)).symm
    rw [lexemesFrom?] at h
    split at h
    · next hrest =>
      cases h
      rw [hcs, hrest, List.append_nil]
      exact ⟨.done hgap, by simp⟩
    · obtain ⟨⟨t, after⟩, ht, h⟩ := Option.bind_eq_some_iff.mp h
      obtain ⟨ts, hts, rfl⟩ := Option.map_eq_some_iff.mp h
      obtain ⟨heq, hproper⟩ := lexeme?_eq ht
      obtain ⟨hspells, hall⟩ := ih hts
      rw [hcs, heq]
      exact ⟨.token hgap hspells, List.forall_mem_cons.mpr ⟨hproper, hall⟩⟩

/-! ### The only reading of a text -/

/-- The text does not go on with the name in front of it. -/
def EndsName (cs : List Char) : Prop :=
  ∀ c ∈ cs.head?, Identifier.isAsciiContinue c = false ∧ c ≠ '.'

/-- Of two names one after another the text does not show where the first one ends. -/
def Apart (s t : Lexeme) : Prop :=
  s.isName = true → t.isName = false

/-- A name is read up to its end. -/
theorem takeWhile_isAsciiContinue {s rest : List Char} (hs : Identifier.isAsciiName s = true)
    (hrest : ∀ c ∈ rest.head?, Identifier.isAsciiContinue c = false) :
    (s ++ rest).takeWhile Identifier.isAsciiContinue = s ∧
      (s ++ rest).dropWhile Identifier.isAsciiContinue = rest := by
  have hall : ∀ c ∈ s, Identifier.isAsciiContinue c = true := by
    cases s with
    | nil => simp
    | cons c s =>
      rw [Identifier.isAsciiName, Bool.and_eq_true, List.all_eq_true] at hs
      exact List.forall_mem_cons.mpr ⟨isAsciiContinue_of_isAsciiStart hs.1, hs.2⟩
  rw [List.takeWhile_append_of_pos hall, List.dropWhile_append_of_pos hall]
  cases rest with
  | nil => simp
  | cons c rest =>
    have hc := hrest c rfl
    simp [hc]

/-- A name starts with a letter. -/
theorem exists_cons_of_isAsciiName {s : List Char} (h : Identifier.isAsciiName s = true) :
    ∃ c cs, s = c :: cs ∧ Identifier.isAsciiStart c = true := by
  cases s with
  | nil => cases h
  | cons c cs =>
    rw [Identifier.isAsciiName, Bool.and_eq_true] at h
    exact ⟨c, cs, rfl, h.1⟩

/-- A dot ends the segment in front of it. -/
theorem head?_flatMap_dot {more : List (List Char)} {rest : List Char} (hrest : EndsName rest) :
    ∀ c ∈ (more.flatMap ('.' :: ·) ++ rest).head?, Identifier.isAsciiContinue c = false := by
  intro c hc
  cases more with
  | nil => exact (hrest c hc).1
  | cons s more =>
    cases hc
    decide

theorem length_le_length_flatMap_dot (more : List (List Char)) :
    more.length ≤ (more.flatMap ('.' :: ·)).length := by
  induction more with
  | nil => simp
  | cons s more ih =>
    simp only [List.flatMap_cons, List.length_append, List.length_cons]
    omega

/-- All segments of a name are read. -/
theorem segments_of_names {fuel : Nat} {more : List (List Char)} {rest : List Char}
    (hnames : ∀ s ∈ more, Identifier.isAsciiName s = true) (hfuel : more.length ≤ fuel)
    (hrest : EndsName rest) : segments fuel (more.flatMap ('.' :: ·) ++ rest) = (more, rest) := by
  induction more generalizing fuel with
  | nil =>
    cases fuel with
    | zero => rfl
    | succ fuel =>
      rw [List.flatMap_nil, List.nil_append]
      unfold segments
      split
      · next c cs => exact absurd rfl (hrest '.' rfl).2
      · rfl
  | cons s more ih =>
    obtain ⟨hs, hmore⟩ := List.forall_mem_cons.mp hnames
    obtain ⟨c, cs, hcons, hstart⟩ := exists_cons_of_isAsciiName hs
    cases fuel with
    | zero => simp at hfuel
    | succ fuel =>
      have hfuel : more.length ≤ fuel := by simpa using hfuel
      obtain ⟨htake, hdrop⟩ := takeWhile_isAsciiContinue hs (head?_flatMap_dot hrest)
      rw [List.flatMap_cons, List.cons_append, List.cons_append, List.append_assoc]
      rw [hcons, List.cons_append] at htake hdrop ⊢
      rw [segments, if_pos hstart, List.span_eq_takeWhile_dropWhile, htake, hdrop]
      simp only [ih hmore hfuel]

/-- A token is read up to its end. -/
theorem lexeme?_text_append {t : Lexeme} {rest : List Char} (hproper : t.IsProper)
    (hrest : t.isName = true → EndsName rest) : lexeme? (t.text ++ rest) = some (t, rest) := by
  cases t with
  | name head tail =>
    obtain ⟨hhead, htail⟩ := List.forall_mem_cons.mp hproper
    have hends := hrest rfl
    obtain ⟨htake, hdrop⟩ := takeWhile_isAsciiContinue hhead (head?_flatMap_dot hends)
    have hfuel : tail.length ≤ (tail.flatMap ('.' :: ·) ++ rest).length := by
      rw [List.length_append]
      exact Nat.le_add_right_of_le (length_le_length_flatMap_dot tail)
    obtain ⟨c, cs, rfl, hstart⟩ := exists_cons_of_isAsciiName hhead
    rw [Lexeme.text, join_cons, List.append_assoc, List.cons_append]
    rw [List.cons_append] at htake hdrop
    unfold lexeme?
    -- a letter is none of the four signs
    split
    · next h => cases h
    · next h => cases h; cases hstart
    · next h => cases h; cases hstart
    · next h => cases h; cases hstart
    · next h => cases h; cases hstart
    · next h =>
      cases h
      rw [if_pos hstart, List.span_eq_takeWhile_dropWhile, htake, hdrop]
      simp only [segments_of_names htail hfuel hends]
  | opening => rfl
  | closing => rfl
  | comma => rfl
  | bar => rfl

/-- A blank is no part of a name. -/
theorem isAsciiContinue_of_isBlank {c : Char} (h : isBlank c = true) :
    Identifier.isAsciiContinue c = false ∧ c ≠ '.' := by
  constructor
  · have hunderscore : c ≠ '_' := by
      rintro rfl
      cases h
    rw [Identifier.isAsciiContinue, isAlphanum_of_isBlank h]
    simpa using hunderscore
  · rintro rfl
    cases h

/-- The text of a token starts with no blank. -/
theorem exists_text_eq_cons {t : Lexeme} (h : t.IsProper) :
    ∃ c cs, t.text = c :: cs ∧ isBlank c = false ∧
      (t.isName = false → Identifier.isAsciiContinue c = false ∧ c ≠ '.') := by
  cases t with
  | name head tail =>
    obtain ⟨hhead, -⟩ := List.forall_mem_cons.mp h
    obtain ⟨c, cs, rfl, hstart⟩ := exists_cons_of_isAsciiName hhead
    have hblank : isBlank c = false := by
      cases hc : isBlank c with
      | false => rfl
      | true =>
        have hcontinue := isAsciiContinue_of_isAsciiStart hstart
        rw [(isAsciiContinue_of_isBlank hc).1] at hcontinue
        cases hcontinue
    refine ⟨c, cs ++ tail.flatMap ('.' :: ·), ?_, hblank, ?_⟩
    · rw [Lexeme.text, join_cons, List.cons_append]
    · intro h
      cases h
  | opening => exact ⟨'[', [], rfl, by decide⟩
  | closing => exact ⟨']', [], rfl, by decide⟩
  | comma => exact ⟨',', [], rfl, by decide⟩
  | bar => exact ⟨'|', [], rfl, by decide⟩

/-- What is spelled after a name ends the name. -/
theorem endsName_of_spells {t : Lexeme} {ts : List Lexeme} {cs : List Char} (h : Spells ts cs)
    (hproper : ∀ t ∈ ts, t.IsProper) (hapart : (t :: ts).IsChain Apart) (ht : t.isName = true) :
    EndsName cs := by
  cases h with
  | done hgap => exact fun c hc => isAsciiContinue_of_isBlank (hgap c (List.mem_of_mem_head? hc))
  | @token gap t' ts cs hgap hcs =>
    cases gap with
    | cons b gap =>
      intro c hc
      cases hc
      exact isAsciiContinue_of_isBlank (hgap b List.mem_cons_self)
    | nil =>
      obtain ⟨c', cs', htext, -, hcontinue⟩ := exists_text_eq_cons (hproper t' List.mem_cons_self)
      intro c hc
      rw [List.nil_append, htext] at hc
      cases hc
      exact hcontinue ((List.isChain_cons_cons.mp hapart).1 ht)

/-- **A text has only one reading** in which names stand apart. -/
theorem lexemesFrom?_of_spells {fuel : Nat} {ts : List Lexeme} {cs : List Char} (h : Spells ts cs)
    (hproper : ∀ t ∈ ts, t.IsProper) (hapart : ts.IsChain Apart) (hfuel : cs.length < fuel) :
    lexemesFrom? fuel cs = some ts := by
  induction h generalizing fuel with
  | @done gap hgap =>
    cases fuel with
    | zero => omega
    | succ fuel =>
      have hnil : trimStart gap = [] := List.dropWhile_eq_nil_iff.mpr hgap
      rw [lexemesFrom?, hnil]
  | @token gap t ts cs hgap hcs ih =>
    obtain ⟨ht, hts⟩ := List.forall_mem_cons.mp hproper
    obtain ⟨c, text, htext, hblank, -⟩ := exists_text_eq_cons ht
    -- the blanks end where the token starts, and the token ends where the rest starts
    have hrest : t.isName = true → EndsName cs := endsName_of_spells hcs hts hapart
    have htrim : trimStart (gap ++ (t.text ++ cs)) = t.text ++ cs := by
      rw [trimStart, List.dropWhile_append_of_pos hgap, htext, List.cons_append,
        List.dropWhile_cons_of_neg (by simp [hblank])]
    cases fuel with
    | zero => omega
    | succ fuel =>
      have hlen : cs.length < fuel := by
        simp only [htext, List.length_append, List.length_cons] at hfuel
        omega
      have hlexeme := lexeme?_text_append ht hrest
      rw [htext, List.cons_append] at htrim hlexeme
      rw [htext, List.cons_append, lexemesFrom?, htrim]
      simp only [hlexeme, Option.bind_some, ih hts hapart.tail hlen, Option.map_some]

/-! ### Counting brackets -/

namespace IsPhrase

variable {p : Phrase} {ts us : List Lexeme} {hs : List (List Char)}

theorem isProper (h : IsPhrase p ts hs) : ∀ t ∈ ts, t.IsProper := by
  induction h with
  | name h => simpa using h
  | brackets h _ ih =>
    intro t ht
    simp only [List.mem_cons, List.mem_append, List.not_mem_nil, or_false] at ht
    rcases ht with rfl | rfl | ht | rfl
    · exact h
    · trivial
    · exact ih t ht
    · trivial
  | term _ ih => exact ih
  | union _ ih => exact ih
  | bar _ _ iht ihu =>
    exact List.forall_mem_append.mpr ⟨iht, List.forall_mem_cons.mpr ⟨trivial, ihu⟩⟩
  | comma _ _ iht ihu =>
    exact List.forall_mem_append.mpr ⟨iht, List.forall_mem_cons.mpr ⟨trivial, ihu⟩⟩

/-- Tokens between which some other token stands than a name are apart. -/
theorem isChain_append_cons {t : Lexeme} (ht : t.isName = false) (hts : ts.IsChain Apart)
    (hus : us.IsChain Apart) : (ts ++ t :: us).IsChain Apart := by
  refine List.isChain_append.mpr ⟨hts, ?_, fun _ _ _ hu _ => by cases hu; exact ht⟩
  refine List.isChain_cons.mpr ⟨fun u _ h => ?_, hus⟩
  rw [ht] at h
  cases h

/-- In a phrase names stand apart. -/
theorem isChain_apart (h : IsPhrase p ts hs) : ts.IsChain Apart := by
  induction h with
  | name => exact .singleton _
  | @brackets head tail ts hs h _ ih =>
    have hclosed : (ts ++ [Lexeme.closing]).IsChain Apart := isChain_append_cons rfl ih .nil
    have hname : [Lexeme.name head tail].IsChain Apart := .singleton _
    exact isChain_append_cons rfl hname hclosed
  | term _ ih => exact ih
  | union _ ih => exact ih
  | bar _ _ iht ihu => exact isChain_append_cons rfl iht ihu
  | comma _ _ iht ihu => exact isChain_append_cons rfl iht ihu

end IsPhrase

/-- The tokens go on with further phrases, each after the separating token, or not at all. -/
def GoesOn (separator : Lexeme) (p : Phrase) (ts : List Lexeme) (hs : List (List Char)) : Prop :=
  ts = [] ∧ hs = [] ∨ ∃ us, ts = separator :: us ∧ IsPhrase p us hs

/-- What may follow a term inside of a number of open brackets: the rest of its union, and for each
bracket the rest of its list, the closing token and what may follow the term that it ends. -/
inductive Follows : Nat → List Lexeme → List (List Char) → Prop
  | end {ts hs} (hts : GoesOn .bar .union ts hs) : Follows 0 ts hs
  | closing {depth ts us vs hs ks ls} (hts : GoesOn .bar .union ts hs)
    (hus : GoesOn .comma .list us ks) (hvs : Follows depth vs ls) :
    Follows (depth + 1) (ts ++ (us ++ .closing :: vs)) (hs ++ (ks ++ ls))

/-- What the last token demands of the tokens after it inside of a number of open brackets. -/
def Demands : Phase → Nat → List Lexeme → List (List Char) → Prop
  | .wanting, depth, ts, hs =>
    ∃ us vs ks ls, ts = us ++ vs ∧ hs = ks ++ ls ∧ IsPhrase .term us ks ∧ Follows depth vs ls
  | .afterName, depth, ts, hs =>
    Follows depth ts hs ∨
      ∃ us vs ks ls, ts = .opening :: (us ++ .closing :: vs) ∧ hs = ks ++ ls ∧
        IsPhrase .list us ks ∧ Follows depth vs ls
  | .afterClosing, depth, ts, hs => Follows depth ts hs

section Sound

variable {depth : Nat} {ts us vs : List Lexeme} {hs ks ls : List (List Char)}

theorem isPhrase_union_append (hts : IsPhrase .term ts hs) (hus : GoesOn .bar .union us ks) :
    IsPhrase .union (ts ++ us) (hs ++ ks) := by
  obtain ⟨rfl, rfl⟩ | ⟨us, rfl, hus⟩ := hus
  · rw [List.append_nil, List.append_nil]
    exact .term hts
  · exact .bar hts hus

theorem isPhrase_list_append (hts : IsPhrase .union ts hs) (hus : GoesOn .comma .list us ks) :
    IsPhrase .list (ts ++ us) (hs ++ ks) := by
  obtain ⟨rfl, rfl⟩ | ⟨us, rfl, hus⟩ := hus
  · rw [List.append_nil, List.append_nil]
    exact .union hts
  · exact .comma hts hus

theorem GoesOn.nil {separator : Lexeme} {p : Phrase} : GoesOn separator p [] [] :=
  .inl ⟨rfl, rfl⟩

namespace Follows

/-- A bar and another term may come before what may follow a term. -/
theorem bar (hts : IsPhrase .term ts hs) (hus : Follows depth us ks) :
    Follows depth (.bar :: (ts ++ us)) (hs ++ ks) := by
  cases hus with
  | «end» hus => exact .end (.inr ⟨_, rfl, isPhrase_union_append hts hus⟩)
  | closing hus hvs hws =>
    have hbar : GoesOn .bar .union _ _ := .inr ⟨_, rfl, isPhrase_union_append hts hus⟩
    simpa using Follows.closing hbar hvs hws

/-- What follows a term inside of brackets completes a list, and a closing token comes next. -/
theorem exists_list (hts : IsPhrase .term ts hs) (hus : Follows (depth + 1) us ks) :
    ∃ vs ws ls ms, ts ++ us = vs ++ .closing :: ws ∧ hs ++ ks = ls ++ ms ∧
      IsPhrase .list vs ls ∧ Follows depth ws ms := by
  cases hus with
  | closing hus hvs hws =>
    refine ⟨_, _, _, _, ?_, ?_, isPhrase_list_append (isPhrase_union_append hts hus) hvs, hws⟩
    · simp
    · simp

/-- A comma and another list may come before the token that closes a list. -/
theorem comma (hts : IsPhrase .list ts hs) (hus : Follows depth us ks) :
    Follows (depth + 1) (.comma :: (ts ++ .closing :: us)) (hs ++ ks) :=
  .closing .nil (.inr ⟨ts, rfl, hts⟩) hus

end Follows

theorem Demands.of_follows {phase : Phase} (hphase : phase ≠ .wanting)
    (h : Follows depth ts hs) : Demands phase depth ts hs := by
  cases phase with
  | wanting => exact absurd rfl hphase
  | afterName => exact .inl h
  | afterClosing => exact h

/-- Reading accepts only what is demanded. -/
theorem demands_of_headsFrom? {phase : Phase} (h : headsFrom? phase depth ts = some hs)
    (hproper : ∀ t ∈ ts, t.IsProper) : Demands phase depth ts hs := by
  -- one case for each token that may come next; the others are rejected
  fun_induction headsFrom? phase depth ts generalizing hs with
  | case1 depth head tail ts ih =>
    obtain ⟨hname, hproper⟩ := List.forall_mem_cons.mp hproper
    obtain ⟨hs, hts, rfl⟩ := Option.map_eq_some_iff.mp h
    obtain hts | ⟨us, vs, ks, ls, rfl, rfl, hus, hvs⟩ := ih hts hproper
    · exact ⟨[.name head tail], ts, [head], hs, rfl, rfl, .name hname, hts⟩
    · exact ⟨_, vs, head :: ks, ls, by simp, by simp, .brackets hname hus, hvs⟩
  | case2 => cases h
  | case3 depth ts ih =>
    obtain ⟨us, vs, ks, ls, rfl, rfl, hus, hvs⟩ := ih h (List.forall_mem_cons.mp hproper).2
    obtain ⟨us', vs', ks', ls', hts, hhs, hus', hvs'⟩ := Follows.exists_list hus hvs
    exact .inr ⟨us', vs', ks', ls', by rw [hts], hhs, hus', hvs'⟩
  | case4 phase depth ts hphase ih =>
    obtain ⟨us, vs, ks, ls, rfl, rfl, hus, hvs⟩ := ih h (List.forall_mem_cons.mp hproper).2
    exact .of_follows hphase (.bar hus hvs)
  | case5 phase depth ts hphase ih =>
    obtain ⟨us, vs, ks, ls, rfl, rfl, hus, hvs⟩ := ih h (List.forall_mem_cons.mp hproper).2
    obtain ⟨us', vs', ks', ls', hts, hhs, hus', hvs'⟩ := Follows.exists_list hus hvs
    rw [hts, hhs]
    exact .of_follows hphase (.comma hus' hvs')
  | case6 phase depth ts hphase ih =>
    have hts : Follows depth ts hs := ih h (List.forall_mem_cons.mp hproper).2
    exact .of_follows hphase (.closing .nil .nil hts)
  | case7 phase hphase =>
    cases h
    exact .of_follows hphase (.end .nil)
  | case8 => cases h

end Sound

/-- After a closing token nothing may follow that may not follow a name. -/
theorem headsFrom?_afterName {depth : Nat} {ts : List Lexeme} {hs : List (List Char)}
    (h : headsFrom? .afterClosing depth ts = some hs) :
    headsFrom? .afterName depth ts = some hs := by
  unfold headsFrom? at h ⊢
  split at h
  all_goals simp_all

/-- Reading accepts a phrase, and a list if a bracket is open. -/
theorem headsFrom?_append {p : Phrase} {depth : Nat} {ts us : List Lexeme}
    {hs ks : List (List Char)} (hts : IsPhrase p ts hs) (hdepth : p = .list → 0 < depth)
    (hus : headsFrom? .afterClosing depth us = some ks) :
    headsFrom? .wanting depth (ts ++ us) = some (hs ++ ks) := by
  -- what follows varies: each part of the phrase is followed by the parts behind it
  induction hts generalizing depth us ks with
  | name =>
    rw [List.singleton_append, headsFrom?, headsFrom?_afterName hus]
    rfl
  | @brackets head tail ts hs hname hts ih =>
    have hclosed : headsFrom? .afterClosing (depth + 1) (.closing :: us) = some ks := hus
    -- inside of the brackets one more is open, and the closing token closes it again
    have hlist := ih (fun _ => depth.succ_pos) hclosed
    rw [List.cons_append, List.cons_append, List.append_assoc, List.singleton_append, headsFrom?,
      headsFrom?, hlist]
    rfl
  | term _ ih => exact ih (fun h => by cases h) hus
  | union _ ih => exact ih (fun h => by cases h) hus
  | @bar ts us' hs ks' _ _ iht ihu =>
    have hbar : headsFrom? .afterClosing depth (.bar :: (us' ++ us)) = some (ks' ++ ks) :=
      ihu (fun h => by cases h) hus
    rw [List.append_assoc, List.append_assoc]
    exact iht (fun h => by cases h) hbar
  | @comma ts us' hs ks' _ _ iht ihu =>
    cases depth with
    | zero => exact absurd (hdepth rfl) (Nat.lt_irrefl 0)
    | succ depth =>
      have hcomma : headsFrom? .afterClosing (depth + 1) (.comma :: (us' ++ us)) =
          some (ks' ++ ks) :=
        ihu (fun _ => depth.succ_pos) hus
      rw [List.append_assoc, List.append_assoc]
      exact iht (fun h => by cases h) hcomma

/-- **Counting brackets decides the grammar.** -/
theorem heads?_eq_some_iff {ts : List Lexeme} {hs : List (List Char)}
    (hproper : ∀ t ∈ ts, t.IsProper) : heads? ts = some hs ↔ IsPhrase .union ts hs := by
  constructor
  · intro h
    obtain ⟨us, vs, ks, ls, rfl, rfl, hus, hvs⟩ := demands_of_headsFrom? h hproper
    cases hvs with
    | «end» hvs => exact isPhrase_union_append hus hvs
  · intro h
    have hnil : headsFrom? .afterClosing 0 [] = some [] := rfl
    have hheads := headsFrom?_append h (fun h => by cases h) hnil
    rwa [List.append_nil, List.append_nil] at hheads

/-! ### Names that need a class -/

/-- A property selects the same members before and after repetitions are removed. -/
theorem eraseDups_filter {α : Type} [BEq α] [LawfulBEq α] (p : α → Bool) (xs : List α) :
    (xs.filter p).eraseDups = xs.eraseDups.filter p := by
  -- from the end, since the first of equal members stays
  induction xs using List.reverseRecOn with
  | nil => rfl
  | append_singleton xs x ih =>
    rw [List.filter_append, List.eraseDups_append, List.eraseDups_append, ih, List.filter_append]
    congr 1
    unfold List.removeAll
    rw [List.filter_singleton, List.filter_singleton]
    cases hp : p x with
    | false =>
      cases List.elem x xs with
      | false => simp [List.eraseDups_cons, hp]
      | true => simp
    | true =>
      have helem : (xs.filter p).elem x = xs.elem x := by
        rw [Bool.eq_iff_iff, List.elem_eq_mem, List.elem_eq_mem]
        simp [hp]
      rw [cond_true, List.filter_singleton, helem]
      cases List.elem x xs with
      | false => simp [List.eraseDups_cons, hp]
      | true => simp

/-- Without their repetitions, the names that are not built in list the classes. -/
theorem listsClasses_eraseDups (heads : List String) :
    ListsClasses heads ((heads.filter fun n => !builtinNames.contains n).eraseDups) where
  mem_iff := by
    intro n
    rw [List.mem_eraseDups, List.mem_filter]
    simp
  pairwise := by
    rw [eraseDups_filter]
    exact (pairwise_idxOf_eraseDups heads).filter _

/-- What lists the classes is determined by the heads. -/
theorem ListsClasses.unique {heads names names' : List String} (h : ListsClasses heads names)
    (h' : ListsClasses heads names') : names = names' := by
  have hnodup : ∀ {names}, ListsClasses heads names → names.Nodup := fun h =>
    h.pairwise.imp fun {m n} hlt heq => by rw [heq] at hlt; exact Nat.lt_irrefl _ hlt
  have hperm : names.Perm names' :=
    (List.perm_ext_iff_of_nodup (hnodup h) (hnodup h')).mpr fun n => by rw [h.mem_iff, h'.mem_iff]
  exact hperm.eq_of_pairwise (fun m n _ _ hmn hnm => absurd hmn (Nat.lt_asymm hnm)) h.pairwise
    h'.pairwise

/-! ### Reading a written type -/

/-- A text is read as tokens that form a type just if it is a written type. -/
theorem heads?_lexemes?_eq_some_iff {cs : List Char} {hs : List (List Char)} :
    (lexemes? cs).bind heads? = some hs ↔ ∃ ts, Spells ts cs ∧ IsPhrase .union ts hs := by
  rw [Option.bind_eq_some_iff]
  constructor
  · rintro ⟨ts, hts, hhs⟩
    obtain ⟨hspells, hproper⟩ := spells_of_lexemesFrom? hts
    exact ⟨ts, hspells, (heads?_eq_some_iff hproper).mp hhs⟩
  · rintro ⟨ts, hspells, hphrase⟩
    refine ⟨ts, ?_, (heads?_eq_some_iff hphrase.isProper).mpr hphrase⟩
    exact lexemesFrom?_of_spells hspells hphrase.isProper hphrase.isChain_apart
      cs.length.lt_succ_self

/-- The names of a text are the classes of its reading. -/
theorem namesIn?_eq_some_iff {text : String} {names : List String} :
    namesIn? text = some names ↔ ∃ heads, Writes text heads ∧ ListsClasses heads names := by
  have hnames : namesIn? text = some names ↔ ∃ hs, (lexemes? text.toList).bind heads? = some hs ∧
      ((hs.map String.ofList).filter fun n => !builtinNames.contains n).eraseDups = names := by
    simp [namesIn?, Option.bind_eq_some_iff]
  rw [hnames]
  constructor
  · rintro ⟨hs, hhs, rfl⟩
    obtain ⟨ts, hspells, hphrase⟩ := heads?_lexemes?_eq_some_iff.mp hhs
    exact ⟨_, ⟨ts, hs, hspells, hphrase, rfl⟩, listsClasses_eraseDups _⟩
  · rintro ⟨heads, ⟨ts, hs, hspells, hphrase, rfl⟩, hlists⟩
    have hhs := heads?_lexemes?_eq_some_iff.mpr ⟨ts, hspells, hphrase⟩
    exact ⟨hs, hhs, (listsClasses_eraseDups _).unique hlists⟩

example : namesIn? "dict[str, A.B | None] | C" = some ["A", "C"] := by decide +kernel

/-- **Written types are read exactly**: a text has names just if it is a written type, and they are
the first segments of the names in it that need a class, in order of first occurrence and each once.
What a declaration needs is found for the same texts.  Each other text is a fault of the
configuration, and the failure names the text. -/
theorem written_types_read (text : String) :
    (∀ names, namesIn? text = some names ↔
      ∃ heads, Writes text heads ∧ ListsClasses heads names) ∧
    (∀ i : Imports, (∃ j, i.referenceText text = .ok j) ↔ ∃ heads, Writes text heads) ∧
    (∀ (i : Imports) (e : Error), i.referenceText text = .error e ↔
      e = .config (.notType text) ∧ ¬∃ heads, Writes text heads) ∧
    ∀ fault, outputFault? text = some fault ↔
      fault = .notType text ∧ ¬∃ heads, Writes text heads := by
  have hsome : (∃ names, namesIn? text = some names) ↔ ∃ heads, Writes text heads := by
    constructor
    · rintro ⟨names, hnames⟩
      obtain ⟨heads, hwrites, -⟩ := namesIn?_eq_some_iff.mp hnames
      exact ⟨heads, hwrites⟩
    · rintro ⟨heads, hwrites⟩
      exact ⟨_, namesIn?_eq_some_iff.mpr ⟨heads, hwrites, listsClasses_eraseDups heads⟩⟩
  refine ⟨fun _ => namesIn?_eq_some_iff, fun i => ?_, fun i e => ?_, fun fault => ?_⟩
  · rw [← hsome, Imports.referenceText]
    cases namesIn? text with
    | none => simp
    | some names => simp
  · rw [← hsome, Imports.referenceText]
    cases namesIn? text with
    | none => simp [eq_comm]
    | some names => simp
  · rw [← hsome, outputFault?]
    cases namesIn? text with
    | none => simp [eq_comm]
    | some names => simp

end RpcBindings.TypeExpr
