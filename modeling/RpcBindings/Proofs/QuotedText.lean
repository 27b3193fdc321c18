import RpcBindings.Source.Constant
import RpcBindings.Text.Literal

/-!
# Reading quoted texts

How Python reads a literal in double quotes: up to the first quote that is not escaped, on one
line, and with all escapes of the language.  The quoting of a text is read back as the text.  It
never holds a line feed, and it holds a carriage return, which ends the line, exactly if the text
does.

## Main definitions

* `readEscape?` — the characters of an escape sequence.
* `readEscapes?` — the value of what stands between two quotes.
* `read?` — the value of a literal on one line.

## Main results

* `readEscapes?_flatMap_escape` — the escapes of a text are read back as the text.
* `quoted_text_read` — **a quoted text is a literal with the text as its value**, unless the text
  has a carriage return; then it is no literal.
-/

namespace RpcBindings.Text.Literal

/-! ### The literals of the language -/

/-- Whether a character ends a line of a program. -/
def endsLine (c : Char) : Bool :=
  c == '\n' || c == '\r'

/-- What stands behind an opening quote up to the closing one, and what follows that.  A backslash
takes the next character with it.  Nothing, if the line ends first. -/
def untilQuote? : List Char → Option (List Char × List Char)
  | [] => none
  | '"' :: cs => some ([], cs)
  | '\\' :: c :: cs =>
    if endsLine c then none
    else (untilQuote? cs).map fun (body, rest) => ('\\' :: c :: body, rest)
  | c :: cs =>
    if endsLine c then none else (untilQuote? cs).map fun (body, rest) => (c :: body, rest)

/-- The characters of the escapes of one letter. -/
def letter? : Char → Option Char
  | '\\' => some '\\'
  | '\'' => some '\''
  | '"' => some '"'
  | 'a' => some '\x07'
  | 'b' => some '\x08'
  | 'f' => some '\x0c'
  | 'n' => some '\n'
  | 'r' => some '\r'
  | 't' => some '\t'
  | 'v' => some '\x0b'
  | _ => none

/-- The character whose code the digits spell, and what follows them. -/
def coded? (base : Nat) (digits rest : List Char) : Option (List Char × List Char) :=
  ((number? base digits).bind Source.Literal.char?).map fun c => ([c], rest)

/-- The character whose code the first `n` characters spell in base sixteen. -/
def readHex? (n : Nat) (cs : List Char) : Option (List Char × List Char) :=
  if n ≤ cs.length then coded? 16 (cs.take n) (cs.drop n) else none

/-- The character whose code at most three digits spell in base eight. -/
def readOctal? (cs : List Char) : Option (List Char × List Char) :=
  let digits := (cs.take 3).takeWhile fun c => (digit? 8 c).isSome
  coded? 8 digits (cs.drop digits.length)

section

-- The names of characters are a table of the Unicode standard, which no quoted text uses.
variable (named : List Char → Option Char)

/-- The character whose name stands between braces. -/
def readName? : List Char → Option (List Char × List Char)
  | '\x7b' :: cs =>
    match cs.dropWhile (· != '\x7d') with
    | [] => none
    | _ :: rest => (named (cs.takeWhile (· != '\x7d'))).map fun c => ([c], rest)
  | _ => none

/-- The characters of the escape sequence behind a backslash, and what follows it.  A backslash in
front of any other character stands for itself. -/
def readEscape? : List Char → Option (List Char × List Char)
  | [] => none
  | 'x' :: cs => readHex? 2 cs
  | 'u' :: cs => readHex? 4 cs
  | 'U' :: cs => readHex? 8 cs
  | 'N' :: cs => readName? named cs
  | c :: cs =>
    if (digit? 8 c).isSome then readOctal? (c :: cs)
    else match letter? c with
      | some d => some ([d], cs)
      | none => some (['\\', c], cs)

/-- The value of what stands between the quotes of a literal.  Each escape takes at least one
character, so that the length bounds their number. -/
def readEscapesFrom? : Nat → List Char → Option (List Char)
  | _, [] => some []
  | 0, _ => none
  | fuel + 1, '\\' :: cs =>
    (readEscape? named cs).bind fun (value, rest) =>
      (readEscapesFrom? fuel rest).map (value ++ ·)
  | fuel + 1, c :: cs => (readEscapesFrom? fuel cs).map (c :: ·)

/-- The value of what stands between the quotes of a literal. -/
def readEscapes? (cs : List Char) : Option (List Char) :=
  readEscapesFrom? named cs.length cs

/-- The value of the literal at the start of a text, if one stands there on one line, and what
follows it.  Three quotes open a literal of another form. -/
def read? : List Char → Option (List Char × List Char)
  | '"' :: '"' :: '"' :: _ => none
  | '"' :: cs => (untilQuote? cs).bind fun (body, rest) =>
    (readEscapes? named body).map fun value => (value, rest)
  | _ => none

end

/-! ### Quoted texts -/

/-- A character is written as itself, or as an escape of one letter. -/
theorem escape_cases (c : Char) :
    (escape c = [c] ∧ c ≠ '\\' ∧ c ≠ '"' ∧ c ≠ '\n') ∨
      ∃ d, escape c = ['\\', d] ∧ letter? d = some c ∧ d ∈ ['\\', '"', 'n', 't'] ∧ c ≠ '\r' := by
  unfold escape
  split
  · exact .inr ⟨'\\', rfl, rfl, by decide, by decide⟩
  · exact .inr ⟨'"', rfl, rfl, by decide, by decide⟩
  · exact .inr ⟨'n', rfl, rfl, by decide, by decide⟩
  · exact .inr ⟨'t', rfl, rfl, by decide, by decide⟩
  · next hbackslash hquote hfeed _ => exact .inl ⟨rfl, hbackslash, hquote, hfeed⟩

/-- A quoted text holds no line feed. -/
theorem lineFeed_notMem_flatMap_escape (s : List Char) : '\n' ∉ s.flatMap escape := by
  rw [List.mem_flatMap]
  rintro ⟨c, -, hc⟩
  obtain ⟨hescape, -, -, hfeed⟩ | ⟨d, hescape, -, hd, -⟩ := escape_cases c
  · rw [hescape, List.mem_singleton] at hc
    exact hfeed hc.symm
  · rw [hescape] at hc
    simp only [List.mem_cons, List.not_mem_nil, or_false] at hc hd
    rcases hc with hc | rfl
    · cases hc
    · simp at hd

/-- A carriage return is written as itself. -/
theorem return_mem_flatMap_escape (s : List Char) : '\r' ∈ s.flatMap escape ↔ '\r' ∈ s := by
  rw [List.mem_flatMap]
  constructor
  · rintro ⟨c, hmem, hc⟩
    obtain ⟨hescape, -⟩ | ⟨d, hescape, -, hd, -⟩ := escape_cases c
    · rw [hescape, List.mem_singleton] at hc
      rwa [hc]
    · rw [hescape] at hc
      simp only [List.mem_cons, List.not_mem_nil, or_false] at hc hd
      rcases hc with hc | rfl
      · cases hc
      · simp at hd
  · intro h
    exact ⟨'\r', h, by decide⟩

theorem untilQuote?_cons {c : Char} (hbackslash : c ≠ '\\') (hquote : c ≠ '"') (cs : List Char) :
    untilQuote? (c :: cs) =
      if endsLine c then none
      else (untilQuote? cs).map fun (body, rest) => (c :: body, rest) := by
  rw [untilQuote?]
  · exact hquote
  · exact fun _ _ h _ => hbackslash h

/-- The closing quote is the first one that is not escaped, if the line does not end before it. -/
theorem untilQuote?_flatMap_escape (s rest : List Char) :
    untilQuote? (s.flatMap escape ++ '"' :: rest) =
      if '\r' ∈ s then none else some (s.flatMap escape, rest) := by
  induction s with
  | nil => simp [untilQuote?]
  | cons c s ih =>
    rw [List.flatMap_cons, List.append_assoc]
    obtain ⟨hescape, hbackslash, hquote, hfeed⟩ | ⟨d, hescape, -, hd, hreturn⟩ := escape_cases c
    · rw [hescape, List.singleton_append, untilQuote?_cons hbackslash hquote, ih]
      by_cases hc : c = '\r'
      · simp [hc, endsLine]
      · have hends : endsLine c = false := by simp [endsLine, hfeed, hc]
        have hmem : '\r' ∈ c :: s ↔ '\r' ∈ s := by simp [Ne.symm hc]
        simp only [hends, hmem, Bool.false_eq_true, if_false]
        split
        · rfl
        · rfl
    · have hends : endsLine d = false := by
        simp only [List.mem_cons, List.not_mem_nil, or_false] at hd
        rcases hd with rfl | rfl | rfl | rfl
        all_goals rfl
      have hmem : '\r' ∈ c :: s ↔ '\r' ∈ s := by simp [Ne.symm hreturn]
      simp only [hescape, List.cons_append, List.nil_append, untilQuote?, hends, ih, hmem,
        Bool.false_eq_true, if_false]
      split
      · rfl
      · rfl

section

variable {named : List Char → Option Char}

theorem readEscape?_of_letter? {c d : Char} (hd : d ∈ ['\\', '"', 'n', 't'])
    (hc : letter? d = some c) (cs : List Char) :
    readEscape? named (d :: cs) = some ([c], cs) := by
  simp only [List.mem_cons, List.not_mem_nil, or_false] at hd
  rcases hd with rfl | rfl | rfl | rfl
  all_goals
    cases hc
    rfl

theorem readEscapesFrom?_cons {c : Char} (hbackslash : c ≠ '\\') (fuel : Nat) (cs : List Char) :
    readEscapesFrom? named (fuel + 1) (c :: cs) =
      (readEscapesFrom? named fuel cs).map (c :: ·) := by
  rw [readEscapesFrom?]
  exact hbackslash

theorem readEscapesFrom?_flatMap_escape {fuel : Nat} {s : List Char}
    (hfuel : (s.flatMap escape).length ≤ fuel) :
    readEscapesFrom? named fuel (s.flatMap escape) = some s := by
  -- each character takes at least one unit of the fuel, an escape leaves one unit over
  induction s generalizing fuel with
  | nil => simp [readEscapesFrom?]
  | cons c s ih =>
    rw [List.flatMap_cons] at hfuel ⊢
    obtain ⟨hescape, hbackslash, -, -⟩ | ⟨d, hescape, hletter, hd, -⟩ := escape_cases c
    all_goals
      rw [hescape] at hfuel ⊢
      cases fuel with
      | zero => simp at hfuel
      | succ fuel => ?_
    · rw [List.singleton_append, readEscapesFrom?_cons hbackslash, ih (by simpa using hfuel)]
      rfl
    · have hrest : (s.flatMap escape).length ≤ fuel := by
        simp only [List.cons_append, List.nil_append, List.length_cons] at hfuel
        omega
      rw [List.cons_append, List.singleton_append, readEscapesFrom?,
        readEscape?_of_letter? hd hletter]
      simp only [Option.bind_some, ih hrest]
      rfl

/-- The escapes of a text are read back as the text. -/
theorem readEscapes?_flatMap_escape (s : List Char) :
    readEscapes? named (s.flatMap escape) = some s :=
  readEscapesFrom?_flatMap_escape (Nat.le_refl _)

/-- A quoted text does not open a literal of another form. -/
theorem read?_quote (s : List Char) :
    read? named (quote s) =
      (untilQuote? (s.flatMap escape ++ ['"'])).bind fun (body, rest) =>
        (readEscapes? named body).map fun value => (value, rest) := by
  rw [quote, List.cons_append]
  cases s with
  | nil => rfl
  | cons c s =>
    rw [List.flatMap_cons]
    obtain ⟨hescape, -, hquote, -⟩ | ⟨d, hescape, -⟩ := escape_cases c
    · rw [hescape, List.singleton_append, List.cons_append, read?]
      exact fun _ h => hquote (List.cons.inj h).1
    · rw [hescape]
      rfl

/-- **A quoted text is a literal with the text as its value**, unless the text has a carriage
return; then it is no literal, since the line ends there.  In any case it holds no line feed, and
what stands between its quotes has the text as its value. -/
theorem quoted_text_read (named : List Char → Option Char) (s : List Char) :
    '\n' ∉ quote s ∧ ('\r' ∈ quote s ↔ '\r' ∈ s) ∧
      readEscapes? named (s.flatMap escape) = some s ∧
      read? named (quote s) = if '\r' ∈ s then none else some (s, []) := by
  have hmem : ∀ c, c ≠ '"' → (c ∈ quote s ↔ c ∈ s.flatMap escape) := by
    intro c hc
    simp [quote, hc]
  refine ⟨?_, ?_, readEscapes?_flatMap_escape s, ?_⟩
  · rw [hmem '\n' (by decide)]
    exact lineFeed_notMem_flatMap_escape s
  · rw [hmem '\r' (by decide)]
    exact return_mem_flatMap_escape s
  · rw [read?_quote, untilQuote?_flatMap_escape]
    split
    · rfl
    · simp only [Option.bind_some, readEscapes?_flatMap_escape]
      rfl

/-- A carriage return ends the line inside of its literal. -/
theorem carriage_return_not_read :
    '\r' ∈ quote ['\r'] ∧ ∀ named, read? named (quote ['\r']) = none :=
  ⟨by decide, fun _ => rfl⟩

end

end RpcBindings.Text.Literal
