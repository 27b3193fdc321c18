import RpcBindings.Proofs.Accumulation
import RpcBindings.Proofs.Atoms

/-!
# Reading import statements

A reader for import statements, on one line each or with parentheses around the names, is given the
printed block of accumulated imports.  It finds one statement for each module that was collected,
and in it the names of the module in order; and what stands on a single line is not wider than
allowed.  Line ends between parentheses do not end a statement; apart from this a text is read line
by line, so that the block is read as its parts are.

## Main definitions

* `ImportText.logicalLines` — the lines of a text as words and signs, without those that are blank.
* `ImportText.statement?`, `ImportText.statements?` — a line read as a statement, and a text.
* `Imports.sections` — the modules in the order in which they are printed.
* `Imports.Precedes` — the order of modules: `__future__`, modules outside, modules of the package.

## Main results

* `ImportText.logicalLines_append` — a text is read as its lines are.
* `Imports.statements?_block` — the printed block is read as what was collected.
* `Imports.History.block_read` — **what the block of a history says.**
-/

namespace RpcBindings

open Text

namespace ImportText

/-! ### Logical lines -/

/-- Whether a parenthesis is open after a character. -/
def isOpenAfter (isOpen : Bool) (c : Char) : Bool :=
  if c == '(' then true else if c == ')' then false else isOpen

/-- The text with blanks for the line ends between parentheses. -/
def continued (isOpen : Bool) : List Char → List Char
  | [] => []
  | c :: cs =>
    (if isOpen && c == '\n' then ' ' else c) :: continued (isOpenAfter isOpen c) cs

/-- The words and signs of a text, blanks left out. -/
def tokens (cs : List Char) : List Atom :=
  (atoms cs).filter fun a => a != .sign ' '

/-- The lines of a text that are not blank, as words and signs. -/
def logicalLines (cs : List Char) : List (List Atom) :=
  ((splitOn '\n' (continued false cs)).map tokens).filter fun l => !l.isEmpty

/-! ### Statements -/

/-- The names of a list with commas between them, and behind the last one if `trailing`. -/
def names? (trailing : Bool) : List Atom → Option (List (List Char))
  | [.word w] => some [w]
  | [.word w, .sign ','] => if trailing then some [w] else none
  | .word w :: .sign ',' :: as => (names? trailing as).map (w :: ·)
  | _ => none

/-- The imported names of a statement, with or without parentheses around them. -/
def imported? : List Atom → Option (List (List Char))
  | .sign '(' :: as =>
    if as.getLast? = some (.sign ')') then names? true as.dropLast else none
  | as => names? false as

/-- A line read as an import statement: the module and the names. -/
def statement? : List Atom → Option (String × List String)
  | .word f :: .word m :: .word i :: as =>
    if f = "from".toList ∧ i = "import".toList ∧ Identifier.isDotted m = true then
      (imported? as).bind fun ws =>
        if ws.all Identifier.isDotted then some (String.ofList m, ws.map String.ofList) else none
    else none
  | _ => none

/-- A text read as import statements. -/
def statements? (text : String) : Option (List (String × List String)) :=
  (logicalLines text.toList).mapM statement?

/-! ### Reading a text line by line -/

/-- No parenthesis is open at the end of the text. -/
def IsClosed (cs : List Char) : Prop :=
  cs.foldl isOpenAfter false = false

variable {cs ds : List Char}

theorem continued_append (b : Bool) (cs ds : List Char) :
    continued b (cs ++ ds) = continued b cs ++ continued (cs.foldl isOpenAfter b) ds := by
  induction cs generalizing b with
  | nil => rfl
  | cons c cs ih => rw [List.cons_append, continued, ih]; rfl

/-- A text is read as its lines are. -/
theorem logicalLines_append (hcs : IsClosed cs) (ds : List Char) :
    logicalLines (cs ++ '\n' :: ds) = logicalLines cs ++ logicalLines ds := by
  have hend : continued false ('\n' :: ds) = '\n' :: continued false ds := rfl
  rw [logicalLines, continued_append, hcs, hend, splitOn_append_cons, List.map_append,
    List.filter_append]
  rfl

theorem IsClosed.append (hcs : IsClosed cs) (hds : IsClosed ds) : IsClosed (cs ++ ds) := by
  rw [IsClosed, List.foldl_append, hcs, hds]

theorem isClosed_intercalate {sep : List Char} (hsep : IsGap sep) {parts : List (List Char)}
    (h : ∀ p ∈ parts, IsClosed p) : IsClosed (sep.intercalate parts) := by
  have hgap : IsClosed sep := by
    rcases hsep with rfl | rfl <;> rfl
  induction parts with
  | nil => rfl
  | cons p parts ih =>
    obtain ⟨hp, hparts⟩ := List.forall_mem_cons.mp h
    cases parts with
    | nil => simpa using hp
    | cons q parts =>
      rw [List.intercalate_cons_cons]
      exact (hp.append hgap).append (ih hparts)

theorem logicalLines_intercalate {sep : List Char} (hsep : IsGap sep) {parts : List (List Char)}
    (h : ∀ p ∈ parts, IsClosed p) :
    logicalLines (sep.intercalate parts) = parts.flatMap logicalLines :=
  flatMap_intercalate hsep rfl (p := IsClosed) rfl (fun _ ds hcs => logicalLines_append hcs ds) h

/-- A text without line ends is one line. -/
theorem logicalLines_of_line (hline : '\n' ∉ continued false cs)
    (hne : tokens (continued false cs) ≠ []) :
    logicalLines cs = [tokens (continued false cs)] := by
  rw [logicalLines, splitOn_of_notMem hline, List.map_singleton]
  exact List.filter_cons_of_pos (by simpa using hne)

/-! ### Tokens -/

theorem tokens_append_blank (cs ds : List Char) :
    tokens (cs ++ ' ' :: ds) = tokens cs ++ tokens ds := by
  rw [tokens, atoms_append_sign (by decide), List.filter_append]
  rfl

theorem tokens_append_sign {c : Char} (hc : isWordChar c = false) (hne : c ≠ ' ')
    (cs ds : List Char) : tokens (cs ++ c :: ds) = tokens cs ++ .sign c :: tokens ds := by
  rw [tokens, atoms_append_sign hc, List.filter_append, List.filter_cons_of_pos]
  · rfl
  · simpa using hne

theorem tokens_of_word {w : List Char} (hw : Identifier.isDotted w = true) :
    tokens w = [.word w] := by
  rw [tokens, atoms_of_isDotted hw]
  rfl

/-- The start of a statement. -/
def opening (m : List Char) : List Char :=
  "from".toList ++ ' ' :: (m ++ ' ' :: ("import".toList ++ [' ']))

theorem tokens_opening_append {m : List Char} (hm : Identifier.isDotted m = true)
    (cs : List Char) : tokens (opening m ++ cs) =
      .word "from".toList :: .word m :: .word "import".toList :: tokens cs := by
  have hsplit : opening m ++ cs =
      "from".toList ++ ' ' :: (m ++ ' ' :: ("import".toList ++ ' ' :: cs)) := by
    simp [opening]
  have hfrom : tokens "from".toList = [.word "from".toList] := by decide
  have himport : tokens "import".toList = [.word "import".toList] := by decide
  rw [hsplit, tokens_append_blank, tokens_append_blank, tokens_append_blank, hfrom,
    tokens_of_word hm, himport]
  rfl

/-! ### Lists of names -/

variable {ns : List (List Char)}

/-- The tokens of names with commas between them. -/
def listing : List (List Char) → List Atom
  | [] => []
  | [n] => [.word n]
  | n :: n' :: ns => .word n :: .sign ',' :: listing (n' :: ns)

theorem tokens_intercalate (hns : ∀ n ∈ ns, Identifier.isDotted n = true) :
    tokens ([',', ' '].intercalate ns) = listing ns := by
  induction ns with
  | nil => rfl
  | cons n ns ih =>
    obtain ⟨hn, hns⟩ := List.forall_mem_cons.mp hns
    cases ns with
    | nil => simpa [listing] using tokens_of_word hn
    | cons n' ns =>
      have hrest : n ++ [',', ' '] ++ [',', ' '].intercalate (n' :: ns) =
          n ++ ',' :: ([] ++ ' ' :: [',', ' '].intercalate (n' :: ns)) := by
        simp
      rw [List.intercalate_cons_cons, hrest, tokens_append_sign (by decide) (by decide),
        tokens_append_blank, ih hns, tokens_of_word hn]
      rfl

theorem names?_cons (trailing : Bool) (n : List Char) {as : List Atom} (has : as ≠ []) :
    names? trailing (.word n :: .sign ',' :: as) = (names? trailing as).map (n :: ·) := by
  cases as with
  | nil => exact absurd rfl has
  | cons a as => rfl

theorem names?_listing (trailing : Bool) (hne : ns ≠ []) :
    names? trailing (listing ns) = some ns := by
  fun_induction listing ns with
  | case1 => exact absurd rfl hne
  | case2 n => rfl
  | case3 n n' ns ih =>
    have hlisting : listing (n' :: ns) ≠ [] := by
      cases ns <;> simp [listing]
    rw [names?_cons trailing n hlisting, ih (List.cons_ne_nil n' ns)]
    rfl

/-- The tokens of names with a comma behind each. -/
def trailingListing (ns : List (List Char)) : List Atom :=
  ns.flatMap fun n => [.word n, .sign ',']

theorem names?_trailingListing (hne : ns ≠ []) :
    names? true (trailingListing ns) = some ns := by
  induction ns with
  | nil => exact absurd rfl hne
  | cons n ns ih =>
    cases ns with
    | nil => rfl
    | cons n' ns =>
      have hcons : trailingListing (n :: n' :: ns) =
          .word n :: .sign ',' :: trailingListing (n' :: ns) := rfl
      rw [hcons, names?_cons true n (by simp [trailingListing]), ih (List.cons_ne_nil n' ns)]
      rfl

/-- The line of a name between parentheses. -/
def nameLine (n : List Char) : List Char :=
  "    ".toList ++ (n ++ [','])

/-- The lines of some names, with a character behind each line. -/
def nameLines (lineEnd : Char) (ns : List (List Char)) : List Char :=
  ns.flatMap fun n => nameLine n ++ [lineEnd]

theorem nameLines_cons_append (lineEnd : Char) (n : List Char) (ns : List (List Char)) :
    nameLines lineEnd (n :: ns) ++ cs =
      nameLine n ++ lineEnd :: (nameLines lineEnd ns ++ cs) := by
  simp [nameLines]

theorem tokens_nameLine {n : List Char} (hn : Identifier.isDotted n = true) :
    tokens (nameLine n) = [.word n, .sign ','] := by
  have hblank : ∀ cs, tokens (' ' :: cs) = tokens cs := tokens_append_blank []
  have hsplit : nameLine n = ' ' :: ' ' :: ' ' :: ' ' :: (n ++ ',' :: []) := rfl
  rw [hsplit, hblank, hblank, hblank, hblank, tokens_append_sign (by decide) (by decide),
    tokens_of_word hn]
  rfl

theorem tokens_nameLines (hns : ∀ n ∈ ns, Identifier.isDotted n = true) :
    tokens (nameLines ' ' ns ++ [')']) = trailingListing ns ++ [.sign ')'] := by
  induction ns with
  | nil => decide
  | cons n ns ih =>
    obtain ⟨hn, hns⟩ := List.forall_mem_cons.mp hns
    rw [nameLines_cons_append, tokens_append_blank, tokens_nameLine hn, ih hns]
    rfl

/-! ### Line ends in parentheses -/

/-- The text has neither line ends nor parentheses. -/
def IsPlain (cs : List Char) : Prop :=
  ∀ c ∈ cs, c ≠ '\n' ∧ c ≠ '(' ∧ c ≠ ')'

theorem isPlain_append : IsPlain (cs ++ ds) ↔ IsPlain cs ∧ IsPlain ds :=
  List.forall_mem_append

theorem isPlain_of_isDotted {w : List Char} (h : Identifier.isDotted w = true) : IsPlain w := by
  intro c hc
  have hword := isWordChar_of_isDotted h c hc
  refine ⟨?_, ?_, ?_⟩
  all_goals
    rintro rfl
    exact absurd hword (by decide)

theorem isPlain_opening {m : List Char} (hm : Identifier.isDotted m = true) :
    IsPlain (opening m) := by
  have hsplit : opening m = "from ".toList ++ (m ++ " import ".toList) := rfl
  have hfrom : IsPlain "from ".toList := by simp [IsPlain]
  have himport : IsPlain " import ".toList := by simp [IsPlain]
  rw [hsplit, isPlain_append, isPlain_append]
  exact ⟨hfrom, isPlain_of_isDotted hm, himport⟩

theorem isPlain_intercalate (hns : ∀ n ∈ ns, Identifier.isDotted n = true) :
    IsPlain ([',', ' '].intercalate ns) := by
  have hcomma : IsPlain [',', ' '] := by simp [IsPlain]
  induction ns with
  | nil => simp [IsPlain]
  | cons n ns ih =>
    obtain ⟨hn, hns⟩ := List.forall_mem_cons.mp hns
    cases ns with
    | nil => simpa using isPlain_of_isDotted hn
    | cons n' ns =>
      rw [List.intercalate_cons_cons, isPlain_append, isPlain_append]
      exact ⟨⟨isPlain_of_isDotted hn, hcomma⟩, ih hns⟩

theorem isOpenAfter_of_isPlain (h : IsPlain cs) (b : Bool) : cs.foldl isOpenAfter b = b := by
  induction cs with
  | nil => rfl
  | cons c cs ih =>
    obtain ⟨⟨-, hopen, hclose⟩, hcs⟩ := List.forall_mem_cons.mp h
    rw [List.foldl_cons, isOpenAfter, if_neg (by simpa using hopen), if_neg (by simpa using hclose)]
    exact ih hcs

theorem continued_of_isPlain (h : IsPlain cs) (b : Bool) : continued b cs = cs := by
  induction cs with
  | nil => rfl
  | cons c cs ih =>
    obtain ⟨⟨hend, hopen, hclose⟩, hcs⟩ := List.forall_mem_cons.mp h
    have hc : IsPlain [c] := List.forall_mem_singleton.mpr ⟨hend, hopen, hclose⟩
    have hkept : isOpenAfter b c = b := isOpenAfter_of_isPlain hc b
    rw [continued, hkept, ih hcs, if_neg (by simp [hend])]

theorem isPlain_nameLine {n : List Char} (hn : Identifier.isDotted n = true) :
    IsPlain (nameLine n) := by
  have hblanks : IsPlain "    ".toList := by simp [IsPlain]
  have hcomma : IsPlain [','] := by simp [IsPlain]
  exact isPlain_append.mpr ⟨hblanks, isPlain_append.mpr ⟨isPlain_of_isDotted hn, hcomma⟩⟩

theorem isPlain_nameLines (hns : ∀ n ∈ ns, Identifier.isDotted n = true) :
    IsPlain (nameLines ' ' ns) := by
  induction ns with
  | nil => simp [IsPlain, nameLines]
  | cons n ns ih =>
    obtain ⟨hn, hns⟩ := List.forall_mem_cons.mp hns
    have hblank : IsPlain [' '] := by simp [IsPlain]
    rw [← List.append_nil (nameLines ' ' (n :: ns)), nameLines_cons_append, List.append_nil]
    exact isPlain_append.mpr ⟨isPlain_nameLine hn, isPlain_append.mpr ⟨hblank, ih hns⟩⟩

/-- Between parentheses the lines of names become parts of one line. -/
theorem continued_nameLines (hns : ∀ n ∈ ns, Identifier.isDotted n = true) :
    continued true (nameLines '\n' ns ++ [')']) = nameLines ' ' ns ++ [')'] := by
  induction ns with
  | nil => rfl
  | cons n ns ih =>
    obtain ⟨hn, hns⟩ := List.forall_mem_cons.mp hns
    have hplain := isPlain_nameLine hn
    rw [nameLines_cons_append, nameLines_cons_append, continued_append,
      continued_of_isPlain hplain, isOpenAfter_of_isPlain hplain, ← ih hns]
    rfl

/-! ### The two layouts of a statement -/

/-- The text of a statement on one line. -/
def oneLine (m : List Char) (ns : List (List Char)) : List Char :=
  opening m ++ [',', ' '].intercalate ns

/-- The text of a statement with a line for each name. -/
def nameByName (m : List Char) (ns : List (List Char)) : List Char :=
  opening m ++ '(' :: '\n' :: (nameLines '\n' ns ++ [')'])

section

variable {m : List Char} (hm : Identifier.isDotted m = true)
  (hns : ∀ n ∈ ns, Identifier.isDotted n = true)

include hm hns

theorem isPlain_oneLine : IsPlain (oneLine m ns) :=
  isPlain_append.mpr ⟨isPlain_opening hm, isPlain_intercalate hns⟩

theorem isClosed_oneLine : IsClosed (oneLine m ns) :=
  isOpenAfter_of_isPlain (isPlain_oneLine hm hns) false

omit hm hns in
theorem isClosed_nameByName : IsClosed (nameByName m ns) := by
  have hsplit : nameByName m ns = opening m ++ '(' :: '\n' :: nameLines '\n' ns ++ [')'] := by
    simp [nameByName]
  rw [IsClosed, hsplit, List.foldl_append]
  rfl

theorem tokens_oneLine : tokens (oneLine m ns) =
    .word "from".toList :: .word m :: .word "import".toList :: listing ns := by
  rw [oneLine, tokens_opening_append hm, tokens_intercalate hns]

theorem logicalLines_oneLine : logicalLines (oneLine m ns) =
    [.word "from".toList :: .word m :: .word "import".toList :: listing ns] := by
  have hplain := isPlain_oneLine hm hns
  have hcontinued := continued_of_isPlain hplain false
  rw [logicalLines_of_line, hcontinued, tokens_oneLine hm hns]
  · rw [hcontinued]
    exact fun h => (hplain _ h).1 rfl
  · rw [hcontinued, tokens_oneLine hm hns]
    exact List.cons_ne_nil _ _

theorem logicalLines_nameByName : logicalLines (nameByName m ns) =
    [.word "from".toList :: .word m :: .word "import".toList :: .sign '(' ::
      (trailingListing ns ++ [.sign ')'])] := by
  have hcontinued : continued false (nameByName m ns) =
      opening m ++ '(' :: ' ' :: (nameLines ' ' ns ++ [')']) := by
    have hplain := isPlain_opening hm
    rw [nameByName, continued_append, continued_of_isPlain hplain, isOpenAfter_of_isPlain hplain,
      ← continued_nameLines hns]
    rfl
  have htokens : tokens (continued false (nameByName m ns)) =
      .word "from".toList :: .word m :: .word "import".toList :: .sign '(' ::
        (trailingListing ns ++ [.sign ')']) := by
    have hopen : ∀ cs, tokens ('(' :: ' ' :: cs) = .sign '(' :: tokens cs := fun cs =>
      (tokens_append_sign  (by decide) (by decide) [] (' ' :: cs)).trans
        (congrArg (Atom.sign '(' :: ·) (tokens_append_blank [] cs))
    rw [hcontinued, tokens_opening_append hm, hopen, tokens_nameLines hns]
  rw [logicalLines_of_line, htokens]
  · rw [hcontinued]
    simp only [List.mem_append, List.mem_cons, List.not_mem_nil, or_false, not_or]
    exact ⟨fun h => (isPlain_opening hm _ h).1 rfl, by decide, by decide,
      fun h => (isPlain_nameLines hns _ h).1 rfl, by decide⟩
  · rw [htokens]
    exact List.cons_ne_nil _ _

/-- Both layouts are read as the statement. -/
theorem statement?_listing (hne : ns ≠ []) :
    statement? (.word "from".toList :: .word m :: .word "import".toList :: listing ns) =
      some (String.ofList m, ns.map String.ofList) := by
  have himported : imported? (listing ns) = names? false (listing ns) := by
    fun_cases listing ns <;> rfl
  have hall : ns.all Identifier.isDotted = true := List.all_eq_true.mpr hns
  rw [statement?, if_pos ⟨rfl, rfl, hm⟩, himported, names?_listing false hne, Option.bind_some,
    if_pos hall]

theorem statement?_trailingListing (hne : ns ≠ []) :
    statement? (.word "from".toList :: .word m :: .word "import".toList :: .sign '(' ::
      (trailingListing ns ++ [.sign ')'])) = some (String.ofList m, ns.map String.ofList) := by
  have himported : imported? (.sign '(' :: (trailingListing ns ++ [.sign ')'])) = some ns := by
    rw [imported?, if_pos List.getLast?_concat, List.dropLast_concat, names?_trailingListing hne]
  have hall : ns.all Identifier.isDotted = true := List.all_eq_true.mpr hns
  rw [statement?, if_pos ⟨rfl, rfl, hm⟩, himported, Option.bind_some, if_pos hall]

end

/-! ### Lines that fit -/

/-- Each line of the text that is a statement by itself is not wider than `width`. -/
def Fits (width : Nat) (cs : List Char) : Prop :=
  ∀ l ∈ splitOn '\n' cs, (statement? (tokens l)).isSome = true → l.length ≤ width

section

variable {width : Nat}

theorem fits_append : Fits width (cs ++ '\n' :: ds) ↔ Fits width cs ∧ Fits width ds := by
  rw [Fits, splitOn_append_cons]
  exact List.forall_mem_append

/-- A line that is no statement by itself may be as wide as it likes. -/
theorem fits_of_statement?_eq_none (hline : '\n' ∉ cs) (h : statement? (tokens cs) = none) :
    Fits width cs := by
  rw [Fits, splitOn_of_notMem hline]
  intro l hl hsome
  rw [List.mem_singleton.mp hl, h] at hsome
  cases hsome

theorem fits_nil : Fits width [] :=
  fits_of_statement?_eq_none (by simp) rfl

theorem fits_intercalate {sep : List Char} (hsep : IsGap sep) {parts : List (List Char)}
    (h : ∀ p ∈ parts, Fits width p) : Fits width (sep.intercalate parts) := by
  have hgap : ∀ {cs ds}, Fits width cs → Fits width ds → Fits width (cs ++ (sep ++ ds)) := by
    intro cs ds hcs hds
    rcases hsep with rfl | rfl
    · exact fits_append.mpr ⟨hcs, hds⟩
    · exact fits_append.mpr ⟨hcs, fits_append.mpr ⟨fits_nil, hds⟩⟩
  induction parts with
  | nil => exact fits_nil
  | cons p parts ih =>
    obtain ⟨hp, hparts⟩ := List.forall_mem_cons.mp h
    cases parts with
    | nil => simpa using hp
    | cons q parts =>
      rw [List.intercalate_cons_cons, List.append_assoc]
      exact hgap hp (ih hparts)

variable {m : List Char} (hm : Identifier.isDotted m = true)
  (hns : ∀ n ∈ ns, Identifier.isDotted n = true)

include hm hns

theorem fits_oneLine (h : (oneLine m ns).length ≤ width) : Fits width (oneLine m ns) := by
  rw [Fits, splitOn_of_notMem fun hmem => (isPlain_oneLine hm hns _ hmem).1 rfl]
  intro l hl _
  rwa [List.mem_singleton.mp hl]

/-- No line of a statement with a line for each name is a statement by itself. -/
theorem fits_nameByName : Fits width (nameByName m ns) := by
  have hopening : Fits width (opening m ++ ['(']) := by
    refine fits_of_statement?_eq_none ?_ ?_
    · rw [List.mem_append, not_or]
      exact ⟨fun hmem => (isPlain_opening hm _ hmem).1 rfl, by decide⟩
    · rw [tokens_opening_append hm]
      have hsign : tokens ['('] = [.sign '('] := by decide
      simp [hsign, statement?, imported?]
  have hnames : ∀ ns, (∀ n ∈ ns, Identifier.isDotted n = true) →
      Fits width (nameLines '\n' ns ++ [')']) := by
    intro ns hns
    induction ns with
    | nil => exact fits_of_statement?_eq_none (by decide) (by decide)
    | cons n ns ih =>
      obtain ⟨hn, hns⟩ := List.forall_mem_cons.mp hns
      rw [nameLines_cons_append, fits_append]
      refine ⟨fits_of_statement?_eq_none (fun hmem => (isPlain_nameLine hn _ hmem).1 rfl) ?_,
        ih hns⟩
      rw [tokens_nameLine hn]
      rfl
  have hsplit : nameByName m ns =
      opening m ++ ['('] ++ '\n' :: (nameLines '\n' ns ++ [')']) := by
    simp [nameByName]
  rw [hsplit, fits_append]
  exact ⟨hopening, hnames ns hns⟩

end

end ImportText

namespace Imports

open ImportText

/-! ### The printed block -/

variable {i : Imports} {width : Nat} {p : String × List String}

/-- The module and its names are dotted names, and there are some. -/
structure IsWellNamed (p : String × List String) : Prop where
  module : Identifier.isDotted p.1.toList = true
  names : ∀ n ∈ p.2, Identifier.isDotted n.toList = true
  nonempty : p.2 ≠ []

/-- The text of the statement for a module. -/
def statementChars (width : Nat) (p : String × List String) : List Char :=
  (statement width p.1 p.2).toList

/-- A statement is laid out in one of two ways, and on one line only if it fits. -/
theorem statementChars_cases (width : Nat) (p : String × List String) :
    (statementChars width p = oneLine p.1.toList (p.2.map String.toList) ∧
      (oneLine p.1.toList (p.2.map String.toList)).length ≤ width) ∨
        statementChars width p = nameByName p.1.toList (p.2.map String.toList) := by
  have hline : ("from " ++ p.1 ++ " import " ++ ", ".intercalate p.2).toList =
      oneLine p.1.toList (p.2.map String.toList) := by
    simp [oneLine, opening, String.toList_intercalate]
  rw [statementChars, statement]
  split
  · next hle =>
    rw [← String.length_toList, hline] at hle
    exact .inl ⟨hline, hle⟩
  · refine .inr ?_
    have hjoin : (String.join (p.2.map fun n => "    " ++ n ++ ",\n")).toList =
        nameLines '\n' (p.2.map String.toList) := by
      simp [nameLines, nameLine, List.flatMap_map]
    simp [nameByName, opening, hjoin]

theorem IsWellNamed.names_toList (hp : IsWellNamed p) :
    ∀ n ∈ p.2.map String.toList, Identifier.isDotted n = true := by
  simpa using hp.names

theorem isClosed_statementChars (hp : IsWellNamed p) : IsClosed (statementChars width p) := by
  rcases statementChars_cases width p with ⟨h, -⟩ | h
  · rw [h]
    exact isClosed_oneLine hp.module hp.names_toList
  · rw [h]
    exact isClosed_nameByName

/-- **Each statement is read as the module with its names.** -/
theorem logicalLines_statementChars (width : Nat) (hp : IsWellNamed p) :
    ∃ l, logicalLines (statementChars width p) = [l] ∧ statement? l = some p := by
  have hvalue : (String.ofList p.1.toList, (p.2.map String.toList).map String.ofList) = p := by
    simp [String.ofList_toList]
  have hne : p.2.map String.toList ≠ [] := by simpa using hp.nonempty
  rcases statementChars_cases width p with ⟨h, -⟩ | h
  · rw [h]
    refine ⟨_, logicalLines_oneLine hp.module hp.names_toList, ?_⟩
    rw [statement?_listing hp.module hp.names_toList hne, hvalue]
  · rw [h]
    refine ⟨_, logicalLines_nameByName hp.module hp.names_toList, ?_⟩
    rw [statement?_trailingListing hp.module hp.names_toList hne, hvalue]

theorem fits_statementChars (hp : IsWellNamed p) : Fits width (statementChars width p) := by
  rcases statementChars_cases width p with ⟨h, hle⟩ | h
  · rw [h]
    exact fits_oneLine hp.module hp.names_toList hle
  · rw [h]
    exact fits_nameByName hp.module hp.names_toList

/-- The modules in three sections, in the order in which they are printed. -/
def sections (i : Imports) : List (List (String × List String)) :=
  [i.modules.filter fun q => q.1 == future,
   i.modules.filter fun q => q.1 != future && !isRelative q.1,
   i.modules.filter fun q => q.1 != future && isRelative q.1]

/-- The text of the statements of a section. -/
def sectionChars (width : Nat) (ps : List (String × List String)) : List Char :=
  ['\n'].intercalate (ps.map (statementChars width))

theorem toList_block (width : Nat) (i : Imports) : (i.block width).toList =
    ['\n', '\n'].intercalate
      ((i.sections.map (sectionChars width)).filter fun g => !g.isEmpty) := by
  have hgroup : ∀ b, (i.group width b).toList =
      sectionChars width (i.modules.filter fun q => b q.1) := by
    intro b
    rw [group, String.toList_intercalate, sectionChars, List.map_map]
    rfl
  have hempty : (fun g : String => !g.isEmpty) = (fun g => !g.isEmpty) ∘ String.toList := by
    funext s
    rw [Function.comp_apply, Bool.not_inj_iff, Bool.eq_iff_iff, String.isEmpty_iff,
      List.isEmpty_iff, String.toList_eq_nil_iff]
  rw [block, String.toList_intercalate, hempty, ← List.filter_map]
  simp only [List.map_cons, List.map_nil, hgroup, sections]
  rfl

theorem isWellNamed_of_mem_sections (h : ∀ p ∈ i.modules, IsWellNamed p)
    {ps : List (String × List String)} (hps : ps ∈ i.sections) : ∀ p ∈ ps, IsWellNamed p := by
  simp only [sections, List.mem_cons, List.not_mem_nil, or_false] at hps
  rcases hps with rfl | rfl | rfl
  all_goals exact fun p hp => h p (List.mem_of_mem_filter hp)

theorem fits_block (h : ∀ p ∈ i.modules, IsWellNamed p) : Fits width (i.block width).toList := by
  rw [toList_block]
  refine fits_intercalate (.inr rfl) fun g hg => ?_
  obtain ⟨ps, hps, rfl⟩ := List.mem_map.mp (List.mem_of_mem_filter hg)
  refine fits_intercalate (.inl rfl) fun cs hcs => ?_
  obtain ⟨p, hp, rfl⟩ := List.mem_map.mp hcs
  exact fits_statementChars (isWellNamed_of_mem_sections h hps p hp)

theorem isClosed_sectionChars {ps : List (String × List String)} (h : ∀ p ∈ ps, IsWellNamed p) :
    IsClosed (sectionChars width ps) := by
  refine isClosed_intercalate (.inl rfl) fun cs hcs => ?_
  obtain ⟨p, hp, rfl⟩ := List.mem_map.mp hcs
  exact isClosed_statementChars (h p hp)

theorem logicalLines_sectionChars {ps : List (String × List String)}
    (h : ∀ p ∈ ps, IsWellNamed p) :
    logicalLines (sectionChars width ps) =
      ps.flatMap fun p => logicalLines (statementChars width p) := by
  rw [sectionChars, logicalLines_intercalate (.inl rfl), List.flatMap_map]
  intro cs hcs
  obtain ⟨p, hp, rfl⟩ := List.mem_map.mp hcs
  exact isClosed_statementChars (h p hp)

/-- Empty sections have no lines, so that it does not matter that they are left out. -/
theorem flatMap_logicalLines_filter (gs : List (List Char)) :
    (gs.filter fun g => !g.isEmpty).flatMap logicalLines = gs.flatMap logicalLines := by
  induction gs with
  | nil => rfl
  | cons g gs ih =>
    cases g with
    | nil => exact ih
    | cons c g => exact congrArg (logicalLines (c :: g) ++ ·) ih

theorem logicalLines_block (h : ∀ p ∈ i.modules, IsWellNamed p) :
    logicalLines (i.block width).toList =
      i.sections.flatten.flatMap fun p => logicalLines (statementChars width p) := by
  have hclosed : ∀ g ∈ (i.sections.map (sectionChars width)).filter fun g => !g.isEmpty,
      IsClosed g := by
    intro g hg
    obtain ⟨ps, hps, rfl⟩ := List.mem_map.mp (List.mem_of_mem_filter hg)
    exact isClosed_sectionChars (isWellNamed_of_mem_sections h hps)
  rw [toList_block, logicalLines_intercalate (.inr rfl) hclosed, flatMap_logicalLines_filter,
    List.flatMap_map, List.flatten_eq_flatMap, List.flatMap_assoc]
  exact List.flatMap_congr fun ps hps =>
    logicalLines_sectionChars (isWellNamed_of_mem_sections h hps)

theorem mapM_statement? {ps : List (String × List String)} (h : ∀ p ∈ ps, IsWellNamed p) :
    (ps.flatMap fun p => logicalLines (statementChars width p)).mapM statement? = some ps := by
  induction ps with
  | nil => rfl
  | cons p ps ih =>
    obtain ⟨hp, hps⟩ := List.forall_mem_cons.mp h
    obtain ⟨l, hl, hvalue⟩ := logicalLines_statementChars width hp
    rw [List.flatMap_cons, hl, List.singleton_append, List.mapM_cons, hvalue, ih hps]
    rfl

/-- **The printed block is read as what was collected**, section by section. -/
theorem statements?_block (h : ∀ p ∈ i.modules, IsWellNamed p) :
    statements? (i.block width) = some i.sections.flatten := by
  rw [statements?, logicalLines_block h]
  refine mapM_statement? fun p hp => ?_
  obtain ⟨ps, hps, hp⟩ := List.mem_flatten.mp hp
  exact isWellNamed_of_mem_sections h hps p hp

/-! ### The order of the statements -/

/-- The section of a module. -/
def rank (module : String) : Nat :=
  if module = future then 0 else if isRelative module then 2 else 1

/-- The order of modules: by their sections first. -/
def Precedes (m n : String) : Prop :=
  rank m < rank n ∨ rank m = rank n ∧ m < n

theorem sections_eq (i : Imports) :
    i.sections = [0, 1, 2].map fun r => i.modules.filter fun q => rank q.1 == r := by
  have hrank : ∀ (q : String × List String),
      (q.1 == future) = (rank q.1 == 0) ∧
        (q.1 != future && !isRelative q.1) = (rank q.1 == 1) ∧
          (q.1 != future && isRelative q.1) = (rank q.1 == 2) := by
    intro q
    by_cases hfuture : q.1 = future
    · simp [rank, hfuture]
    · cases hrelative : isRelative q.1 <;> simp [rank, hfuture, hrelative]
  simp only [sections, (hrank _).1, (hrank _).2.1, (hrank _).2.2, List.map_cons, List.map_nil]

theorem mem_flatten_sections : p ∈ i.sections.flatten ↔ p ∈ i.modules := by
  have hrank : rank p.1 = 0 ∨ rank p.1 = 1 ∨ rank p.1 = 2 := by
    unfold rank
    split
    · exact .inl rfl
    · split
      · exact .inr (.inr rfl)
      · exact .inr (.inl rfl)
  rw [sections_eq]
  simp only [List.map_cons, List.map_nil, List.flatten_cons, List.flatten_nil, List.append_nil,
    List.mem_append, List.mem_filter, beq_iff_eq, ← and_or_left, hrank, and_true]

theorem pairwise_flatten_sections (h : i.IsOrdered) :
    i.sections.flatten.Pairwise fun p q => Precedes p.1 q.1 := by
  have hsection : ∀ r, (i.modules.filter fun q => rank q.1 == r).Pairwise
      fun p q => Precedes p.1 q.1 := by
    intro r
    refine (h.modules.sublist List.filter_sublist).imp_of_mem fun hp hq hlt => .inr ⟨?_, hlt⟩
    rw [beq_iff_eq.mp (List.mem_filter.mp hp).2, beq_iff_eq.mp (List.mem_filter.mp hq).2]
  rw [sections_eq, List.pairwise_flatten, List.pairwise_map]
  refine ⟨fun ps hps => ?_, ?_⟩
  · obtain ⟨r, -, rfl⟩ := List.mem_map.mp hps
    exact hsection r
  · have hranks : [0, 1, 2].Pairwise (· < ·) := by decide
    refine hranks.imp fun {r s} hlt p hp q hq => .inl ?_
    rwa [beq_iff_eq.mp (List.mem_filter.mp hp).2, beq_iff_eq.mp (List.mem_filter.mp hq).2]

/-! ### The block of a history -/

namespace History

variable {h : History}

theorem isWellNamed_imports (hnames : ∀ q ∈ h.added, Identifier.isDotted q.1.toList = true ∧
    Identifier.isDotted q.2.toList = true) : ∀ p ∈ h.imports.modules, IsWellNamed p := by
  intro p hp
  have hadded : ∀ n ∈ p.2, (p.1, n) ∈ h.added := fun n hn =>
    mem_namesFrom_imports.mp (h.isOrdered_imports.namesFrom_eq hp ▸ hn)
  have hne := h.isOrdered_imports.nonempty p hp
  obtain ⟨n, hn⟩ := List.exists_mem_of_ne_nil _ hne
  exact ⟨(hnames _ (hadded n hn)).1, fun n hn => (hnames _ (hadded n hn)).2, hne⟩

/-- **What the block of a history says.**  If modules and names are dotted names, the block is read
as statements, which import the names that the history adds and no others: one statement for each
module, the statements in order, with some names each, in order.  A statement on a single line is
not wider than `width`.  And a history that adds the same names, in whatever order and merges, has
the same block. -/
theorem block_read (h : History) (width : Nat)
    (hnames : ∀ q ∈ h.added, Identifier.isDotted q.1.toList = true ∧
      Identifier.isDotted q.2.toList = true) :
    (∃ statements, statements? (h.imports.block width) = some statements ∧
        (∀ module name, (∃ names, (module, names) ∈ statements ∧ name ∈ names) ↔
          (module, name) ∈ h.added) ∧
        statements.Pairwise (fun s t => Precedes s.1 t.1) ∧
        ∀ s ∈ statements, s.2 ≠ [] ∧ s.2.Pairwise (· < ·)) ∧
      Fits width (h.imports.block width).toList ∧
        ∀ g : History, (∀ q, q ∈ g.added ↔ q ∈ h.added) →
          g.imports.block width = h.imports.block width := by
  have hordered := h.isOrdered_imports
  have hwell := isWellNamed_imports hnames
  refine ⟨⟨_, statements?_block hwell, fun module name => ?_, pairwise_flatten_sections hordered,
    fun s hs => ?_⟩, fits_block hwell, fun g hg => ?_⟩
  · rw [← mem_namesFrom_imports]
    constructor
    · rintro ⟨names, hmem, hname⟩
      rwa [hordered.namesFrom_eq (mem_flatten_sections.mp hmem)]
    · intro hname
      obtain ⟨names, hmem, hname⟩ := exists_of_mem_namesFrom hname
      exact ⟨names, mem_flatten_sections.mpr hmem, hname⟩
  · have hs := mem_flatten_sections.mp hs
    exact ⟨hordered.nonempty s hs, hordered.names s hs⟩
  · simp only [block, group, modules_eq_of_added hg]

/-- Two histories with the same names in other merges. -/
def contactFirst : History :=
  .merge (.add (.add (.reference .start "Group") ".types" "Group") ".types" "Contact")
    (.add .start "__future__" "annotations")

def futureFirst : History :=
  .add (.merge (.add .start "__future__" "annotations") (.add .start ".types" "Contact"))
    ".types" "Group"

/-- The block does not tell the two apart. -/
theorem contactFirst_block_read :
    (∃ statements, statements? (contactFirst.imports.block 20) = some statements ∧
      ∃ names, (".types", names) ∈ statements ∧ "Group" ∈ names) ∧
        futureFirst.imports.block 20 = contactFirst.imports.block 20 := by
  obtain ⟨⟨statements, hread, hadded, -⟩, -, hsame⟩ :=
    block_read contactFirst 20 (by decide +kernel)
  refine ⟨⟨statements, hread, (hadded ".types" "Group").mpr (by decide)⟩, hsame futureFirst ?_⟩
  simp [contactFirst, futureFirst, added, or_comm, or_left_comm]

end History

end Imports

end RpcBindings
