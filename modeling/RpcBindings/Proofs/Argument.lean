import RpcBindings.Command.Registration
import RpcBindings.Proofs.Fallible

/-!
# Configuring an argument

What each call chained onto a registration can do to the argument, stated once for all proofs about
arguments, and what goes wrong when it does nothing.

## Main definitions

* `Argument.Configured` — the effects of one chained call.
* `Argument.GivesDefault`, `Argument.DemandsValue` — the calls on which the default depends.
* `Error.IsAt` — an error that reports a shape of a file.

## Main results

* `Argument.configured_of_configure` — **a chained call has no other effects.**
* `Argument.configureAll_induction` — what every chained call keeps, a chain keeps.
* `Argument.hasDefault_of_configureAll` — when a registered argument has a default.
* `Argument.failsOnly_configureAll` — a chain fails with a report on the file.
-/

namespace RpcBindings

open Fallible Source Text

/-! ### Reports -/

/-- The error reports a shape in the file of that path. -/
def Error.IsAt (path : String) (e : Error) : Prop :=
  ∃ (n : Node) (p : Problem), e = .atNode path n p

theorem Error.isAt_atNode {path : String} {n : Node} {p : Problem} : (atNode path n p).IsAt path :=
  ⟨n, p, rfl⟩

namespace Argument

variable {table : CommandTable} {path : String} {a a' : Argument} {c : Call} {cs : List Call}

/-! ### Effects of a chained call -/

/-- The names of the calls with an effect of their own. -/
def configuringCalls : List String :=
  ["help", "action", "choices", "type", "nargs", "required"]

/-- The effects that one chained call can have on an argument. -/
inductive Configured (table : CommandTable) (path : String) (a : Argument) (c : Call) :
    Argument → Prop
  /-- The help text becomes the documentation. -/
  | help {text : List Char} (hname : c.name = "help") (htext : soleConstant path c = .ok text) :
    Configured table path a c { a with doc := some (String.ofList (collapse text)) }
  /-- A switch is off unless it is given. -/
  | action (hname : c.name = "action")
    (htext : c.argumentsText = "Arguments.storeTrue()".toList) :
    Configured table path a c { a with type := .bool, isOptional := false, default := some .unset }
  /-- The values become the element type. -/
  | choices {values : List String} (hname : c.name = "choices")
    (hvalues : choiceLiterals path c.arguments = .ok values) (hne : values ≠ []) :
    Configured table path a c { a with type := a.type.withElement (.literal values) }
  /-- The converter determines the element type. -/
  | type {converter : Converter} (hname : c.name = "type")
    (hconverter : table.converter? c.argumentsText = some converter) :
    Configured table path a c { a with type := a.type.withElement (converted converter) }
  /-- The argument takes several values. -/
  | nargs {text : List Char} {n : Arity} (hname : c.name = "nargs")
    (htext : soleConstant path c = .ok text) (harity : arity? text = some n) :
    Configured table path a c (a.repeated n)
  /-- The argument must be given, or need not be as before. -/
  | required {b : Bool} (hname : c.name = "required")
    (htext : boolean? c.argumentsText = some b) :
    Configured table path a c { a with isOptional := a.isOptional && !b }
  /-- The configuration lets the call pass. -/
  | ignored (hname : c.name ∉ configuringCalls) (hignored : table.ignoredCalls.contains c.name) :
    Configured table path a c a

/-- **A chained call has one of these effects** whenever it is accepted. -/
theorem configured_of_configure (h : configure table path a c = .ok a') :
    Configured table path a c a' := by
  -- one call name after the other is compared, in the order of the constructors
  unfold configure at h
  split at h
  · next hname =>
    obtain ⟨text, htext, rfl⟩ := map_eq_ok_iff.mp h
    exact .help hname htext
  split at h
  · next hname =>
    split at h
    · next htext =>
      cases h
      exact .action hname htext
    · cases h
  split at h
  · next hname =>
    split at h
    · cases h
    · cases h
    · next hne hvalues =>
      cases h
      exact .choices hname hvalues hne
  split at h
  · next hname =>
    split at h
    · next hconverter =>
      cases h
      exact .type hname hconverter
    · cases h
  split at h
  · next hname =>
    split at h
    · cases h
    · next htext =>
      split at h
      · next harity =>
        cases h
        exact .nargs hname htext harity
      · cases h
  split at h
  · next hname =>
    split at h
    · next htext =>
      cases h
      simpa using Configured.required (a := a) hname htext
    · next htext =>
      cases h
      simpa using Configured.required (a := a) hname htext
    · cases h
  split at h
  · next hignored =>
    cases h
    refine .ignored ?_ hignored
    simp only [configuringCalls, List.mem_cons, List.not_mem_nil, or_false, not_or]
    exact ⟨‹_›, ‹_›, ‹_›, ‹_›, ‹_›, ‹_›⟩
  · cases h

/-- What every chained call keeps, a chain of calls keeps. -/
theorem configureAll_induction {p : Argument → Prop} (h : configureAll table path a cs = .ok a')
    (hstep : ∀ b b' c, c ∈ cs → p b → Configured table path b c b' → p b') (ha : p a) : p a' := by
  unfold configureAll at h
  -- the argument is free in the induction, since every call may change it
  induction cs generalizing a with
  | nil =>
    cases h
    exact ha
  | cons c cs ih =>
    obtain ⟨b, hb, h⟩ := foldlM_cons_eq_ok_iff.mp h
    refine ih h (fun b b' c hc => hstep b b' c (List.mem_cons_of_mem _ hc)) ?_
    exact hstep a b c List.mem_cons_self ha (configured_of_configure hb)

theorem Configured.group_eq (h : Configured table path a c a') : a'.group = a.group := by
  cases h with
  | nargs _ _ _ => rename_i n _ _ _; cases n <;> rfl
  | _ => rfl

/-- The calls chained onto a registration do not move the argument to another group. -/
theorem group_configureAll (h : configureAll table path a cs = .ok a') : a'.group = a.group :=
  configureAll_induction (p := fun b => b.group = a.group) h
    (fun _ _ _ _ hb hstep => hstep.group_eq.trans hb) rfl

@[simp] theorem group_finalize (a : Argument) : a.finalize.group = a.group := by
  unfold finalize
  split <;> rfl

/-! ### Defaults along a chain -/

/-- The call gives an argument a default that it keeps: it makes a switch of it, or lets it take any
number of values. -/
def GivesDefault (path : String) (c : Call) : Prop :=
  c.name = "action" ∨ c.name = "nargs" ∧ soleConstant path c = .ok ['*']

/-- The call makes an argument that must be given: at least one value, or explicitly. -/
def DemandsValue (path : String) (c : Call) : Prop :=
  c.name = "nargs" ∧ soleConstant path c = .ok ['+'] ∨
    c.name = "required" ∧ boolean? c.argumentsText = some true

theorem arity?_eq_some_iff {text : List Char} {n : Arity} :
    arity? text = some n ↔ text = ['*'] ∧ n = .any ∨ text = ['+'] ∧ n = .atLeastOne := by
  unfold arity?
  split
  · simp [eq_comm]
  · simp [eq_comm]
  · next hany hone =>
    constructor
    · intro h; cases h
    · rintro (⟨h, -⟩ | ⟨h, -⟩)
      · exact absurd h hany
      · exact absurd h hone

/-- What a chained call does to the default, and to whether the argument may be left out without
one. -/
theorem Configured.default_iff (h : Configured table path a c a') :
    (a'.hasDefault ↔ a.hasDefault ∨ GivesDefault path c) ∧
      (a'.isOptional ↔ a.isOptional ∧ ¬ GivesDefault path c ∧ ¬ DemandsValue path c) := by
  cases h with
  | help hname => simp [hasDefault, GivesDefault, DemandsValue, hname]
  | action hname => simp [hasDefault, GivesDefault, hname]
  | choices hname => simp [hasDefault, GivesDefault, DemandsValue, hname]
  | type hname => simp [hasDefault, GivesDefault, DemandsValue, hname]
  | nargs hname htext harity =>
    -- an arity brings a default only if it allows for no value at all
    rcases arity?_eq_some_iff.mp harity with ⟨rfl, rfl⟩ | ⟨rfl, rfl⟩
    · simp [repeated, hasDefault, GivesDefault, hname, htext]
    · simp [repeated, hasDefault, GivesDefault, DemandsValue, hname, htext]
  | @required b hname htext =>
    cases b with
    | false => simp [hasDefault, GivesDefault, DemandsValue, hname, htext]
    | true => simp [hasDefault, GivesDefault, DemandsValue, hname, htext]
  | ignored hname =>
    -- a call without an effect has none of the names that matter
    have hnot : ∀ name ∈ configuringCalls, c.name ≠ name := fun name hmem h => hname (h ▸ hmem)
    simp [GivesDefault, DemandsValue, hnot "action" (by decide), hnot "nargs" (by decide),
      hnot "required" (by decide)]

/-- An argument has a default after a chain if it had one, or if a call of the chain gives one. -/
theorem default_configureAll (h : configureAll table path a cs = .ok a') :
    (a'.hasDefault ↔ a.hasDefault ∨ ∃ c ∈ cs, GivesDefault path c) ∧
      (a'.isOptional ↔
        a.isOptional ∧ ∀ c ∈ cs, ¬ GivesDefault path c ∧ ¬ DemandsValue path c) := by
  unfold configureAll at h
  induction cs generalizing a with
  | nil =>
    cases h
    simp
  | cons c cs ih =>
    obtain ⟨b, hb, h⟩ := foldlM_cons_eq_ok_iff.mp h
    obtain ⟨hdefault, hoptional⟩ := (configured_of_configure hb).default_iff
    obtain ⟨hdefault', hoptional'⟩ := ih h
    rw [hdefault', hoptional', hdefault, hoptional, List.forall_mem_cons]
    simp only [List.mem_cons, exists_eq_or_imp, or_assoc, and_assoc, and_self]

/-- Completing an argument gives a default to what may be left out. -/
theorem hasDefault_finalize (a : Argument) :
    a.finalize.hasDefault ↔ a.isOptional ∨ a.hasDefault := by
  unfold finalize
  split
  · next h => simp [hasDefault, (Bool.and_eq_true_iff.mp h).1]
  · next h =>
    cases hdefault : a.hasDefault with
    | true => simp
    | false => simpa [hdefault] using h

/-- **When a registered argument has a default**: a call of its chain gives it one, or it is a flag
and no call demands a value. -/
theorem hasDefault_of_configureAll {group : Option String} {flag : List Char}
    (h : configureAll table path (.fresh group flag) cs = .ok a) :
    a.finalize.hasDefault ↔ (∃ c ∈ cs, GivesDefault path c) ∨
      flag.head? = some '-' ∧ ∀ c ∈ cs, ¬ DemandsValue path c := by
  obtain ⟨hdefault, hoptional⟩ := default_configureAll h
  have hfresh : (fresh group flag).hasDefault = false := rfl
  have hflag : (fresh group flag).isOptional = true ↔ flag.head? = some '-' := by simp [fresh]
  rw [hasDefault_finalize, hdefault, hoptional, hfresh, hflag]
  -- a call that gives a default also makes the argument mandatory; without such a call the first
  -- letter of the flag decides, unless a value is demanded
  constructor
  · rintro (⟨hhead, hall⟩ | hgives)
    · exact .inr ⟨hhead, fun c hc => (hall c hc).2⟩
    · exact .inl (by simpa using hgives)
  · intro h
    by_cases hgives : ∃ c ∈ cs, GivesDefault path c
    · exact .inr (.inr hgives)
    · obtain ⟨hhead, hall⟩ := h.resolve_left hgives
      exact .inl ⟨hhead, fun c hc => ⟨fun hc' => hgives ⟨c, hc, hc'⟩, hall c hc⟩⟩

/-! ### Failing chains -/

theorem failsOnly_soleConstant : FailsOnly (Error.IsAt path) (soleConstant path c) := by
  unfold soleConstant
  split
  · split
    · exact failsOnly_ok _
    · exact failsOnly_error Error.isAt_atNode
  · exact failsOnly_error Error.isAt_atNode

theorem failsOnly_choiceLiterals (as : List Node) :
    FailsOnly (Error.IsAt path) (choiceLiterals path as) := by
  induction as with
  | nil => exact failsOnly_ok _
  | cons a as ih =>
    unfold choiceLiterals
    split
    · exact ih.map _
    · exact failsOnly_error Error.isAt_atNode

theorem failsOnly_configure : FailsOnly (Error.IsAt path) (configure table path a c) := by
  -- the same order of names as in `configured_of_configure`
  unfold configure
  split
  · exact failsOnly_soleConstant.map _
  split
  · split
    · exact failsOnly_ok _
    · exact failsOnly_error Error.isAt_atNode
  split
  · split
    · next h => exact failsOnly_error (failsOnly_choiceLiterals _ _ h)
    · exact failsOnly_error Error.isAt_atNode
    · exact failsOnly_ok _
  split
  · split
    · exact failsOnly_ok _
    · exact failsOnly_error Error.isAt_atNode
  split
  · split
    · next h => exact failsOnly_error (failsOnly_soleConstant _ h)
    · split
      · exact failsOnly_ok _
      · exact failsOnly_error Error.isAt_atNode
  split
  · split
    · exact failsOnly_ok _
    · exact failsOnly_ok _
    · exact failsOnly_error Error.isAt_atNode
  split
  · exact failsOnly_ok _
  · exact failsOnly_error Error.isAt_atNode

/-- A chain fails with a report on the file. -/
theorem failsOnly_configureAll : FailsOnly (Error.IsAt path) (configureAll table path a cs) :=
  FailsOnly.foldlM (fun _ _ => failsOnly_configure) _ _

end Argument

end RpcBindings
