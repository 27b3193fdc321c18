import RpcBindings.Proofs.Initialisation

/-!
# Optional arguments

An argument can be left out in three ways of saying it: it is marked as optional, its type has an
arm for `None`, and its default is `None`.  The calls chained onto a registration change the mark,
the default and the type independently of each other, and only the end of the chain brings them
together.

## Main definitions

* `TypeExpr.holdsNone` — `None` is an arm of a type, or of the type of its elements.
* `Argument.Coherent` — mark, type and default of an argument agree.
* `Argument.Pending` — what holds of an argument as long as its chain goes on.

## Main results

* `Argument.Configured.pending` — what every chained call keeps.
* `Argument.Pending.finalize` — the end of a chain makes the argument coherent.
* `Command.registered_arguments_coherent` — **every registered argument is coherent.**
-/

namespace RpcBindings

open Fallible Source

/-! ### Types without `None` -/

namespace TypeExpr

/-- Whether `None` is an arm of the type, or at any depth of the type of its elements. -/
def holdsNone : TypeExpr → Bool
  | optional _ => true
  | tuple t | nonEmptyTuple t => holdsNone t
  | _ => false

theorem holdsNone_withElement {t element : TypeExpr} (ht : t.holdsNone = false)
    (helement : element.holdsNone = false) : (t.withElement element).holdsNone = false := by
  induction t with
  | optional t => cases ht
  | tuple t ih => exact ih ht
  | nonEmptyTuple t ih => exact ih ht
  | _ => exact helement

theorem holdsNone_converted (k : Converter) : (Argument.converted k).holdsNone = false := by
  cases k <;> rfl

/-- A type without `None` gets a new arm. -/
theorem orNone_of_holdsNone {t : TypeExpr} (h : t.holdsNone = false) : t.orNone = optional t := by
  cases t with
  | optional t => cases h
  | _ => rfl

theorem withoutNone_of_holdsNone {t : TypeExpr} (h : t.holdsNone = false) : t.withoutNone = t := by
  cases t with
  | optional t => cases h
  | _ => rfl

end TypeExpr

namespace Argument

variable {table : CommandTable} {path : String} {a a' : Argument} {c : Call} {cs : List Call}

/-! ### Along a chain of calls -/

/-- Mark, type and default of an argument agree on whether it can be left out, and `None` is nowhere
else in the type. -/
structure Coherent (a : Argument) : Prop where
  type_iff : a.isOptional = true ↔ ∃ t, a.type = .optional t
  default_iff : a.isOptional = true ↔ a.default = some .noValue
  holdsNone : a.type.withoutNone.holdsNone = false

/-- What holds of an argument as long as its chain goes on: there is no `None` about it yet, and
whatever gives it a default makes it optional no more. -/
structure Pending (a : Argument) : Prop where
  default_eq_none : a.isOptional = true → a.default = none
  default_ne_noValue : a.default ≠ some .noValue
  holdsNone : a.type.holdsNone = false

theorem pending_fresh (group : Option String) (flag : List Char) : (fresh group flag).Pending where
  default_eq_none := fun _ => rfl
  default_ne_noValue := by
    intro h
    cases h
  holdsNone := rfl

/-- **Every chained call keeps** what holds along a chain. -/
theorem Configured.pending (h : Configured table path a c a') (ha : a.Pending) : a'.Pending := by
  obtain ⟨hnone, hne, htype⟩ := ha
  cases h with
  | help => exact ⟨hnone, hne, htype⟩
  | action =>
    refine ⟨fun h => ?_, fun h => ?_, rfl⟩
    · cases h
    · cases h
  | choices => exact ⟨hnone, hne, TypeExpr.holdsNone_withElement htype rfl⟩
  | @type converter =>
    exact ⟨hnone, hne, TypeExpr.holdsNone_withElement htype
      (TypeExpr.holdsNone_converted converter)⟩
  | @nargs _ n =>
    -- either arity makes the argument mandatory, and the new layer holds what the type held
    cases n with
    | any =>
      refine ⟨fun h => ?_, fun h => ?_, htype⟩
      · cases h
      · cases h
    | atLeastOne =>
      refine ⟨fun h => ?_, hne, htype⟩
      cases h
  | required =>
    refine ⟨fun h => hnone ?_, hne, htype⟩
    exact (Bool.and_eq_true_iff.mp h).1
  | ignored => exact ⟨hnone, hne, htype⟩

theorem pending_configureAll (h : configureAll table path a cs = .ok a') (ha : a.Pending) :
    a'.Pending :=
  configureAll_induction h (fun _ _ _ _ hb hstep => hstep.pending hb) ha

/-! ### At the end of a chain -/

/-- **The end of a chain makes the argument coherent.** -/
theorem Pending.finalize (h : a.Pending) : a.finalize.Coherent := by
  obtain ⟨hnone, hne, htype⟩ := h
  cases hoptional : a.isOptional with
  | true =>
    have hfinal : a.finalize = { a with type := .optional a.type, default := some .noValue } := by
      unfold Argument.finalize
      rw [hoptional, hasDefault, hnone hoptional, ← TypeExpr.orNone_of_holdsNone htype]
      rfl
    rw [hfinal]
    refine ⟨?_, ?_, htype⟩
    · exact ⟨fun _ => ⟨a.type, rfl⟩, fun _ => hoptional⟩
    · exact ⟨fun _ => rfl, fun _ => hoptional⟩
  | false =>
    have hfinal : a.finalize = a := by
      unfold Argument.finalize
      rw [hoptional]
      rfl
    rw [hfinal]
    refine ⟨?_, ?_, ?_⟩
    · rw [hoptional]
      constructor
      · intro h
        cases h
      · rintro ⟨t, ht⟩
        rw [ht] at htype
        cases htype
    · rw [hoptional]
      constructor
      · intro h
        cases h
      · intro h
        exact absurd h hne
    · rwa [TypeExpr.withoutNone_of_holdsNone htype]

end Argument

/-! ### Registered arguments -/

theorem Registration.Registers.coherent {r : Registration} {gs : List Group} {p : Position}
    {a : Argument} (h : r.Registers gs p a) : a.Coherent := by
  obtain ⟨call, -, h⟩ := h
  obtain ⟨group, flag, b, -, -, hb, rfl⟩ := argumentOf_eq_ok_iff.mp h
  exact (Argument.pending_configureAll hb (Argument.pending_fresh group flag)).finalize

namespace Command

/-- **Every registered argument is coherent**, whatever calls are chained onto its registration: it
is optional exactly when its type has an arm for `None`, and exactly when its default is `None`; and
there is no `None` deeper inside its type. -/
theorem registered_arguments_coherent {table : CommandTable} {file : File} {c : Command}
    (hc : ofFile? table file = .ok (some c)) : ∀ a ∈ c.arguments, a.Coherent := by
  obtain ⟨m, -, hall⟩ := exists_registers_of_mem_arguments hc
  intro a ha
  obtain ⟨s, -, p, -, hregisters⟩ := hall a ha
  exact hregisters.coherent

/-- A command whose arguments are registered with calls of all sorts. -/
def manyCalls : List String :=
  ["class SendCommand implements JsonRpcLocalCommand \x7b",
   "String getName() \x7b return \"send\"; \x7d",
   "void attachToSubparser(Subparser p) \x7b",
   "p.addArgument(\"--timestamp\").required(false).type(long.class).help(\"When\");",
   "p.addArgument(\"--story\").action(Arguments.storeTrue()).required(false);",
   "p.addArgument(\"recipient\").choices(\"a\", \"b\").nargs(\"*\");",
   "p.addArgument(\"--mention\").nargs(\"+\").type(int.class);",
   "\x7d \x7d"]

theorem declares_manyCalls :
    declares "SendCommand.java" manyCalls (fun _ c =>
      c.arguments.map Argument.type
        = [.optional .int, .bool, .tuple (.literal ["\"a\"", "\"b\""]), .nonEmptyTuple .int]) =
      true := by
  exact declares_of_spelled (by repeat constructor) (by decide +kernel)

/-- The first argument is the only optional one. -/
theorem manyCalls_registered_arguments_coherent :
    ∃ file c, File.ofText? "SendCommand.java" (ofLines manyCalls) = some file ∧
      ofFile? {} file = .ok (some c) ∧
      c.arguments.map Argument.type
        = [.optional .int, .bool, .tuple (.literal ["\"a\"", "\"b\""]), .nonEmptyTuple .int] ∧
      ∀ a ∈ c.arguments, a.Coherent := by
  obtain ⟨file, m, c, hfile, -, hc, h⟩ := exists_of_declares declares_manyCalls
  exact ⟨file, c, hfile, hc, of_decide_eq_true h, registered_arguments_coherent hc⟩

end Command

end RpcBindings
