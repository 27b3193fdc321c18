import RpcBindings.Proofs.Effect
import RpcBindings.Proofs.Initialisation

/-!
# Defaults and the types of their fields

The default `False` is a value of a boolean field, and `()` of a field that takes any number of
values.  A call that gives a default also sets the type, but the calls behind it may change the type
and leave the default as it is: another conversion behind `action`, or the arity `+` behind either.
The last default that a chain gives decides, together with what stands behind it.

## Main definitions

* `Argument.DefaultFits` — the default is a value of the type.
* `Effect.lastDefault?` — the last default that effects bring, and the effects behind it.
* `Effect.KeepDefault` — the effects behind the last default leave it a value of the type.

## Main results

* `Effect.defaultFits_after_iff` — what the effects behind a default may be.
* `Effect.defaultFits_foldl_apply_iff` — **a chain leaves a default that fits exactly when the
  effects behind the last default keep it.**
* `Command.default_fits_iff` — the same for all arguments that a file registers.
-/

namespace RpcBindings

open Fallible Source

/-! ### Element types -/

namespace TypeExpr

/-- Of several element types the last one remains. -/
theorem foldl_withElement_eq {t : TypeExpr} {ts : List TypeExpr} (ht : t.isElement = true)
    (hts : ∀ s ∈ ts, s.isElement = true) : ts.foldl withElement t = ts.getLast?.getD t := by
  induction ts generalizing t with
  | nil => rfl
  | cons s ts ih =>
    obtain ⟨hs, hts⟩ := List.forall_mem_cons.mp hts
    -- there is no layer that a new element would have to reach underneath
    have hreplace : t.withElement s = s := by
      cases t with
      | optional t => cases ht
      | tuple t => cases ht
      | nonEmptyTuple t => cases ht
      | _ => rfl
    rw [List.foldl_cons, hreplace, ih hs hts, List.getLast?_cons]
    rfl

end TypeExpr

namespace Argument

/-- The outermost layer comes from the last arity. -/
theorem exists_foldl_layer_eq {ns : List Arity} (hne : ns ≠ [])
    (hns : ∀ n ∈ ns, n = .atLeastOne) (t : TypeExpr) :
    ∃ s, ns.foldl layer t = .nonEmptyTuple s := by
  induction ns generalizing t with
  | nil => exact absurd rfl hne
  | cons n ns ih =>
    obtain ⟨rfl, htail⟩ := List.forall_mem_cons.mp hns
    by_cases hnil : ns = []
    · rw [hnil]
      exact ⟨t, rfl⟩
    · rw [List.foldl_cons]
      exact ih hnil htail _

/-- The default of an argument is a value of its type: `False` of a boolean, `()` of a sequence of
any length, and none of a sequence that is not empty. -/
structure DefaultFits (a : Argument) : Prop where
  bool : a.default = some .unset → a.type = .bool
  tuple : a.default = some .emptyTuple → ∃ t, a.type = .tuple t
  nonEmptyTuple : ∀ t, a.type = .nonEmptyTuple t → a.default = none

variable {a : Argument}

theorem defaultFits_iff_of_unset (h : a.default = some .unset) :
    a.DefaultFits ↔ a.type = .bool := by
  constructor
  · exact fun hfits => hfits.bool h
  · intro htype
    refine ⟨fun _ => htype, fun h' => ?_, fun t ht => ?_⟩
    · rw [h] at h'
      cases h'
    · rw [htype] at ht
      cases ht

theorem defaultFits_iff_of_emptyTuple (h : a.default = some .emptyTuple) :
    a.DefaultFits ↔ ∃ t, a.type = .tuple t := by
  constructor
  · exact fun hfits => hfits.tuple h
  · rintro ⟨t, htype⟩
    refine ⟨fun h' => ?_, fun _ => ⟨t, htype⟩, fun s hs => ?_⟩
    · rw [h] at h'
      cases h'
    · rw [htype] at hs
      cases hs

theorem not_defaultFits_of_nonEmptyTuple {d : Default} {t : TypeExpr} (h : a.default = some d)
    (htype : a.type = .nonEmptyTuple t) : ¬ a.DefaultFits := by
  intro hfits
  have hnone := hfits.nonEmptyTuple t htype
  rw [h] at hnone
  cases hnone

/-- Completing an argument without a default gives it none but `None`. -/
theorem defaultFits_finalize_of_none (h : a.default = none) : a.finalize.DefaultFits := by
  unfold finalize
  split
  · refine ⟨fun h => ?_, fun h => ?_, fun t ht => ?_⟩
    · cases h
    · cases h
    · -- a type with `None` is no sequence
      exfalso
      cases htype : a.type with
      | _ => rw [htype] at ht; cases ht
  · refine ⟨fun hd => ?_, fun hd => ?_, fun _ _ => h⟩
    · rw [h] at hd
      cases hd
    · rw [h] at hd
      cases hd

/-- An argument with a default is complete. -/
theorem finalize_of_default {d : Default} (h : a.default = some d) :
    a.finalize = a := by
  unfold finalize
  rw [if_neg]
  simp [hasDefault, h]

end Argument

/-! ### The last default -/

namespace Effect

open Argument

variable {es rest : List Effect} {a : Argument} {d : Default}

/-- The last default that effects bring, and the effects behind it. -/
def lastDefault? : List Effect → Option (Default × List Effect)
  | [] => none
  | e :: es => (lastDefault? es).or (e.default?.map fun d => (d, es))

theorem default?_eq_none_of_lastDefault? (h : lastDefault? es = none) :
    ∀ e ∈ es, e.default? = none := by
  induction es with
  | nil => simp
  | cons e es ih =>
    obtain ⟨hes, he⟩ := Option.or_eq_none_iff.mp h
    exact List.forall_mem_cons.mpr ⟨Option.map_eq_none_iff.mp he, ih hes⟩

theorem exists_of_lastDefault? (h : lastDefault? es = some (d, rest)) :
    ∃ before e, es = before ++ e :: rest ∧ e.default? = some d ∧
      ∀ b ∈ rest, b.default? = none := by
  induction es with
  | nil => cases h
  | cons e es ih =>
    rcases Option.or_eq_some_iff.mp h with hes | ⟨hes, he⟩
    · obtain ⟨before, b, rfl, hb, hrest⟩ := ih hes
      exact ⟨e :: before, b, rfl, hb, hrest⟩
    · obtain ⟨d', hd', heq⟩ := Option.map_eq_some_iff.mp he
      cases heq
      exact ⟨[], e, rfl, hd', default?_eq_none_of_lastDefault? hes⟩

/-- What stands behind the last default leaves it a value of the type: there is no arity any more,
and behind a switch the last element type is `bool`, if one is given at all. -/
def KeepDefault (es : List Effect) : Prop :=
  ∀ d rest, lastDefault? es = some (d, rest) →
    (∀ e ∈ rest, e.arity? = none) ∧
      (d = .unset → ∀ t ∈ (rest.filterMap element?).getLast?, t = .bool)

/-- The types that an effect with a default sets. -/
theorem type_apply_of_default? {e : Effect} (h : e.default? = some d) (a : Argument) :
    (apply a e).default = some d ∧
      (d = .unset ∧ (apply a e).type = .bool ∨
        d = .emptyTuple ∧ (apply a e).type = .tuple a.type) := by
  cases e with
  | switch =>
    cases h
    exact ⟨rfl, .inl ⟨rfl, rfl⟩⟩
  | several n =>
    cases n with
    | any =>
      cases h
      exact ⟨rfl, .inr ⟨rfl, rfl⟩⟩
    | atLeastOne => cases h
  | _ => cases h

/-- Effects that bring no default keep the one there is. -/
theorem default_after (h : ∀ e ∈ es, e.default? = none) (a : Argument) :
    (a.after es).default = a.default := by
  have hnil : es.filterMap default? = [] := List.filterMap_eq_nil_iff.mpr h
  unfold after
  rw [hnil]
  rfl

theorem switch_notMem (h : ∀ e ∈ es, e.default? = none) : switch ∉ es := by
  intro hmem
  have hswitch := h switch hmem
  cases hswitch

/-- Effects without an arity change nothing about the type but its element. -/
theorem type_after_of_no_arity (h : ∀ e ∈ es, e.arity? = none) (a : Argument) :
    (a.after es).type = (es.filterMap element?).foldl TypeExpr.withElement a.type := by
  have hnil : es.filterMap arity? = [] := List.filterMap_eq_nil_iff.mpr h
  unfold after
  rw [hnil]
  rfl

/-- An arity that brings no default demands a value. -/
theorem exists_type_after_eq (hes : ∀ e ∈ es, e.default? = none)
    (harity : ¬ ∀ e ∈ es, e.arity? = none) (a : Argument) :
    ∃ t, (a.after es).type = .nonEmptyTuple t := by
  have hne : es.filterMap arity? ≠ [] := fun h => harity (List.filterMap_eq_nil_iff.mp h)
  refine exists_foldl_layer_eq hne (fun n hn => ?_) _
  obtain ⟨e, he, hn⟩ := List.mem_filterMap.mp hn
  have hnone := hes e he
  cases e with
  | several m =>
    cases hn
    cases n with
    | any => cases hnone
    | atLeastOne => rfl
  | _ => cases hn

/-- **What the effects behind a default may be**, for a default that fits the type so far. -/
theorem defaultFits_after_iff (hrest : ∀ e ∈ rest, e.default? = none)
    (helements : ∀ t ∈ rest.filterMap element?, t.isElement = true) (hd : a.default = some d)
    (htype : d = .unset ∧ a.type = .bool ∨ d = .emptyTuple ∧ ∃ t, a.type = .tuple t) :
    (a.after rest).DefaultFits ↔ (∀ e ∈ rest, e.arity? = none) ∧
      (d = .unset → ∀ t ∈ (rest.filterMap element?).getLast?, t = .bool) := by
  have hdefault : (a.after rest).default = some d := (default_after hrest a).trans hd
  by_cases harity : ∀ e ∈ rest, e.arity? = none
  · -- without a further arity only the element changes
    rw [and_iff_right harity]
    have hafter := type_after_of_no_arity harity a
    rcases htype with ⟨rfl, htype⟩ | ⟨rfl, t, htype⟩
    · rw [htype, TypeExpr.foldl_withElement_eq rfl helements] at hafter
      rw [defaultFits_iff_of_unset hdefault, hafter]
      cases (rest.filterMap element?).getLast? with
      | none => simp
      | some t => simp
    · have htuple := foldl_withElement_layer .any t (rest.filterMap element?)
      rw [htype] at hafter
      rw [defaultFits_iff_of_emptyTuple hdefault]
      refine iff_of_true ⟨_, hafter.trans htuple⟩ fun h => ?_
      cases h
  · obtain ⟨t, ht⟩ := exists_type_after_eq hrest harity a
    exact iff_of_false (not_defaultFits_of_nonEmptyTuple hdefault ht) fun h => harity h.1

/-- **A chain leaves a default that fits** exactly when the effects behind the last default keep
it. -/
theorem defaultFits_foldl_apply_iff (helements : ∀ t ∈ es.filterMap element?, t.isElement = true)
    (ha : a.default = none) : (es.foldl apply a).finalize.DefaultFits ↔ KeepDefault es := by
  unfold KeepDefault
  cases hlast : lastDefault? es with
  | none =>
    have hes := default?_eq_none_of_lastDefault? hlast
    have hnone : (es.foldl apply a).default = none := by
      rw [foldl_apply (switch_notMem hes), default_after hes, ha]
    refine iff_of_true (defaultFits_finalize_of_none hnone) ?_
    intro d rest h
    cases h
  | some last =>
    obtain ⟨d, rest⟩ := last
    obtain ⟨before, e, rfl, he, hrest⟩ := exists_of_lastDefault? hlast
    obtain ⟨hd, htype⟩ := type_apply_of_default? he (before.foldl apply a)
    have helements' : ∀ t ∈ rest.filterMap element?, t.isElement = true := by
      intro t ht
      refine helements t ?_
      rw [List.filterMap_append, List.filterMap_cons]
      refine List.mem_append_right _ ?_
      split
      · exact ht
      · exact List.mem_cons_of_mem _ ht
    have hafter : (before ++ e :: rest).foldl apply a
        = (apply (before.foldl apply a) e).after rest := by
      rw [List.foldl_append, List.foldl_cons, foldl_apply (switch_notMem hrest)]
    have hfinal : ((apply (before.foldl apply a) e).after rest).finalize
        = (apply (before.foldl apply a) e).after rest :=
      finalize_of_default ((default_after hrest _).trans hd)
    rw [hafter, hfinal, defaultFits_after_iff hrest helements' hd
      (htype.imp_right fun h => ⟨h.1, _, h.2⟩)]
    constructor
    · intro h d' rest' heq
      cases heq
      exact h
    · exact fun h => h d rest rfl

end Effect

/-! ### Registered arguments -/

theorem Registration.Registers.defaultFits_iff {r : Registration} {gs : List Group} {p : Position}
    {a : Argument} (h : r.Registers gs p a) :
    a.DefaultFits ↔ Effect.KeepDefault (Argument.effects r.table p.chain) := by
  obtain ⟨call, -, h⟩ := h
  obtain ⟨group, flag, b, -, -, hb, rfl⟩ := argumentOf_eq_ok_iff.mp h
  obtain ⟨-, rfl⟩ := Argument.configureAll_eq_ok_iff.mp hb
  refine Effect.defaultFits_foldl_apply_iff (fun t ht => ?_) rfl
  -- calls bring no types but element types
  obtain ⟨e, he, ht⟩ := List.mem_filterMap.mp ht
  obtain ⟨c, -, he⟩ := List.mem_filterMap.mp he
  have harises := Argument.arises_of_effectOf? he
  cases e with
  | element type =>
    cases ht
    exact harises.2
  | _ => cases ht

namespace Command

/-- **When the default of a registered argument is a value of its type**: behind the last call that
gives it one stands no further arity, and behind an `action` no conversion, or at last one to
`bool`. -/
theorem default_fits_iff {table : CommandTable} {file : File} {c : Command}
    (hc : ofFile? table file = .ok (some c)) :
    ∃ m, attachment? table file = some m ∧ ∀ a ∈ c.arguments,
      ∃ s ∈ m.body.members, ∃ p, m.registration.registering? s = some p ∧
        m.registration.Registers c.groups p a ∧
          (a.DefaultFits ↔ Effect.KeepDefault (Argument.effects table p.chain)) := by
  obtain ⟨m, hm, hall⟩ := exists_registers_of_mem_arguments hc
  obtain ⟨htable, -⟩ := attachment?_eq_some_iff.mp hm
  refine ⟨m, hm, fun a ha => ?_⟩
  obtain ⟨s, hs, p, hp, hregisters⟩ := hall a ha
  refine ⟨s, hs, p, hp, hregisters, ?_⟩
  rw [← htable]
  exact hregisters.defaultFits_iff

/-- A command with an argument that takes any number of values, and then at least one. -/
def twoArities : List String :=
  ["class SendCommand implements JsonRpcLocalCommand \x7b",
   "String getName() \x7b return \"send\"; \x7d",
   "void attachToSubparser(Subparser p) \x7b",
   "p.addArgument(\"--recipient\").nargs(\"*\").nargs(\"+\");",
   "\x7d \x7d"]

theorem declares_twoArities :
    declares "SendCommand.java" twoArities (fun _ c =>
      c.arguments.any fun a => a.default = some .emptyTuple &&
        a.type = .nonEmptyTuple (.tuple .str)) = true := by
  exact declares_of_spelled (by repeat constructor) (by decide +kernel)

theorem exists_twoArities :
    ∃ file c, File.ofText? "SendCommand.java" (ofLines twoArities) = some file ∧
      ofFile? {} file = .ok (some c) ∧ ∃ a ∈ c.arguments,
        a.default = some .emptyTuple ∧ a.type = .nonEmptyTuple (.tuple .str) := by
  obtain ⟨file, m, c, hfile, -, hc, h⟩ := exists_of_declares declares_twoArities
  simp only [List.any_eq_true, Bool.and_eq_true, decide_eq_true_eq] at h
  exact ⟨file, c, hfile, hc, h⟩

/-- A sequence that is not empty has the empty sequence as its default. -/
theorem emptyTuple_of_nonEmptyTuple :
    ∃ file c, File.ofText? "SendCommand.java" (ofLines twoArities) = some file ∧
      ofFile? {} file = .ok (some c) ∧ ¬ ∀ a ∈ c.arguments, a.DefaultFits := by
  obtain ⟨file, c, hfile, hc, a, ha, hdefault, htype⟩ := exists_twoArities
  refine ⟨file, c, hfile, hc, fun hall => ?_⟩
  exact Argument.not_defaultFits_of_nonEmptyTuple hdefault htype (hall a ha)

theorem twoArities_default_fits_iff :
    ∃ file c m, File.ofText? "SendCommand.java" (ofLines twoArities) = some file ∧
      ofFile? {} file = .ok (some c) ∧ attachment? {} file = some m ∧
      ∃ a ∈ c.arguments, ¬ a.DefaultFits ∧
        ∃ s ∈ m.body.members, ∃ p, m.registration.registering? s = some p ∧
          ¬ Effect.KeepDefault (Argument.effects {} p.chain) := by
  obtain ⟨file, c, hfile, hc, a, ha, hdefault, htype⟩ := exists_twoArities
  have hnot : ¬ a.DefaultFits := Argument.not_defaultFits_of_nonEmptyTuple hdefault htype
  obtain ⟨m, hm, hall⟩ := default_fits_iff hc
  obtain ⟨s, hs, p, hp, -, hiff⟩ := hall a ha
  exact ⟨file, c, m, hfile, hc, hm, a, ha, hnot, s, hs, p, hp, fun h => hnot (hiff.mpr h)⟩

end Command

end RpcBindings
