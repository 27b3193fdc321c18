import RpcBindings.Proofs.Effect
import RpcBindings.Proofs.Registration

/-!
# The order of chained calls

The calls chained onto a registration can be written in many orders.  Apart from `action`, which
sets the whole type at once, calls of different sorts do not get in each other's way: the help texts
act on the documentation, the conversions on the element type, and the arities on the name and the
layers of the type, whichever of them comes first.

## Main definitions

* `wordingsOf` — what the calls with certain names say, in order.
* `Interleave` — two chains of the same calls, with those of one sort in the same order.
* `Argument.outcome?` — the argument that a chain leaves, if all of its calls are accepted.

## Main results

* `Interleave.after_effects` — the effects of both chains add up to the same argument.
* `Argument.outcome_of_interleave` — **the order of the calls cannot change the argument.**
-/

namespace RpcBindings

open Fallible Source

/-! ### Interleaved chains -/

/-- What the calls with the given names say, in order. -/
def wordingsOf (names : List String) (cs : List Call) : List Wording :=
  (cs.map Call.wording).filter fun w => names.contains w.name

/-- Two chains are made of the same calls, and differ by the way in which the calls of different
sorts are interleaved.  Calls are the same if they say the same; they may stand on different lines.
The order of `required` and of calls that have no effect is free. -/
structure Interleave (cs cs' : List Call) : Prop where
  perm : (cs.map Call.wording).Perm (cs'.map Call.wording)
  help : wordingsOf ["help"] cs = wordingsOf ["help"] cs'
  element : wordingsOf ["type", "choices"] cs = wordingsOf ["type", "choices"] cs'
  nargs : wordingsOf ["nargs"] cs = wordingsOf ["nargs"] cs'

instance (cs cs' : List Call) : Decidable (Interleave cs cs') :=
  decidable_of_iff
    ((cs.map Call.wording).Perm (cs'.map Call.wording) ∧
      wordingsOf ["help"] cs = wordingsOf ["help"] cs' ∧
      wordingsOf ["type", "choices"] cs = wordingsOf ["type", "choices"] cs' ∧
      wordingsOf ["nargs"] cs = wordingsOf ["nargs"] cs')
    ⟨fun ⟨h₁, h₂, h₃, h₄⟩ => ⟨h₁, h₂, h₃, h₄⟩, fun h => ⟨h.perm, h.help, h.element, h.nargs⟩⟩

theorem wordingsOf_append (names : List String) (cs cs' : List Call) :
    wordingsOf names (cs ++ cs') = wordingsOf names cs ++ wordingsOf names cs' := by
  unfold wordingsOf
  rw [List.map_append, List.filter_append]

theorem wordingsOf_eq_nil {names : List String} {cs : List Call} (h : ∀ c ∈ cs, c.name ∉ names) :
    wordingsOf names cs = [] := by
  unfold wordingsOf
  rw [List.filter_eq_nil_iff, List.forall_mem_map]
  intro c hc
  simpa using h c hc

/-- A call of one sort can be moved behind calls of another sort. -/
theorem Interleave.of_element_nargs {t : Call} {ns : List Call}
    (ht : t.name = "type" ∨ t.name = "choices") (hns : ∀ n ∈ ns, n.name = "nargs") :
    Interleave (t :: ns) (ns ++ [t]) := by
  have hsplit : ∀ names, (∀ c ∈ [t], c.name ∉ names) ∨ (∀ n ∈ ns, n.name ∉ names) →
      wordingsOf names (t :: ns) = wordingsOf names (ns ++ [t]) := by
    intro names h
    have hcons : t :: ns = [t] ++ ns := rfl
    rw [hcons, wordingsOf_append, wordingsOf_append]
    rcases h with h | h
    · rw [wordingsOf_eq_nil h, List.append_nil, List.nil_append]
    · rw [wordingsOf_eq_nil h, List.append_nil, List.nil_append]
  refine ⟨?_, hsplit _ (.inr ?_), hsplit _ (.inr ?_), hsplit _ (.inl ?_)⟩
  · exact (List.perm_append_singleton t ns).symm.map _
  · intro n hn
    rw [hns n hn]
    decide
  · intro n hn
    rw [hns n hn]
    decide
  · intro c hc
    rw [List.mem_singleton.mp hc]
    rcases ht with ht | ht
    · rw [ht]
      decide
    · rw [ht]
      decide

/-! ### Effects of interleaved chains -/

namespace Effect

variable {e : Effect} {name : String}

/-! Which calls have a say in which part of the argument. -/

theorem text?_eq_none (h : e.Arises name) (hname : name ∉ ["help"]) : e.text? = none := by
  cases e with
  | document text => exact absurd (List.mem_singleton.mpr h) hname
  | _ => rfl

theorem element?_eq_none (h : e.Arises name) (hname : name ∉ ["type", "choices"]) :
    e.element? = none := by
  cases e with
  | element type =>
    refine absurd ?_ hname
    simpa using h.1
  | _ => rfl

theorem arity?_eq_none (h : e.Arises name) (hname : name ∉ ["nargs"]) : e.arity? = none := by
  cases e with
  | several n => exact absurd (List.mem_singleton.mpr h) hname
  | _ => rfl

theorem default?_eq_none (h : e.Arises name) (haction : name ≠ "action")
    (hname : name ∉ ["nargs"]) : e.default? = none := by
  cases e with
  | switch => exact absurd h haction
  | several n => exact absurd (List.mem_singleton.mpr h) hname
  | _ => rfl

end Effect

section

variable {table : CommandTable} {cs cs' : List Call}

/-- What effects of one sort bring can be read off the calls with the names of that sort. -/
theorem filterMap_effects {β : Type} {f : Effect → Option β} {names : List String}
    (hf : ∀ c ∈ cs, ∀ e, e.Arises c.name → c.name ∉ names → f e = none) :
    (Argument.effects table cs).filterMap f
      = (wordingsOf names cs).filterMap fun w => (effectOf? table w).bind f := by
  unfold Argument.effects wordingsOf
  rw [List.filterMap_filterMap, List.filterMap_filter, List.filterMap_map]
  refine List.filterMap_congr fun c hc => ?_
  rw [Function.comp_apply]
  by_cases h : names.contains c.wording.name = true
  · rw [if_pos h]
  · -- a call of another name has an effect of another sort
    have hname : c.name ∉ names := by simpa using h
    rw [if_neg h]
    cases he : effectOf? table c.wording with
    | none => rfl
    | some e => exact hf c hc e (Argument.arises_of_effectOf? he) hname

/-- Where the calls of one sort have the same order in both chains, their effects bring the same. -/
theorem filterMap_effects_eq {β : Type} {f : Effect → Option β} {names : List String}
    (hno : ∀ c ∈ cs, c.name ≠ "action") (hno' : ∀ c ∈ cs', c.name ≠ "action")
    (hf : ∀ e name, e.Arises name → name ≠ "action" → name ∉ names → f e = none)
    (h : wordingsOf names cs = wordingsOf names cs') :
    (Argument.effects table cs).filterMap f = (Argument.effects table cs').filterMap f := by
  rw [filterMap_effects fun c hc e he => hf e c.name he (hno c hc),
    filterMap_effects fun c hc e he => hf e c.name he (hno' c hc), h]

theorem switch_notMem_effects (hno : ∀ c ∈ cs, c.name ≠ "action") :
    Effect.switch ∉ Argument.effects table cs := by
  intro h
  obtain ⟨c, hc, he⟩ := List.mem_filterMap.mp h
  exact hno c hc (Argument.arises_of_effectOf? he)

namespace Interleave

/-- A name that no call of one chain has, no call of the other chain has. -/
theorem forall_name_ne (h : Interleave cs cs') {name : String} (hne : ∀ c ∈ cs, c.name ≠ name) :
    ∀ c ∈ cs', c.name ≠ name := by
  intro c hc
  have hmem : c.wording ∈ cs.map Call.wording := h.perm.mem_iff.mpr (List.mem_map_of_mem hc)
  obtain ⟨b, hb, hwording⟩ := List.mem_map.mp hmem
  have hname : b.name = c.name := congrArg Wording.name hwording
  rw [← hname]
  exact hne b hb

/-- The calls of one chain are accepted when those of the other chain are. -/
theorem accepted_iff (h : Interleave cs cs') :
    Argument.Accepted table cs ↔ Argument.Accepted table cs' := by
  have hmap : ∀ bs : List Call, Argument.Accepted table bs ↔
      ∀ w ∈ bs.map Call.wording, (effectOf? table w).isSome := by
    intro bs
    rw [List.forall_mem_map]
    rfl
  rw [hmap, hmap]
  constructor
  · intro hcs w hw
    exact hcs w (h.perm.mem_iff.mpr hw)
  · intro hcs w hw
    exact hcs w (h.perm.mem_iff.mp hw)

theorem perm_effects (h : Interleave cs cs') :
    (Argument.effects table cs).Perm (Argument.effects table cs') := by
  have hmap : ∀ bs : List Call, Argument.effects table bs
      = (bs.map Call.wording).filterMap (effectOf? table) := by
    intro bs
    rw [List.filterMap_map]
    rfl
  rw [hmap, hmap]
  exact h.perm.filterMap _

/-- **The effects of both chains add up to the same argument.** -/
theorem after_effects (h : Interleave cs cs') (hno : ∀ c ∈ cs, c.name ≠ "action") (a : Argument) :
    a.after (Argument.effects table cs) = a.after (Argument.effects table cs') := by
  have hno' : ∀ c ∈ cs', c.name ≠ "action" := h.forall_name_ne hno
  -- each part of the argument comes from calls that have the same order in both chains
  have htext : (Argument.effects table cs).filterMap Effect.text?
      = (Argument.effects table cs').filterMap Effect.text? :=
    filterMap_effects_eq hno hno' (fun _ _ he _ => Effect.text?_eq_none he) h.help
  have helement : (Argument.effects table cs).filterMap Effect.element?
      = (Argument.effects table cs').filterMap Effect.element? :=
    filterMap_effects_eq hno hno' (fun _ _ he _ => Effect.element?_eq_none he) h.element
  have harity : (Argument.effects table cs).filterMap Effect.arity?
      = (Argument.effects table cs').filterMap Effect.arity? :=
    filterMap_effects_eq hno hno' (fun _ _ he _ => Effect.arity?_eq_none he) h.nargs
  have hdefault : (Argument.effects table cs).filterMap Effect.default?
      = (Argument.effects table cs').filterMap Effect.default? :=
    filterMap_effects_eq hno hno' (fun _ _ he => Effect.default?_eq_none he) h.nargs
  have hdemands : (Argument.effects table cs).any Effect.demands
      = (Argument.effects table cs').any Effect.demands := h.perm_effects.any_eq
  unfold Argument.after
  rw [harity, htext, helement, hdefault, hdemands]

end Interleave

end

/-! ### The order of the calls -/

namespace Argument

variable {table : CommandTable} {path : String} {a b : Argument} {cs cs' : List Call}

/-- The argument that a chain of calls leaves, if all of them are accepted. -/
def outcome? (table : CommandTable) (path : String) (a : Argument) (cs : List Call) :
    Option Argument :=
  (configureAll table path a cs).toOption.map finalize

theorem outcome?_eq_some_iff :
    outcome? table path a cs = some b ↔
      Accepted table cs ∧ b = ((effects table cs).foldl Effect.apply a).finalize := by
  have h : ∀ x : Except Error Argument, x.toOption.map finalize = some b ↔
      ∃ a', x = .ok a' ∧ b = a'.finalize := by
    intro x
    cases x with
    | error e => simp [Except.toOption]
    | ok a' => simp [Except.toOption, eq_comm]
  rw [outcome?, h]
  simp only [configureAll_eq_ok_iff]
  constructor
  · rintro ⟨a', ⟨haccepted, rfl⟩, rfl⟩
    exact ⟨haccepted, rfl⟩
  · rintro ⟨haccepted, rfl⟩
    exact ⟨_, ⟨haccepted, rfl⟩, rfl⟩

/-- Interleaved chains without a call of `action` leave the same argument, or neither leaves one. -/
theorem outcome_eq_of_interleave (h : Interleave cs cs') (hno : ∀ c ∈ cs, c.name ≠ "action") :
    outcome? table path a cs = outcome? table path a cs' := by
  have hno' : ∀ c ∈ cs', c.name ≠ "action" := h.forall_name_ne hno
  refine Option.ext fun b => ?_
  rw [outcome?_eq_some_iff, outcome?_eq_some_iff, h.accepted_iff,
    Effect.foldl_apply (switch_notMem_effects hno), Effect.foldl_apply (switch_notMem_effects hno'),
    h.after_effects hno]

/-- **The order of the calls cannot change the argument**, as long as `action` is not among them.
In particular a conversion may stand in front of any arities or behind them. -/
theorem outcome_of_interleave (table : CommandTable) (path : String) (a : Argument) :
    (∀ cs cs', Interleave cs cs' → (∀ c ∈ cs, c.name ≠ "action") →
      outcome? table path a cs = outcome? table path a cs') ∧
    ∀ (t : Call) (ns : List Call), (t.name = "type" ∨ t.name = "choices") →
      (∀ n ∈ ns, n.name = "nargs") →
        outcome? table path a (t :: ns) = outcome? table path a (ns ++ [t]) := by
  refine ⟨fun cs cs' h hno => outcome_eq_of_interleave h hno, fun t ns ht hns => ?_⟩
  refine outcome_eq_of_interleave (.of_element_nargs ht hns) fun c hc => ?_
  rcases List.mem_cons.mp hc with rfl | hc
  · rcases ht with ht | ht
    · rw [ht]
      decide
    · rw [ht]
      decide
  · rw [hns c hc]
    decide

/-- Two registrations with the same calls in opposite orders, one of them over several lines. -/
def twoOrders : List String :=
  ["class SendCommand implements JsonRpcLocalCommand \x7b",
   "String getName() \x7b return \"send\"; \x7d",
   "void attachToSubparser(Subparser p) \x7b",
   "p.addArgument(\"--timestamp\").nargs(\"+\").type(long.class).help(\"When\");",
   "p.addArgument(\"--timestamp\")",
   ".help(\"When\")",
   ".type(long.class)",
   ".nargs(\"+\");",
   "\x7d \x7d"]

/-- The chains of the calls that register arguments, in the order of the statements. -/
def chains (m : Attachment) : List (List Call) :=
  (m.body.members.filterMap m.registration.registering?).map Position.chain

theorem declares_twoOrders :
    Command.declares "SendCommand.java" twoOrders (fun m _ =>
      match chains m with
      | [cs, cs'] => decide (cs.map Call.name = ["nargs", "type", "help"] ∧
          cs'.map Call.name = ["help", "type", "nargs"] ∧ Interleave cs cs' ∧
          (outcome? {} "SendCommand.java" (.fresh none "--timestamp".toList) cs).any
            fun a => a.type = .nonEmptyTuple .int)
      | _ => false) = true := by
  exact Command.declares_of_spelled (by repeat constructor) (by decide +kernel)

/-- Both registrations give a sequence of numbers that is not empty. -/
theorem twoOrders_outcome_of_interleave :
    ∃ file m cs cs', File.ofText? "SendCommand.java" (Command.ofLines twoOrders) = some file ∧
      attachment? {} file = some m ∧ chains m = [cs, cs'] ∧
      cs.map Call.name = ["nargs", "type", "help"] ∧
      cs'.map Call.name = ["help", "type", "nargs"] ∧ Interleave cs cs' ∧
      ∃ a, outcome? {} "SendCommand.java" (.fresh none "--timestamp".toList) cs = some a ∧
        outcome? {} "SendCommand.java" (.fresh none "--timestamp".toList) cs' = some a ∧
        a.type = .nonEmptyTuple .int := by
  obtain ⟨file, m, c, hfile, hm, -, h⟩ := Command.exists_of_declares declares_twoOrders
  split at h
  · next cs cs' hchains =>
    obtain ⟨hnames, hnames', hinterleave, hany⟩ := of_decide_eq_true h
    obtain ⟨a, ha, htype⟩ := (Option.any_eq_true _ _).mp hany
    have hno : ∀ b ∈ cs, b.name ≠ "action" := by
      intro b hb
      have hmem : b.name ∈ cs.map Call.name := List.mem_map_of_mem hb
      rw [hnames] at hmem
      intro haction
      rw [haction] at hmem
      exact absurd hmem (by decide)
    have hsame := (outcome_of_interleave {} "SendCommand.java"
      (.fresh none "--timestamp".toList)).1 cs cs' hinterleave hno
    exact ⟨file, m, cs, cs', hfile, hm, hchains, hnames, hnames', hinterleave, a, ha,
      hsame ▸ ha, of_decide_eq_true htype⟩
  · cases h

end Argument

end RpcBindings
