import RpcBindings.Proofs.Argument

/-!
# What a chain of calls adds up to

Whether a chained call is accepted depends on what it says, and not on the argument it configures;
the same goes for its effect.  A chain of calls is therefore a list of effects, and most parts of
the argument that it leaves depend on the effects of one sort only.

## Main definitions

* `Wording` — what a call says, wherever it stands.
* `Effect`, `Effect.apply` — what an accepted call does to an argument.
* `effectOf?` — the effect of a call, if the call is accepted.
* `Argument.after` — the argument that several effects leave, part by part.

## Main results

* `Argument.toOption_configure` — a call does to an argument what its effect does.
* `Argument.configureAll_eq_ok_iff` — **a chain succeeds when each of its calls is accepted, and
  applies their effects one after another.**
* `Effect.foldl_apply` — **effects that make no switch of the argument act on each part of it
  separately.**
-/

namespace RpcBindings

open Fallible Source Text

/-! ### Calls and their effects -/

/-- What a call says, wherever it stands. -/
structure Wording where
  name : String
  /-- The arguments as they are written. -/
  texts : List (List Char)
  /-- The values of the arguments, as far as these are constant strings. -/
  values : List (Option (List Char))
  deriving DecidableEq

/-- What a call says. -/
def Source.Call.wording (c : Call) : Wording where
  name := c.name
  texts := c.arguments.map Node.text
  values := c.arguments.map Node.constant?

namespace Wording

/-- The arguments with a comma between each two and single spaces. -/
def argumentsText (w : Wording) : List Char :=
  collapse (join [',', ' '] w.texts)

/-- The value of the only argument. -/
def sole? (w : Wording) : Option (List Char) :=
  match w.values with
  | [value] => value
  | _ => none

/-- The values of the arguments as Python literals. -/
def literals? (w : Wording) : Option (List String) :=
  w.values.mapM fun value => value.map fun cs => String.ofList (Literal.quote cs)

end Wording

@[simp] theorem Source.Call.name_wording (c : Call) : c.wording.name = c.name := rfl

@[simp] theorem Source.Call.argumentsText_wording (c : Call) :
    c.wording.argumentsText = c.argumentsText := rfl

/-- What an accepted call does to an argument. -/
inductive Effect
  /-- The text becomes the documentation. -/
  | document (text : String)
  /-- The argument becomes a switch that is off unless it is given. -/
  | switch
  /-- The type becomes the element type. -/
  | element (type : TypeExpr)
  /-- The argument takes several values. -/
  | several (n : Argument.Arity)
  /-- The argument has to be given. -/
  | demand
  /-- Nothing changes. -/
  | nothing

/-- The effect of a call, if the call is accepted. -/
def effectOf? (table : CommandTable) (w : Wording) : Option Effect :=
  if w.name = "help" then w.sole?.map fun text => .document (String.ofList (collapse text))
  else if w.name = "action" then
    if w.argumentsText = "Arguments.storeTrue()".toList then some .switch else none
  else if w.name = "choices" then
    match w.literals? with
    | some (value :: values) => some (.element (.literal (value :: values)))
    | _ => none
  else if w.name = "type" then
    (table.converter? w.argumentsText).map fun k => .element (Argument.converted k)
  else if w.name = "nargs" then (w.sole?.bind Argument.arity?).map .several
  else if w.name = "required" then
    (Argument.boolean? w.argumentsText).map fun b => if b then .demand else .nothing
  else if table.ignoredCalls.contains w.name then some .nothing
  else none

namespace Effect

/-- The argument under one effect. -/
def apply (a : Argument) : Effect → Argument
  | document text => { a with doc := some text }
  | switch => { a with type := .bool, isOptional := false, default := some .unset }
  | element type => { a with type := a.type.withElement type }
  | several n => a.repeated n
  | demand => { a with isOptional := false }
  | nothing => a

/-- The documentation that an effect brings. -/
def text? : Effect → Option String
  | document text => some text
  | _ => none

/-- The element type that an effect brings. -/
def element? : Effect → Option TypeExpr
  | element type => some type
  | _ => none

/-- The arity that an effect brings. -/
def arity? : Effect → Option Argument.Arity
  | several n => some n
  | _ => none

/-- The default that an effect brings. -/
def default? : Effect → Option Default
  | switch => some .unset
  | several .any => some .emptyTuple
  | _ => none

/-- Whether the argument is optional no more. -/
def demands : Effect → Bool
  | switch | several _ | demand => true
  | _ => false

end Effect

/-- A type without layers, as calls bring it. -/
def TypeExpr.isElement : TypeExpr → Bool
  | optional _ | tuple _ | nonEmptyTuple _ => false
  | _ => true

/-- The name of a call with the given effect, and the element types there are. -/
def Effect.Arises (name : String) : Effect → Prop
  | document _ => name = "help"
  | switch => name = "action"
  | element type => (name = "type" ∨ name = "choices") ∧ type.isElement
  | several _ => name = "nargs"
  | demand => name = "required"
  | nothing => True

namespace Argument

variable {table : CommandTable} {path : String} {a b : Argument} {c : Call} {cs : List Call}
variable {w : Wording} {e : Effect}

theorem isElement_converted (k : Converter) : (converted k).isElement = true := by
  cases k <;> rfl

/-- Calls of different names have effects of different sorts. -/
theorem arises_of_effectOf? (h : effectOf? table w = some e) : e.Arises w.name := by
  unfold effectOf? at h
  split at h
  · next hname =>
    obtain ⟨text, -, rfl⟩ := Option.map_eq_some_iff.mp h
    exact hname
  split at h
  · next hname =>
    split at h
    · cases h
      exact hname
    · cases h
  split at h
  · next hname =>
    split at h
    · cases h
      exact ⟨.inr hname, rfl⟩
    · cases h
  split at h
  · next hname =>
    obtain ⟨k, -, rfl⟩ := Option.map_eq_some_iff.mp h
    exact ⟨.inl hname, isElement_converted k⟩
  split at h
  · next hname =>
    obtain ⟨n, -, rfl⟩ := Option.map_eq_some_iff.mp h
    exact hname
  split at h
  · next hname =>
    obtain ⟨value, -, rfl⟩ := Option.map_eq_some_iff.mp h
    cases value with
    | false => trivial
    | true => exact hname
  split at h
  · cases h
    trivial
  · cases h

/-! ### Chains of calls -/

theorem toOption_soleConstant : (soleConstant path c).toOption = c.wording.sole? := by
  unfold soleConstant Wording.sole? Call.wording
  cases c.arguments with
  | nil => rfl
  | cons x xs =>
    cases xs with
    | nil =>
      simp only [List.map_cons, List.map_nil]
      cases x.constant? <;> rfl
    | cons y ys => rfl

theorem toOption_choiceLiterals (as : List Node) :
    (choiceLiterals path as).toOption
      = (as.map Node.constant?).mapM fun value =>
          value.map fun cs => String.ofList (Literal.quote cs) := by
  induction as with
  | nil => rfl
  | cons x xs ih =>
    unfold choiceLiterals
    rw [List.map_cons, List.mapM_cons, ← ih]
    cases x.constant? with
    | none => rfl
    | some value => cases choiceLiterals path xs <;> rfl

/-- **A call does to an argument what its effect does**, and it is accepted when it has one. -/
theorem toOption_configure :
    (configure table path a c).toOption = (effectOf? table c.wording).map (Effect.apply a) := by
  -- both definitions compare the name of the call with the same names in the same order
  unfold configure effectOf?
  have hsole : c.wording.sole? = (soleConstant path c).toOption := toOption_soleConstant.symm
  rw [hsole]
  by_cases hhelp : c.name = "help"
  · simp only [Call.name_wording, hhelp, ↓reduceIte]
    cases soleConstant path c <;> rfl
  by_cases haction : c.name = "action"
  · simp only [Call.name_wording, Call.argumentsText_wording, haction, ↓reduceIte]
    by_cases htext : c.argumentsText = "Arguments.storeTrue()".toList
    · simp only [htext, ↓reduceIte]
      rfl
    · simp only [htext, ↓reduceIte]
      rfl
  by_cases hchoices : c.name = "choices"
  · have hvalues : c.wording.literals? = (choiceLiterals path c.arguments).toOption :=
      (toOption_choiceLiterals c.arguments).symm
    simp only [Call.name_wording, hchoices, hvalues, ↓reduceIte]
    cases choiceLiterals path c.arguments with
    | error e => rfl
    | ok values => cases values <;> rfl
  by_cases htype : c.name = "type"
  · simp only [Call.name_wording, Call.argumentsText_wording, htype, ↓reduceIte]
    cases table.converter? c.argumentsText <;> rfl
  by_cases hnargs : c.name = "nargs"
  · simp only [Call.name_wording, hnargs, ↓reduceIte]
    cases soleConstant path c with
    | error e => rfl
    | ok text =>
      simp only [Except.toOption, Option.bind_some]
      cases arity? text <;> rfl
  by_cases hrequired : c.name = "required"
  · simp only [Call.name_wording, Call.argumentsText_wording, hrequired, ↓reduceIte]
    cases boolean? c.argumentsText with
    | none => rfl
    | some value => cases value <;> rfl
  simp only [Call.name_wording, hhelp, haction, hchoices, htype, hnargs, hrequired, ↓reduceIte]
  by_cases hignored : table.ignoredCalls.contains c.name = true
  · simp only [hignored, ↓reduceIte]
    rfl
  · simp only [hignored]
    rfl

theorem configure_eq_ok_iff :
    configure table path a c = .ok b ↔
      ∃ e, effectOf? table c.wording = some e ∧ b = Effect.apply a e := by
  have h : (configure table path a c).toOption = (effectOf? table c.wording).map (Effect.apply a) :=
    toOption_configure
  constructor
  · intro hb
    rw [hb] at h
    obtain ⟨e, he, heq⟩ := Option.map_eq_some_iff.mp h.symm
    exact ⟨e, he, heq.symm⟩
  · rintro ⟨e, he, rfl⟩
    rw [he] at h
    cases hb : configure table path a c with
    | error err =>
      rw [hb] at h
      cases h
    | ok b =>
      rw [hb] at h
      rw [Option.some.inj h]

/-- The effects of the accepted calls among the given ones. -/
def effects (table : CommandTable) (cs : List Call) : List Effect :=
  cs.filterMap fun c => effectOf? table c.wording

/-- Whether every call is accepted. -/
def Accepted (table : CommandTable) (cs : List Call) : Prop :=
  ∀ c ∈ cs, (effectOf? table c.wording).isSome

/-- **A chain succeeds when each of its calls is accepted**, and applies their effects one after
another. -/
theorem configureAll_eq_ok_iff :
    configureAll table path a cs = .ok b ↔
      Accepted table cs ∧ b = (effects table cs).foldl Effect.apply a := by
  unfold configureAll Accepted effects
  induction cs generalizing a with
  | nil =>
    rw [List.foldlM_nil]
    constructor
    · intro h
      cases h
      exact ⟨by simp, rfl⟩
    · rintro ⟨-, rfl⟩
      rfl
  | cons c cs ih =>
    rw [foldlM_cons_eq_ok_iff]
    simp only [configure_eq_ok_iff, ih, List.forall_mem_cons]
    constructor
    · rintro ⟨m, ⟨e, he, rfl⟩, hcs, rfl⟩
      rw [List.filterMap_cons, he]
      exact ⟨⟨rfl, hcs⟩, rfl⟩
    · rintro ⟨⟨hc, hcs⟩, rfl⟩
      obtain ⟨e, he⟩ := Option.isSome_iff_exists.mp hc
      refine ⟨_, ⟨e, he, rfl⟩, hcs, ?_⟩
      rw [List.filterMap_cons, he]
      rfl

/-! ### What effects add up to -/

/-- A type with one more layer. -/
def layer (type : TypeExpr) : Arity → TypeExpr
  | .any => .tuple type
  | .atLeastOne => .nonEmptyTuple type

/-- The argument that effects leave which make no switch of it.  The layers of its type come from
the arities, the first of them innermost, and the element underneath from the calls that bring
one. -/
def after (a : Argument) (es : List Effect) : Argument where
  group := a.group
  name := (es.filterMap Effect.arity?).foldl (fun name _ => name ++ "s") a.name
  doc := (es.filterMap Effect.text?).foldl (fun _ text => some text) a.doc
  type := (es.filterMap Effect.arity?).foldl layer
    ((es.filterMap Effect.element?).foldl TypeExpr.withElement a.type)
  isOptional := a.isOptional && !es.any Effect.demands
  default := (es.filterMap Effect.default?).foldl (fun _ d => some d) a.default

end Argument

namespace Effect

open Argument

variable {a : Argument} {e : Effect} {es : List Effect}

/-- What is underneath a layer is changed underneath it. -/
theorem foldl_withElement_layer (n : Arity) (type : TypeExpr) (ts : List TypeExpr) :
    ts.foldl TypeExpr.withElement (layer type n) = layer (ts.foldl TypeExpr.withElement type) n := by
  induction ts generalizing type with
  | nil => rfl
  | cons t ts ih =>
    rw [List.foldl_cons, List.foldl_cons, ← ih]
    cases n <;> rfl

/-- One effect in front of the others is applied first. -/
theorem after_apply (h : e ≠ .switch) : (apply a e).after es = a.after (e :: es) := by
  unfold after
  simp only [List.filterMap_cons, List.any_cons]
  cases e with
  | switch => exact absurd rfl h
  | document text => simp [apply, arity?, text?, element?, default?, demands]
  | element type => simp [apply, arity?, text?, element?, default?, demands]
  | several n =>
    -- the later elements reach underneath the new layer
    have htype := foldl_withElement_layer n a.type (es.filterMap element?)
    cases n
    all_goals
      simp only [layer] at htype
      simp [apply, repeated, arity?, text?, element?, default?, demands, layer, htype]
  | demand => simp [apply, arity?, text?, element?, default?, demands]
  | nothing => simp [apply, arity?, text?, element?, default?, demands]

/-- **Effects that make no switch of the argument act on each part of it separately.** -/
theorem foldl_apply (h : .switch ∉ es) : es.foldl apply a = a.after es := by
  induction es generalizing a with
  | nil =>
    unfold after
    simp
  | cons e es ih =>
    obtain ⟨he, hes⟩ := List.ne_and_not_mem_of_not_mem_cons h
    rw [List.foldl_cons, ih hes, after_apply (Ne.symm he)]

end Effect

end RpcBindings
