import RpcBindings.Proofs.Consistency
import RpcBindings.Proofs.Exclusion
import RpcBindings.Proofs.Keywords

/-!
# The names of the fields of a command

A field is named after the flag that its argument is registered under, with an `s` for each `nargs`
call chained onto the registration, so that different flags can give the same name.  These names are
never compared with each other when a command is read and resolved.  A name that two registrations
give is repeated among the fields of the class and, where there are overloads, in one of them or in
a statement of the constructor.

## Main definitions

* `Source.Position.fieldName?` — the name that a registration gives.
* `Attachment.fieldNames` — the names that a registration method gives to what is kept.
* `DistinctNames` — no two arguments have the same name.
* `Resolved.HasDistinctNames` — no name is repeated in the class of a command.

## Main results

* `Command.map_name_arguments` — the arguments are named by the registrations that are kept.
* `Command.distinctNames_combinations_iff` — when all ways to call a command have distinct names.
* `Command.field_names_distinct_iff` — **the names in a class are distinct exactly when the names of
  the registrations are.**
-/

namespace RpcBindings

open Fallible Source

/-! ### The name of a registered argument -/

namespace Argument

variable {table : CommandTable} {path : String} {a a' : Argument} {c : Call} {cs : List Call}

/-- The field name of a flag with `n` plural endings. -/
def pluralName (flag : List Char) (n : Nat) : List Char :=
  fieldName flag ++ List.replicate n 's'

/-- How many plural endings a chain of calls adds. -/
def plurals (cs : List Call) : Nat :=
  cs.countP fun c => c.name == "nargs"

/-- Of all chained calls only `nargs` changes the name. -/
theorem Configured.name_eq (h : Configured table path a c a') :
    a'.name.toList = a.name.toList ++ List.replicate (plurals [c]) 's' := by
  cases h with
  | help hname => simp [plurals, hname]
  | action hname => simp [plurals, hname]
  | choices hname => simp [plurals, hname]
  | type hname => simp [plurals, hname]
  | @nargs _ n hname => cases n <;> simp [plurals, hname, repeated]
  | required hname => simp [plurals, hname]
  | ignored hname =>
    have hne : c.name ≠ "nargs" := fun h => hname (by rw [h]; decide)
    simp [plurals, hne]

/-- A chain adds an ending for each `nargs` call. -/
theorem name_configureAll (h : configureAll table path a cs = .ok a') :
    a'.name.toList = a.name.toList ++ List.replicate (plurals cs) 's' := by
  unfold configureAll at h
  induction cs generalizing a with
  | nil =>
    cases h
    simp [plurals]
  | cons c cs ih =>
    obtain ⟨b, hb, h⟩ := foldlM_cons_eq_ok_iff.mp h
    have hsum : plurals (c :: cs) = plurals [c] + plurals cs := by
      rw [plurals, plurals, plurals, ← List.countP_append, List.singleton_append]
    rw [ih h, (configured_of_configure hb).name_eq, List.append_assoc, ← List.replicate_add, hsum]

@[simp] theorem name_finalize (a : Argument) : a.finalize.name = a.name := by
  unfold finalize
  split <;> rfl

end Argument

/-- The name that the registration at a position gives: the field name of the flag, with an `s` for
each `nargs` call chained onto it. -/
def Source.Position.fieldName? (p : Position) : Option String := do
  let call ← Call.ofNode? p.node
  let flag ← Argument.naming? call
  return String.ofList (Argument.pluralName flag (Argument.plurals p.chain))

namespace Registration

variable {r : Registration} {gs : List Group} {p : Position} {a : Argument}

/-- A registered argument has the name that its registration gives. -/
theorem Registers.fieldName?_eq (h : r.Registers gs p a) : p.fieldName? = some a.name := by
  obtain ⟨call, hcall, h⟩ := h
  obtain ⟨group, flag, b, -, hflag, hb, rfl⟩ := argumentOf_eq_ok_iff.mp h
  have hname : b.finalize.name
      = String.ofList (Argument.pluralName flag (Argument.plurals p.chain)) := by
    refine String.toList_injective ?_
    rw [Argument.name_finalize, Argument.name_configureAll hb, Argument.fresh, String.toList_ofList,
      String.toList_ofList]
    rfl
  rw [Position.fieldName?, hcall, hname]
  simp [hflag]

theorem filterMap_fieldName? {ps : List Position} {as : List Argument}
    (h : List.Forall₂ (r.Registers gs) ps as) :
    ps.filterMap Position.fieldName? = as.map Argument.name := by
  induction h with
  | nil => rfl
  | cons hp _ ih => rw [List.filterMap_cons_some hp.fieldName?_eq, ih, List.map_cons]

end Registration

/-- The names that the registrations of a method give, in order, without the excluded ones. -/
def Attachment.fieldNames (m : Attachment) : List String :=
  ((m.body.members.filterMap m.registration.registering?).filterMap Position.fieldName?).filter
    fun name => !m.registration.excludes name

/-- **The arguments of a command are named by its registrations**, as far as these are kept. -/
theorem Command.map_name_arguments {table : CommandTable} {file : File} {c : Command}
    (hc : ofFile? table file = .ok (some c)) :
    ∃ m, attachment? table file = some m ∧ c.arguments.map Argument.name = m.fieldNames := by
  obtain ⟨m, d, hm, hd, rfl⟩ := ofFile?_eq_ok_some_iff.mp hc
  obtain ⟨as, has, heq⟩ := Draft.arguments_steps hd
  refine ⟨m, hm, ?_⟩
  have harguments : (d.command m.registration).arguments
      = as.filter fun a => !m.registration.excludes a.name := heq
  rw [harguments, Attachment.fieldNames, Registration.filterMap_fieldName? has, List.filter_map]
  rfl

/-! ### Distinct names in what a call is given -/

/-- No two of the arguments have the same name. -/
def DistinctNames (as : List Argument) : Prop :=
  (as.map Argument.name).Nodup

instance (as : List Argument) : Decidable (DistinctNames as) :=
  inferInstanceAs (Decidable (List.Nodup _))

theorem distinctNames_congr {as bs : List Argument} (h : as.Perm bs) :
    DistinctNames as ↔ DistinctNames bs :=
  (h.map Argument.name).nodup_iff

theorem distinctNames_append {as bs : List Argument} :
    DistinctNames (as ++ bs) ↔
      DistinctNames as ∧ DistinctNames bs ∧ ∀ a ∈ as, ∀ b ∈ bs, a.name ≠ b.name := by
  unfold DistinctNames
  rw [List.map_append, List.nodup_append]
  simp

namespace Command

variable {c : Command} {a b : Argument}

/-- Arguments of different groups have different names. -/
def Separate (c : Command) : Prop :=
  ∀ a ∈ c.arguments, ∀ b ∈ c.arguments, a.group ≠ b.group → a.name ≠ b.name

/-- The arguments have distinct names if those of each group have, and no two groups share a
name. -/
theorem distinctNames_arguments_iff :
    DistinctNames c.arguments ↔ (∀ k, DistinctNames (c.argumentsOf k)) ∧ c.Separate := by
  constructor
  · intro h
    refine ⟨fun k => nodup_argumentsOf h k, fun a ha b hb hgroup hname => hgroup ?_⟩
    rw [List.inj_on_of_nodup_map h ha hb hname]
  · rintro ⟨hwithin, hseparate⟩
    unfold DistinctNames at hwithin ⊢
    rw [List.Nodup, List.pairwise_map, List.pairwise_iff_forall_sublist]
    intro a b hab
    have ha : a ∈ c.arguments := hab.subset (by simp)
    have hb : b ∈ c.arguments := hab.subset (by simp)
    by_cases hgroup : a.group = b.group
    · -- both stand in the list of their group, in the same order
      have hsub := hab.filter fun x => x.group == b.group
      rw [List.filter_eq_self.mpr (by simp [hgroup])] at hsub
      have hnodup := (hsub.map Argument.name).nodup (hwithin b.group)
      simpa using hnodup
    · exact hseparate a ha b hb hgroup

/-! ### Distinct names in all ways to call a command -/

/-- What the group of an argument gives to a call that is given the argument. -/
def given (c : Command) (a : Argument) : List Argument :=
  match a.group with
  | none => c.argumentsOf none
  | some _ => [a.mandatory]

theorem given_mem_offers (ha : a ∈ c.arguments) : c.given a ∈ c.offers a.group := by
  cases hgroup : a.group with
  | none =>
    rw [given, hgroup, offers]
    exact List.mem_singleton_self _
  | some name =>
    rw [given, hgroup]
    exact mem_offers_some_iff.mpr (.inr ⟨a, mem_argumentsOf.mpr ⟨ha, hgroup⟩, rfl⟩)

theorem exists_mem_given (ha : a ∈ c.arguments) : ∃ p ∈ c.given a, p.name = a.name := by
  cases hgroup : a.group with
  | none =>
    refine ⟨a, ?_, rfl⟩
    rw [given, hgroup]
    exact mem_argumentsOf.mpr ⟨ha, hgroup⟩
  | some name =>
    refine ⟨a.mandatory, ?_, rfl⟩
    rw [given, hgroup]
    exact List.mem_singleton_self _

/-- One option of each group makes a combination. -/
theorem flatMap_mem_combinations {order : List (Option String)}
    {f : Option String → List Argument} (h : ∀ k ∈ order, f k ∈ c.offers k) :
    order.flatMap f ∈ combinations (order.map c.offers) := by
  induction order with
  | nil => simp [combinations]
  | cons k order ih =>
    obtain ⟨hk, horder⟩ := List.forall_mem_cons.mp h
    rw [List.map_cons, combinations, List.flatMap_cons]
    exact List.mem_flatMap.mpr ⟨f k, hk, List.mem_map_of_mem (ih horder)⟩

/-- An argument of each group: `a` and `b` for their groups, the first argument for any other. -/
def representative (c : Command) (a b : Argument) (k : Option String) : Argument :=
  if k = a.group then a else if k = b.group then b else (c.argumentsOf k).headD a

theorem representative_mem_argumentsOf (ha : a ∈ c.arguments) (hb : b ∈ c.arguments)
    {k : Option String} (hk : k ∈ c.groupOrder) : c.representative a b k ∈ c.argumentsOf k := by
  unfold representative
  split
  · next hka => exact mem_argumentsOf.mpr ⟨ha, hka.symm⟩
  split
  · next hkb => exact mem_argumentsOf.mpr ⟨hb, hkb.symm⟩
  · obtain ⟨x, hx⟩ := mem_groupOrder.mp hk
    have hx : x ∈ c.argumentsOf k := mem_argumentsOf.mpr hx
    cases harguments : c.argumentsOf k with
    | nil =>
      rw [harguments] at hx
      cases hx
    | cons y ys => exact List.mem_cons_self

theorem representative_left (a b : Argument) : c.representative a b a.group = a :=
  if_pos rfl

theorem representative_right (h : a.group ≠ b.group) : c.representative a b b.group = b := by
  rw [representative, if_neg h.symm, if_pos rfl]

/-- What the groups give for the sake of their representatives is a combination. -/
theorem flatMap_given_mem_combinations (ha : a ∈ c.arguments) (hb : b ∈ c.arguments) :
    (c.groupOrder.flatMap fun k => c.given (c.representative a b k))
      ∈ combinations (c.groupOrder.map c.offers) := by
  refine flatMap_mem_combinations fun k hk => ?_
  obtain ⟨hmem, hgroup⟩ := mem_argumentsOf.mp (representative_mem_argumentsOf ha hb hk)
  have hoffered := given_mem_offers hmem
  rwa [hgroup] at hoffered

/-- Two arguments of different groups are given together in some combination, and so are all
arguments outside of all groups. -/
theorem distinct_of_combinations
    (h : ∀ o ∈ combinations (c.groupOrder.map c.offers), DistinctNames o)
    (ha : a ∈ c.arguments) (hb : b ∈ c.arguments) :
    DistinctNames (c.given a) ∧ (a.group ≠ b.group → a.name ≠ b.name) := by
  have hnodup := h _ (flatMap_given_mem_combinations ha hb)
  unfold DistinctNames at hnodup ⊢
  rw [List.map_flatMap, List.nodup_flatMap] at hnodup
  obtain ⟨hwithin, hbetween⟩ := hnodup
  have hka : a.group ∈ c.groupOrder := mem_groupOrder.mpr ⟨a, ha, rfl⟩
  have hkb : b.group ∈ c.groupOrder := mem_groupOrder.mpr ⟨b, hb, rfl⟩
  refine ⟨?_, fun hne hname => ?_⟩
  · have hgiven := hwithin a.group hka
    rwa [representative_left] at hgiven
  · -- a shared name would stand in what both groups give
    have hsymm : Std.Symm (Function.onFun List.Disjoint fun k =>
        (c.given (c.representative a b k)).map Argument.name) := ⟨fun _ _ h => h.symm⟩
    have hdisjoint := hbetween.forall hka hkb hne
    simp only [Function.onFun, representative_left, representative_right hne] at hdisjoint
    obtain ⟨p, hp, hpa⟩ := exists_mem_given ha
    obtain ⟨q, hq, hqb⟩ := exists_mem_given hb
    have hqa : q.name = a.name := hqb.trans hname.symm
    exact hdisjoint (List.mem_map.mpr ⟨p, hp, hpa⟩) (List.mem_map.mpr ⟨q, hq, hqa⟩)

theorem distinctNames_of_mem_offers (hnone : DistinctNames (c.argumentsOf none))
    {k : Option String} {x : List Argument} (hx : x ∈ c.offers k) : DistinctNames x := by
  cases k with
  | none =>
    rw [offers, List.mem_singleton] at hx
    rwa [hx]
  | some name =>
    rcases mem_offers_some_iff.mp hx with ⟨-, rfl⟩ | ⟨a, -, rfl⟩
    · exact List.nodup_nil
    · exact List.nodup_singleton _

/-- Nothing is given twice in one combination, as every group gives something only once. -/
theorem distinctNames_of_mem_combinations (hnone : DistinctNames (c.argumentsOf none))
    (hseparate : c.Separate) {order : List (Option String)} (horder : order.Nodup)
    {o : List Argument} (ho : o ∈ combinations (order.map c.offers)) : DistinctNames o := by
  induction order generalizing o with
  | nil =>
    rw [List.map_nil, combinations, List.mem_singleton] at ho
    rw [ho]
    exact List.nodup_nil
  | cons k order ih =>
    obtain ⟨hk, horder⟩ := List.nodup_cons.mp horder
    rw [List.map_cons, combinations, List.mem_flatMap] at ho
    obtain ⟨x, hx, ho⟩ := ho
    obtain ⟨y, hy, rfl⟩ := List.mem_map.mp ho
    refine distinctNames_append.mpr ⟨distinctNames_of_mem_offers hnone hx, ih horder hy, ?_⟩
    intro p hp q hq
    obtain ⟨a, ha, hpa⟩ := namesAmong_offers hx p hp
    obtain ⟨b, hb, hqb⟩ := namesAmong_combinations hy q hq
    obtain ⟨l, hl, hb⟩ := List.mem_flatMap.mp hb
    rw [mem_argumentsOf] at ha hb
    -- the later groups of the order are other groups
    have hne : a.group ≠ b.group := by
      rw [ha.2, hb.2]
      rintro rfl
      exact hk hl
    rw [← hpa, ← hqb]
    exact hseparate a ha.1 b hb.1 hne

/-- **When all ways to call a command have distinct names**: the arguments outside of all groups
have, and no two groups share a name.  Two arguments of one group are never given together. -/
theorem distinctNames_combinations_iff :
    (∀ o ∈ combinations (c.groupOrder.map c.offers), DistinctNames o) ↔
      DistinctNames (c.argumentsOf none) ∧ c.Separate := by
  constructor
  · intro h
    refine ⟨?_, fun a ha b hb => (distinct_of_combinations h ha hb).2⟩
    cases hnone : c.argumentsOf none with
    | nil => exact List.nodup_nil
    | cons a as =>
      obtain ⟨ha, hgroup⟩ := mem_argumentsOf.mp (hnone ▸ List.mem_cons_self)
      have hgiven := (distinct_of_combinations h ha ha).1
      rwa [given, hgroup, hnone] at hgiven
  · rintro ⟨hnone, hseparate⟩ o ho
    exact distinctNames_of_mem_combinations hnone hseparate c.nodup_groupOrder ho

end Command

/-! ### Distinct names in a class -/

namespace Resolved

variable {c : Command} {r : Resolved}

/-- No name is repeated among the fields of the class, among the parameters of an overload, or among
the names that a statement of the constructor lists. -/
structure HasDistinctNames (r : Resolved) : Prop where
  fields : DistinctNames r.command.arguments
  parameters : ∀ o ∈ r.overloads, DistinctNames o
  listed : ∀ b ∈ r.matchBlocks, b.listed.Nodup

theorem distinctNames_overloads_iff (h : c.resolve = .ok r) (hne : r.overloads ≠ []) :
    (∀ o ∈ r.overloads, DistinctNames o) ↔
      DistinctNames (r.command.argumentsOf none) ∧ r.command.Separate := by
  rw [overloads_eq_map h hne, List.forall_mem_map, ← Command.distinctNames_combinations_iff]
  simp only [distinctNames_congr (perm_mandatoryFirst _)]

/-- Where there are overloads, a repeated name is repeated in one of them or in a statement of the
constructor. -/
theorem distinctNames_iff (h : c.resolve = .ok r) (hne : r.overloads ≠ []) :
    DistinctNames r.command.arguments ↔
      (∀ o ∈ r.overloads, DistinctNames o) ∧ ∀ b ∈ r.matchBlocks, b.listed.Nodup := by
  have hlisted : (∀ b ∈ r.matchBlocks, b.listed.Nodup) ↔
      ∀ g ∈ r.command.groups, DistinctNames (r.command.argumentsOf (some g.name)) :=
    List.forall_mem_map
  rw [Command.distinctNames_arguments_iff, distinctNames_overloads_iff h hne, hlisted]
  constructor
  · rintro ⟨hwithin, hseparate⟩
    exact ⟨⟨hwithin none, hseparate⟩, fun g _ => hwithin (some g.name)⟩
  · rintro ⟨⟨hnone, hseparate⟩, hgroups⟩
    refine ⟨fun k => ?_, hseparate⟩
    cases k with
    | none => exact hnone
    | some name =>
      cases harguments : r.command.argumentsOf (some name) with
      | nil => exact List.nodup_nil
      | cons a as =>
        -- whoever carries the name carries the name of a group
        obtain ⟨ha, hgroup⟩ := Command.mem_argumentsOf.mp (harguments ▸ List.mem_cons_self)
        obtain ⟨g, hg, rfl⟩ := Command.exists_group_of_resolve h ha hgroup
        have hdistinct := hgroups g hg
        rwa [harguments] at hdistinct

/-- If no field is repeated, nothing else is. -/
theorem hasDistinctNames_iff (h : c.resolve = .ok r) :
    r.HasDistinctNames ↔ DistinctNames r.command.arguments := by
  refine ⟨fun hdistinct => hdistinct.fields, fun hfields => ⟨hfields, fun o ho => ?_, ?_⟩⟩
  · have hne : r.overloads ≠ [] := List.ne_nil_of_mem ho
    exact ((distinctNames_iff h hne).mp hfields).1 o ho
  · intro b hb
    obtain ⟨g, -, rfl⟩ := List.mem_map.mp hb
    exact Command.nodup_argumentsOf hfields _

end Resolved

namespace Command

variable {table : CommandTable} {file : File} {c : Command}

/-- **The names in a class are distinct exactly when the names of the registrations are.**  The
arguments of a command are named by the registrations that are kept.  Whether it can be resolved
does not depend on these names; if it can, no field, no parameter of an overload and no name that
the constructor looks at is repeated exactly when no two of the registrations give the same name.
Where there are overloads, a repeated name shows in them or in the constructor, too. -/
theorem field_names_distinct_iff (hc : ofFile? table file = .ok (some c)) :
    ∃ m, attachment? table file = some m ∧ c.arguments.map Argument.name = m.fieldNames ∧
      ((∃ r, c.resolve = .ok r) ↔ ∀ g ∈ c.groups, g.members ≠ []) ∧
      ∀ r, c.resolve = .ok r →
        (r.HasDistinctNames ↔ m.fieldNames.Nodup) ∧
        (r.overloads ≠ [] →
          ((∀ o ∈ r.overloads, DistinctNames o) ∧ (∀ b ∈ r.matchBlocks, b.listed.Nodup) ↔
            m.fieldNames.Nodup)) := by
  obtain ⟨m, hm, hnames⟩ := map_name_arguments hc
  refine ⟨m, hm, hnames, (consistent_of_ofFile? hc).exists_resolve_iff, fun r hr => ?_⟩
  have hfields : DistinctNames r.command.arguments ↔ m.fieldNames.Nodup := by
    rw [← hnames]
    exact (perm_names_of_resolve hr).nodup_iff
  refine ⟨(Resolved.hasDistinctNames_iff hr).trans hfields, fun hne => ?_⟩
  exact (Resolved.distinctNames_iff hr hne).symm.trans hfields

/-- A command with two registrations that give the same name, one of them in a group. -/
def sharedName : List String :=
  ["class SendCommand implements JsonRpcLocalCommand \x7b",
   "String getName() \x7b return \"send\"; \x7d",
   "void attachToSubparser(Subparser p) \x7b",
   "p.addArgument(\"--recipient\").nargs(\"*\");",
   "var to = p.addMutuallyExclusiveGroup();",
   "to.addArgument(\"--recipients\");",
   "to.addArgument(\"--group-id\");",
   "\x7d \x7d"]

theorem declares_sharedName :
    declares "SendCommand.java" sharedName (fun _ c =>
      match c.resolve with
      | .ok r =>
        r.command.arguments.map Argument.fieldText
            == ["recipients: tuple[str, ...] = ()", "recipients: str | None = None",
              "group_id: str | None = None"] &&
          r.overloads.map (List.map Argument.parameter)
            == [["recipients: tuple[str, ...] = ..."],
              ["recipients: str", "recipients: tuple[str, ...] = ..."],
              ["group_id: str", "recipients: tuple[str, ...] = ..."]] &&
          !decide (DistinctNames r.command.arguments) &&
            r.overloads.any fun o => !decide (DistinctNames o)
      | .error _ => false) = true := by
  exact declares_of_spelled (by repeat constructor) (by decide +kernel)

/-- The class declares the field `recipients` twice, an overload has two parameters of that name,
and nothing is reported. -/
theorem recipients_declared_twice :
    ∃ file c r, File.ofText? "SendCommand.java" (ofLines sharedName) = some file ∧
      ofFile? {} file = .ok (some c) ∧ c.resolve = .ok r ∧
        r.command.arguments.map Argument.fieldText
          = ["recipients: tuple[str, ...] = ()", "recipients: str | None = None",
            "group_id: str | None = None"] ∧
        r.overloads.map (List.map Argument.parameter)
          = [["recipients: tuple[str, ...] = ..."],
            ["recipients: str", "recipients: tuple[str, ...] = ..."],
            ["group_id: str", "recipients: tuple[str, ...] = ..."]] ∧
        ¬ DistinctNames r.command.arguments ∧ ∃ o ∈ r.overloads, ¬ DistinctNames o := by
  obtain ⟨file, m, c, hfile, -, hc, h⟩ := exists_of_declares declares_sharedName
  split at h
  · next r hr =>
    simp only [Bool.and_eq_true, beq_iff_eq, Bool.not_eq_true', decide_eq_false_iff_not,
      List.any_eq_true] at h
    obtain ⟨⟨⟨hfields, hparameters⟩, hshared⟩, hoverload⟩ := h
    exact ⟨file, c, r, hfile, hc, hr, hfields, hparameters, hshared, hoverload⟩
  · cases h

/-- A command with registrations of different names. -/
def severalNames : List String :=
  ["class SendCommand implements JsonRpcLocalCommand \x7b",
   "String getName() \x7b return \"send\"; \x7d",
   "void attachToSubparser(Subparser p) \x7b",
   "p.addArgument(\"--recipient\").nargs(\"*\");",
   "var to = p.addMutuallyExclusiveGroup();",
   "to.addArgument(\"-n\", \"--note-to-self\");",
   "to.addArgument(\"--group-id\");",
   "\x7d \x7d"]

theorem declares_severalNames :
    declares "SendCommand.java" severalNames (fun m c =>
      m.fieldNames == ["recipients", "note_to_self", "group_id"] &&
        match c.resolve with
        | .ok r => r.overloads.length == 3
        | .error _ => false) = true := by
  exact declares_of_spelled (by repeat constructor) (by decide +kernel)

theorem severalNames_field_names_distinct_iff :
    ∃ file c r, File.ofText? "SendCommand.java" (ofLines severalNames) = some file ∧
      ofFile? {} file = .ok (some c) ∧ c.resolve = .ok r ∧ r.overloads.length = 3 ∧
        c.arguments.map Argument.name = ["recipients", "note_to_self", "group_id"] ∧
          r.HasDistinctNames := by
  obtain ⟨file, m, c, hfile, hm, hc, h⟩ := exists_of_declares declares_severalNames
  rw [Bool.and_eq_true, beq_iff_eq] at h
  obtain ⟨hnames, h⟩ := h
  split at h
  · next r hr =>
    obtain ⟨m', hm', harguments, -, hdistinct⟩ := field_names_distinct_iff hc
    rw [hm] at hm'
    cases hm'
    rw [hnames] at harguments hdistinct
    have hdistinct : r.HasDistinctNames := (hdistinct r hr).1.mpr (by decide)
    exact ⟨file, c, r, hfile, hc, hr, beq_iff_eq.mp h, harguments, hdistinct⟩
  · cases h

end Command

end RpcBindings
