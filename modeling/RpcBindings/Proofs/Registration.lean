import RpcBindings.Proofs.Argument
import RpcBindings.Proofs.Resolution

/-!
# Registering statement by statement

What one statement of a registration does is stated once, as a relation between the draft before and
after it.  What every statement keeps is an invariant of all drafts, and what a statement registers
can be read off the statement itself: the draft before it decides only whether a group is declared.

## Main definitions

* `Draft.Step` — the effects of one statement.
* `Draft.Grouped` — groups and arguments of a draft agree.
* `Registration.Registers` — the argument that the call at a position registers.
* `Registration.registering?` — the call that a statement registers an argument with.
* `Attachment`, `attachment?` — the registration method of a file.
* `Error.StopsReading` — what can be wrong with a registration.

## Main results

* `Draft.step_eq_ok_iff` — **the specification of `Draft.step`.**
* `Draft.arguments_steps` — the registered arguments are those of the registering statements, but
  for those that are excluded.
* `Draft.grouped_steps` — groups and arguments agree in every draft.
* `Command.ofFile?_eq_ok_some_iff` — a command is the draft of a registration method.
-/

namespace RpcBindings

open Fallible Source

/-! ### Reports on a registration -/

/-- The error reports a shape in the file of that path, or a group that is declared twice. -/
def Error.StopsReading (path : String) (e : Error) : Prop :=
  e.IsAt path ∨ ∃ command name, e = .inconsistent command (.groupDeclaredTwice name)

theorem Fallible.FailsOnly.stopsReading {α : Type} {path : String} {x : Except Error α}
    (h : FailsOnly (Error.IsAt path) x) : FailsOnly (Error.StopsReading path) x :=
  fun e he => .inl (h e he)

/-- Whether a group of that name is declared, as a test and as membership. -/
theorem any_name_iff {gs : List Group} {name : String} :
    (gs.any fun g => g.name == name) = true ↔ name ∈ gs.map Group.name := by
  simp

namespace Registration

variable {r : Registration} {gs gs' : List Group} {call : Call} {chain : List Call}
variable {s : Node} {p : Position} {a : Argument}

/-- The position is that of a call that registers the argument. -/
def Registers (r : Registration) (gs : List Group) (p : Position) (a : Argument) : Prop :=
  ∃ call, Call.ofNode? p.node = some call ∧ r.argumentOf gs call p.chain = .ok a

/-- The call that a statement registers an argument with; statements that set the help text are not
searched for one. -/
def registering? (r : Registration) (s : Node) : Option Position :=
  if (r.helpCall? s).isSome then none else argumentCall? s

theorem argumentOf_eq_ok_iff :
    r.argumentOf gs call chain = .ok a ↔
      ∃ group flag b, r.groupOf gs call = .ok group ∧ Argument.naming? call = some flag ∧
          Argument.configureAll r.table r.path (.fresh group flag) chain = .ok b ∧
            a = b.finalize := by
  unfold argumentOf
  rw [bind_eq_ok_iff]
  constructor
  · rintro ⟨group, hgroup, h⟩
    cases hflag : Argument.naming? call with
    | none => rw [hflag] at h; cases h
    | some flag =>
      rw [hflag] at h
      obtain ⟨b, hb, h⟩ := bind_eq_ok_iff.mp h
      cases h
      exact ⟨group, flag, b, hgroup, rfl, hb, rfl⟩
  · rintro ⟨group, flag, b, hgroup, hflag, hb, rfl⟩
    refine ⟨group, hgroup, ?_⟩
    rw [hflag]
    exact bind_eq_ok_iff.mpr ⟨b, hb, rfl⟩

/-- An argument is registered on a variable: on the parser itself, or on a declared group. -/
theorem groupOf_eq_ok_iff {k : Option String} :
    r.groupOf gs call = .ok k ↔
      ∃ receiver, call.receiver = some receiver ∧ receiver.is .identifier ∧
        (receiver.word = r.parser ∧ k = none ∨
          receiver.word ≠ r.parser ∧ receiver.word ∈ gs.map Group.name ∧
            k = some receiver.word) := by
  unfold groupOf
  cases call.receiver with
  | none => simp
  | some receiver =>
    simp only [Option.some.injEq, exists_eq_left']
    split
    · next hident =>
      rw [and_iff_right hident]
      split
      · next hparser =>
        rw [and_iff_right hparser, Except.ok.injEq]
        constructor
        · exact fun hk => .inl hk.symm
        · rintro (hk | ⟨hne, -⟩)
          · exact hk.symm
          · exact absurd hparser hne
      · next hparser =>
        split
        · next hmem =>
          rw [any_name_iff] at hmem
          rw [Except.ok.injEq]
          constructor
          · exact fun hk => .inr ⟨hparser, hmem, hk.symm⟩
          · rintro (⟨heq, -⟩ | ⟨-, -, hk⟩)
            · exact absurd heq hparser
            · exact hk.symm
        · next hmem =>
          rw [any_name_iff] at hmem
          constructor
          · intro hk
            cases hk
          · rintro (⟨heq, -⟩ | ⟨-, hmem', -⟩)
            · exact absurd heq hparser
            · exact absurd hmem' hmem
    · next hident => simp [hident]

/-- More groups and more members of groups do not change where an argument belongs. -/
theorem groupOf_mono {k : Option String} (hsub : gs.map Group.name ⊆ gs'.map Group.name)
    (h : r.groupOf gs call = .ok k) : r.groupOf gs' call = .ok k := by
  obtain ⟨receiver, hreceiver, hident, h⟩ := groupOf_eq_ok_iff.mp h
  refine groupOf_eq_ok_iff.mpr ⟨receiver, hreceiver, hident, ?_⟩
  rcases h with hparser | ⟨hparser, hmem, hk⟩
  · exact .inl hparser
  · exact .inr ⟨hparser, hsub hmem, hk⟩

theorem Registers.mono (hsub : gs.map Group.name ⊆ gs'.map Group.name) (h : r.Registers gs p a) :
    r.Registers gs' p a := by
  obtain ⟨call, hcall, h⟩ := h
  obtain ⟨group, flag, b, hgroup, h⟩ := argumentOf_eq_ok_iff.mp h
  exact ⟨call, hcall, argumentOf_eq_ok_iff.mpr ⟨group, flag, b, groupOf_mono hsub hgroup, h⟩⟩

/-- A registered argument is outside of all groups or in a declared one. -/
theorem Registers.group_eq (h : r.Registers gs p a) :
    a.group = none ∨ ∃ g ∈ gs, a.group = some g.name := by
  obtain ⟨call, -, h⟩ := h
  obtain ⟨group, flag, b, hgroup, -, hb, rfl⟩ := argumentOf_eq_ok_iff.mp h
  have hgroup' : b.finalize.group = group := by
    rw [Argument.group_finalize, Argument.group_configureAll hb]
    rfl
  obtain ⟨receiver, -, -, ⟨-, hk⟩ | ⟨-, hmem, hk⟩⟩ := groupOf_eq_ok_iff.mp hgroup
  · exact .inl (hgroup'.trans hk)
  · obtain ⟨g, hg, hname⟩ := List.mem_map.mp hmem
    exact .inr ⟨g, hg, by rw [hgroup', hk, hname]⟩

/-! ### Failing statements -/

theorem failsOnly_argumentOf : FailsOnly (Error.IsAt r.path) (r.argumentOf gs call chain) := by
  unfold argumentOf
  refine FailsOnly.bind ?_ fun group => ?_
  · unfold groupOf
    split
    · exact failsOnly_error Error.isAt_atNode
    split
    · split
      · exact failsOnly_ok _
      split
      · exact failsOnly_ok _
      · exact failsOnly_error Error.isAt_atNode
    · exact failsOnly_error Error.isAt_atNode
  · split
    · exact failsOnly_error Error.isAt_atNode
    · exact Argument.failsOnly_configureAll.bind fun _ => failsOnly_ok _

theorem failsOnly_helpText : FailsOnly (Error.IsAt r.path) (r.helpText s call) := by
  unfold helpText
  split
  · split
    · exact failsOnly_ok _
    · exact failsOnly_error Error.isAt_atNode
  · exact failsOnly_error Error.isAt_atNode

theorem failsOnly_groupCreation? : FailsOnly (Error.IsAt r.path) (r.groupCreation? s) := by
  unfold groupCreation?
  split
  · exact failsOnly_ok _
  split
  · split
    · exact failsOnly_ok _
    split
    · exact failsOnly_ok _
    · exact failsOnly_error Error.isAt_atNode
  · exact failsOnly_ok _

theorem failsOnly_groupDeclared? : FailsOnly (Error.IsAt r.path) (r.groupDeclared? s) := by
  unfold groupDeclared?
  split
  · split
    · exact failsOnly_ok _
    split
    · exact failsOnly_groupCreation?.map _
    · exact failsOnly_ok _
  · exact failsOnly_ok _

end Registration

/-! ### The effects of a statement -/

namespace Draft

variable {r : Registration} {d d' : Draft} {s : Node} {ss : List Node} {a : Argument}

/-- The effects that one statement can have on a draft. -/
inductive Step (r : Registration) (d : Draft) (s : Node) : Draft → Prop
  /-- The statement sets the help text. -/
  | help {call : Call} {text : String} (hcall : r.helpCall? s = some call)
    (htext : r.helpText s call = .ok text) : Step r d s { d with help := some text }
  /-- It registers an argument. -/
  | register {p : Position} {a : Argument} (hp : r.registering? s = some p)
    (ha : r.Registers d.groups p a) (hincluded : r.table.isExcluded r.command a.name = false) :
    Step r d s (d.addArgument a)
  /-- It registers an argument that the configuration leaves out. -/
  | exclude {p : Position} {a : Argument} (hp : r.registering? s = some p)
    (ha : r.Registers d.groups p a) (hexcluded : r.table.isExcluded r.command a.name = true) :
    Step r d s d
  /-- It declares a group. -/
  | declare {g : Group} (hhelp : r.helpCall? s = none)
    (hcall : Registration.argumentCall? s = none) (hg : r.groupDeclared? s = .ok (some g))
    (hnew : g.name ∉ d.groups.map Group.name) : Step r d s { d with groups := d.groups ++ [g] }

theorem addGroup_eq_ok_iff {command : String} {g : Group} :
    d.addGroup command g = .ok d' ↔
      g.name ∉ d.groups.map Group.name ∧ d' = { d with groups := d.groups ++ [g] } := by
  unfold addGroup
  split
  · next h => simp [any_name_iff.mp h]
  · next h =>
    rw [any_name_iff] at h
    rw [and_iff_right h, Except.ok.injEq]
    exact eq_comm

/-- **The specification of `Draft.step`.** -/
theorem step_eq_ok_iff : d.step r s = .ok d' ↔ Step r d s d' := by
  unfold step
  constructor
  · -- the rules in their order: the help text, an argument, a group
    intro h
    split at h
    · next call hcall =>
      obtain ⟨text, htext, rfl⟩ := map_eq_ok_iff.mp h
      exact .help hcall htext
    next hhelp =>
    split at h
    · next p hp =>
      split at h
      · next call hcall =>
        have hregistering : r.registering? s = some p := by
          rw [Registration.registering?, hhelp]
          exact hp
        obtain ⟨a, ha, rfl⟩ := map_eq_ok_iff.mp h
        split
        · next hexcluded => exact .exclude hregistering ⟨call, hcall, ha⟩ hexcluded
        · next hincluded =>
          exact .register hregistering ⟨call, hcall, ha⟩ (Bool.eq_false_iff.mpr hincluded)
      · cases h
    next hcall =>
    split at h
    · cases h
    · next g hg =>
      obtain ⟨hnew, rfl⟩ := addGroup_eq_ok_iff.mp h
      exact .declare hhelp hcall hg hnew
    · cases h
  · -- whether the argument is kept or left out, the same rule applies
    have hregister : ∀ {p : Position} {a : Argument}, r.registering? s = some p →
        r.Registers d.groups p a → r.helpCall? s = none ∧ Registration.argumentCall? s = some p ∧
          ∃ call, Call.ofNode? p.node = some call ∧ d.register r call p.chain
            = .ok (if r.table.isExcluded r.command a.name then d else d.addArgument a) := by
      rintro p a hp ⟨call, hcall, ha⟩
      unfold Registration.registering? at hp
      split at hp
      · cases hp
      next hhelp =>
      exact ⟨by simpa using hhelp, hp, call, hcall, map_eq_ok_iff.mpr ⟨a, ha, rfl⟩⟩
    intro h
    cases h with
    | help hcall htext =>
      rw [hcall]
      exact map_eq_ok_iff.mpr ⟨_, htext, rfl⟩
    | register hp ha hincluded =>
      obtain ⟨hhelp, hp, call, hcall, h⟩ := hregister hp ha
      rw [hincluded] at h
      simp only [hhelp, hp, hcall]
      exact h
    | exclude hp ha hexcluded =>
      obtain ⟨hhelp, hp, call, hcall, h⟩ := hregister hp ha
      rw [hexcluded] at h
      simp only [hhelp, hp, hcall]
      exact h
    | declare hhelp hcall hg hnew =>
      simp only [hhelp, hcall, hg]
      exact addGroup_eq_ok_iff.mpr ⟨hnew, rfl⟩

theorem failsOnly_step : FailsOnly (Error.StopsReading r.path) (d.step r s) := by
  unfold step
  split
  · exact Registration.failsOnly_helpText.stopsReading.map _
  split
  · split
    · exact Registration.failsOnly_argumentOf.stopsReading.map _
    · exact failsOnly_error (.inl Error.isAt_atNode)
  split
  · next h => exact failsOnly_error (.inl (Registration.failsOnly_groupDeclared? _ h))
  · unfold addGroup
    split
    · exact failsOnly_error (.inr ⟨_, _, rfl⟩)
    · exact failsOnly_ok _
  · exact failsOnly_error (.inl Error.isAt_atNode)

theorem failsOnly_steps : FailsOnly (Error.StopsReading r.path) (d.steps r ss) :=
  FailsOnly.foldlM (fun _ _ => failsOnly_step) _ _

theorem steps_cons_eq_ok_iff :
    d.steps r (s :: ss) = .ok d' ↔ ∃ m, Step r d s m ∧ m.steps r ss = .ok d' := by
  unfold steps
  simp only [foldlM_cons_eq_ok_iff, step_eq_ok_iff]

/-! ### What statements keep -/

@[simp] theorem names_addArgument (d : Draft) (a : Argument) :
    (d.addArgument a).groups.map Group.name = d.groups.map Group.name := by
  unfold addArgument
  rw [List.map_map]
  refine List.map_congr_left fun g _ => ?_
  rw [Function.comp_apply]
  split <;> rfl

/-- A declared group stays declared. -/
theorem Step.names_subset (h : Step r d s d') :
    d.groups.map Group.name ⊆ d'.groups.map Group.name := by
  cases h with
  | help => exact List.Subset.refl _
  | register => rw [names_addArgument]; exact List.Subset.refl _
  | exclude => exact List.Subset.refl _
  | declare =>
    rw [List.map_append]
    exact List.subset_append_left _ _

theorem names_subset_steps (h : d.steps r ss = .ok d') :
    d.groups.map Group.name ⊆ d'.groups.map Group.name := by
  induction ss generalizing d with
  | nil =>
    cases h
    exact List.Subset.refl _
  | cons s ss ih =>
    obtain ⟨m, hstep, h⟩ := steps_cons_eq_ok_iff.mp h
    exact List.Subset.trans hstep.names_subset (ih h)

/-- Groups and arguments agree: no two groups share a name, an argument is in no group but a
declared one, and a group lists its arguments. -/
structure Grouped (d : Draft) : Prop where
  nodup : (d.groups.map Group.name).Nodup
  known : ∀ a ∈ d.arguments, ∀ name, a.group = some name → name ∈ d.groups.map Group.name
  members_eq : ∀ g ∈ d.groups,
    g.members = (d.arguments.filter fun a => a.group == some g.name).map Argument.name

theorem Grouped.addArgument (h : d.Grouped)
    (ha : a.group = none ∨ ∃ g ∈ d.groups, a.group = some g.name) : (d.addArgument a).Grouped where
  nodup := by
    rw [names_addArgument]
    exact h.nodup
  known := by
    rw [names_addArgument]
    intro b hb name hname
    rcases List.mem_append.mp hb with hb | hb
    · exact h.known b hb name hname
    · rw [List.mem_singleton.mp hb] at hname
      rcases ha with ha | ⟨g, hg, ha⟩
      · rw [ha] at hname
        cases hname
      · rw [ha] at hname
        cases hname
        exact List.mem_map_of_mem hg
  members_eq := by
    intro g' hg'
    obtain ⟨g, hg, rfl⟩ := List.mem_map.mp hg'
    have hmembers := h.members_eq g hg
    -- only the group of the new argument gains a member
    split
    · next hgroup =>
      have hadd : (g.add a.name).name = g.name := rfl
      rw [hadd, Draft.addArgument, List.filter_append, List.map_append, ← hmembers]
      simp [Group.add, hgroup]
    · next hgroup =>
      rw [Draft.addArgument, List.filter_append, List.map_append, ← hmembers]
      simp [hgroup]

/-- A group is declared without members. -/
theorem members_of_groupDeclared? {g : Group} (h : r.groupDeclared? s = .ok (some g)) :
    g.members = [] := by
  unfold Registration.groupDeclared? at h
  split at h
  · split at h
    · cases h
    split at h
    · obtain ⟨creation, -, h⟩ := map_eq_ok_iff.mp h
      split at h
      · split at h
        · cases h
          rfl
        · cases h
      · cases h
    · cases h
  · cases h

theorem Grouped.addGroup {g : Group} (h : d.Grouped) (hnew : g.name ∉ d.groups.map Group.name)
    (hmembers : g.members = []) : Grouped { d with groups := d.groups ++ [g] } where
  nodup := by
    rw [List.map_append]
    refine h.nodup.append (List.nodup_singleton _) ?_
    rw [List.map_singleton, List.disjoint_singleton]
    exact hnew
  known := by
    intro a ha name hname
    rw [List.map_append]
    exact List.mem_append_left _ (h.known a ha name hname)
  members_eq := by
    intro g' hg'
    rcases List.mem_append.mp hg' with hg' | hg'
    · exact h.members_eq g' hg'
    · -- nobody can have registered on the new group before
      rw [List.mem_singleton.mp hg', hmembers, List.filter_eq_nil_iff.mpr]
      · rfl
      · intro a ha hgroup
        exact hnew (h.known a ha g.name (beq_iff_eq.mp hgroup))

theorem Step.grouped (h : Step r d s d') (hd : d.Grouped) : d'.Grouped := by
  cases h with
  | help => exact ⟨hd.nodup, hd.known, hd.members_eq⟩
  | register hp ha hincluded => exact hd.addArgument ha.group_eq
  | exclude => exact hd
  | declare _ _ hg hnew => exact hd.addGroup hnew (members_of_groupDeclared? hg)

/-- **Groups and arguments agree in every draft.** -/
theorem grouped_steps (h : d.steps r ss = .ok d') (hd : d.Grouped) : d'.Grouped := by
  induction ss generalizing d with
  | nil =>
    cases h
    exact hd
  | cons s ss ih =>
    obtain ⟨m, hstep, h⟩ := steps_cons_eq_ok_iff.mp h
    exact ih h (hstep.grouped hd)

/-- **What several statements register**: an argument for each statement that holds a call, without
those that the configuration leaves out. -/
theorem arguments_steps (h : d.steps r ss = .ok d') :
    ∃ as, List.Forall₂ (r.Registers d'.groups) (ss.filterMap r.registering?) as ∧
      d'.arguments
        = d.arguments ++ as.filter (fun a => !r.table.isExcluded r.command a.name) := by
  -- an argument is registered while some groups may still be undeclared; it would be registered in
  -- the same way at the end
  induction ss generalizing d with
  | nil =>
    cases h
    exact ⟨[], .nil, by simp⟩
  | cons s ss ih =>
    obtain ⟨m, hstep, h⟩ := steps_cons_eq_ok_iff.mp h
    have hnames := names_subset_steps h
    obtain ⟨as, has, heq⟩ := ih h
    cases hstep with
    | help hcall htext =>
      refine ⟨as, ?_, heq⟩
      rwa [List.filterMap_cons_none]
      rw [Registration.registering?, hcall]
      rfl
    | @register p a hp ha hincluded =>
      refine ⟨a :: as, ?_, ?_⟩
      · rw [List.filterMap_cons_some hp]
        rw [names_addArgument] at hnames
        exact .cons (ha.mono hnames) has
      · rw [heq, List.filter_cons_of_pos (by rw [hincluded]; rfl), addArgument,
          List.append_assoc, List.singleton_append]
    | @exclude p a hp ha hexcluded =>
      refine ⟨a :: as, ?_, ?_⟩
      · rw [List.filterMap_cons_some hp]
        exact .cons (ha.mono hnames) has
      · rw [heq, List.filter_cons_of_neg (by rw [hexcluded]; simp)]
    | declare hhelp hcall hg hnew =>
      refine ⟨as, ?_, heq⟩
      rwa [List.filterMap_cons_none]
      rw [Registration.registering?, hhelp, hcall]
      rfl

end Draft

/-! ### Registration methods -/

/-- The registration method of a file: what its statements refer to, and the body they stand in. -/
structure Attachment where
  registration : Registration
  body : Node

/-- The registration method that a file declares, if it can be read at all. -/
def attachment? (table : CommandTable) (file : File) : Option Attachment := do
  let declaration ← Command.classIn? file.root table.interface
  let name ← (Command.nameOf file.path declaration).toOption.join
  let method ← methodOf? declaration "attachToSubparser"
  let parser ← Command.firstParameter? method
  let body ← method.child? .body
  return { registration := { table, path := file.path, command := name, parser }, body }

theorem attachment?_eq_some_iff {table : CommandTable} {file : File} {m : Attachment} :
    attachment? table file = some m ↔
      m.registration.table = table ∧ m.registration.path = file.path ∧
        ∃ declaration method, Command.classIn? file.root table.interface = some declaration ∧
          Command.nameOf file.path declaration = .ok (some m.registration.command) ∧
          methodOf? declaration "attachToSubparser" = some method ∧
          Command.firstParameter? method = some m.registration.parser ∧
          method.child? .body = some m.body := by
  simp only [attachment?, Option.bind_eq_bind, Option.bind_eq_some_iff, Option.pure_def,
    Option.some.injEq, join_toOption_eq_some_iff]
  constructor
  · rintro ⟨declaration, hclass, name, hname, method, hmethod, parser, hparser, body, hbody, rfl⟩
    exact ⟨rfl, rfl, declaration, method, hclass, hname, hmethod, hparser, hbody⟩
  · rintro ⟨rfl, hpath, declaration, method, hclass, hname, hmethod, hparser, hbody⟩
    refine ⟨declaration, hclass, _, hname, method, hmethod, _, hparser, _, hbody, ?_⟩
    rw [← hpath]

namespace Command

variable {table : CommandTable} {file : File} {m : Attachment} {c : Command}

/-- A file with a registration method declares what its statements register. -/
theorem ofFile?_of_attachment? (h : attachment? table file = some m) :
    ofFile? table file
      = (Draft.steps m.registration {} m.body.members).map
          fun d => some (d.command m.registration) := by
  obtain ⟨⟨table', path, name, parser⟩, body⟩ := m
  obtain ⟨rfl, rfl, declaration, method, hclass, hname, hmethod, hparser, hbody⟩ :=
    attachment?_eq_some_iff.mp h
  simp only [ofFile?, hclass, hname, hmethod, ofMethod, hparser, hbody]
  cases Draft.steps _ {} body.members with
  | error e => rfl
  | ok d => rfl

/-- **A command is the draft of a registration method.** -/
theorem ofFile?_eq_ok_some_iff :
    ofFile? table file = .ok (some c) ↔
      ∃ m d, attachment? table file = some m ∧
        Draft.steps m.registration {} m.body.members = .ok d ∧ c = d.command m.registration := by
  constructor
  · intro h
    have hsome : ∃ m, attachment? table file = some m := by
      unfold ofFile? at h
      split at h
      · cases h
      next declaration hclass =>
      split at h
      · cases h
      · cases h
      next name hname =>
      split at h
      · cases h
      next method hmethod =>
      obtain ⟨c', hc', -⟩ := map_eq_ok_iff.mp h
      unfold ofMethod at hc'
      split at hc'
      · cases hc'
      next parser hparser =>
      split at hc'
      · cases hc'
      next body hbody =>
      exact ⟨⟨⟨table, file.path, name, parser⟩, body⟩, attachment?_eq_some_iff.mpr
        ⟨rfl, rfl, declaration, method, hclass, hname, hmethod, hparser, hbody⟩⟩
    obtain ⟨m, hm⟩ := hsome
    rw [ofFile?_of_attachment? hm] at h
    obtain ⟨d, hd, hc⟩ := map_eq_ok_iff.mp h
    exact ⟨m, d, hm, hd, (Option.some.inj hc).symm⟩
  · rintro ⟨m, d, hm, hd, rfl⟩
    rw [ofFile?_of_attachment? hm]
    exact map_eq_ok_iff.mpr ⟨d, hd, rfl⟩

/-- Reading a command fails with a report on the file, or because of a group that is declared
twice. -/
theorem failsOnly_ofFile? : FailsOnly (Error.StopsReading file.path) (ofFile? table file) := by
  unfold ofFile?
  split
  · exact failsOnly_ok _
  split
  · next h =>
    unfold nameOf at h
    split at h
    · cases h
    split at h
    · cases h
    · cases h
      exact failsOnly_error (.inl Error.isAt_atNode)
  · exact failsOnly_ok _
  split
  · exact failsOnly_ok _
  refine FailsOnly.map ?_ _
  unfold ofMethod
  split
  · exact failsOnly_error (.inl Error.isAt_atNode)
  split
  · exact failsOnly_error (.inl Error.isAt_atNode)
  · exact Draft.failsOnly_steps.map _

/-- Groups and arguments agree in every command that a file declares. -/
theorem grouped_of_ofFile? (h : ofFile? table file = .ok (some c)) : c.Grouped := by
  obtain ⟨m, d, -, hd, rfl⟩ := ofFile?_eq_ok_some_iff.mp h
  have hgrouped := Draft.grouped_steps hd ⟨by simp, by simp, by simp⟩
  exact ⟨hgrouped.nodup, hgrouped.members_eq⟩

/-! ### Texts -/

/-- The text of a file with the given lines. -/
def ofLines (lines : List String) : String :=
  String.ofList (Text.join ['\n'] (lines.map String.toList))

/-- Whether a file with the given lines declares a command that satisfies `p` together with its
registration method.  The configuration is the default one. -/
def declares (path : String) (lines : List String) (p : Attachment → Command → Bool) : Bool :=
  (Node.ofText? (Text.join ['\n'] (lines.map String.toList))).any fun root =>
    (attachment? {} ⟨path, ofLines lines, root⟩).any fun m =>
      match ofFile? {} ⟨path, ofLines lines, root⟩ with
      | .ok (some c) => p m c
      | _ => false

/-- What a text declares exists.  The text is read only once, by the evaluation of `declares`, which
takes the lines apart into characters one by one. -/
theorem exists_of_declares {path : String} {lines : List String} {p : Attachment → Command → Bool}
    (h : declares path lines p = true) :
    ∃ file m c, File.ofText? path (ofLines lines) = some file ∧ attachment? {} file = some m ∧
      ofFile? {} file = .ok (some c) ∧ p m c = true := by
  obtain ⟨root, hroot, h⟩ := (Option.any_eq_true _ _).mp h
  obtain ⟨m, hm, h⟩ := (Option.any_eq_true _ _).mp h
  split at h
  · next c hc =>
    refine ⟨⟨path, ofLines lines, root⟩, m, c, ?_, hm, hc, h⟩
    rw [File.ofText?, ofLines, String.toList_ofList, hroot]
    rfl
  · cases h

theorem map_toList_of_spelled {lines : List String} {spelled : List (List Char)}
    (h : List.Forall₂ (fun l cs => l = String.ofList cs) lines spelled) :
    lines.map String.toList = spelled := by
  induction h with
  | nil => rfl
  | cons hl _ ih => rw [List.map_cons, ih, hl, String.toList_ofList]

/-- The evaluation of `declares` on lines that are spelled out: taking a string apart is what the
kernel is slowest at. -/
theorem declares_of_spelled {path : String} {lines : List String} {spelled : List (List Char)}
    {p : Attachment → Command → Bool}
    (hspelled : List.Forall₂ (fun l cs => l = String.ofList cs) lines spelled)
    (h : ((Node.ofText? (Text.join ['\n'] spelled)).any fun root =>
      (attachment? {} ⟨path, ofLines lines, root⟩).any fun m =>
        match ofFile? {} ⟨path, ofLines lines, root⟩ with
        | .ok (some c) => p m c
        | _ => false) = true) :
    declares path lines p = true := by
  rw [declares, map_toList_of_spelled hspelled]
  exact h

end Command

end RpcBindings
