import RpcBindings.Proofs.Registration
import RpcBindings.Proofs.Tree

/-!
# Calls and the arguments they register

A command class registers an argument with each call of `addArgument`, and such a call may stand
anywhere in a statement.  A statement is searched for its first call only: a command has an argument
for each call exactly when no statement holds a second one, and has fewer arguments otherwise.

## Main definitions

* `Registration.calls`, `Attachment.calls` — the calls in a statement, and in the whole body.
* `Registration.Covers` — nothing in a statement is overlooked.

## Main results

* `Attachment.map_node_calls` — the calls in the statements are all calls below the body.
* `Command.arguments_cover_calls` — **a command has an argument for each call, or fewer than
  calls.**
-/

namespace RpcBindings

open Fallible Source

/-- Members that contribute nothing need not be left out before. -/
theorem flatMap_filter_of_eq_nil {α β : Type} {p : α → Bool} {f : α → List β} {xs : List α}
    (h : ∀ x ∈ xs, p x = false → f x = []) : (xs.filter p).flatMap f = xs.flatMap f := by
  induction xs with
  | nil => rfl
  | cons x xs ih =>
    obtain ⟨hx, hxs⟩ := List.forall_mem_cons.mp h
    rw [List.flatMap_cons, ← ih hxs]
    cases hp : p x with
    | false => rw [List.filter_cons_of_neg (by rw [hp]; simp), hx hp, List.nil_append]
    | true => rw [List.filter_cons_of_pos hp, List.flatMap_cons]

/-! ### The calls in a statement -/

namespace Registration

variable {r : Registration} {s : Node} {ss : List Node}

/-- The positions of the calls that register arguments, wherever they stand in a statement. -/
def calls (s : Node) : List Position :=
  (Position.all s).filter fun p => p.node.isCallOf "addArgument"

/-- Nothing in the statement is overlooked: it holds one call at most, and none if it sets the help
text. -/
def Covers (r : Registration) (s : Node) : Prop :=
  (calls s).length ≤ if (r.helpCall? s).isSome then 0 else 1

instance (r : Registration) (s : Node) : Decidable (r.Covers s) :=
  inferInstanceAs (Decidable (_ ≤ _))

theorem argumentCall?_eq_head? (s : Node) : argumentCall? s = (calls s).head? := by
  rw [calls, List.head?_filter]
  rfl

theorem map_node_calls (s : Node) :
    (calls s).map Position.node = s.preorder.filter fun n => n.isCallOf "addArgument" := by
  rw [← Position.map_node_all, List.filter_map]
  rfl

/-- A statement registers by its first call or not at all. -/
theorem toList_registering? (r : Registration) (s : Node) :
    (r.registering? s).toList = if (r.helpCall? s).isSome then [] else (calls s).take 1 := by
  unfold registering?
  split
  · rfl
  · rw [argumentCall?_eq_head?]
    cases calls s with
    | nil => rfl
    | cons p ps => rfl

theorem Covers.toList_registering? (h : r.Covers s) : (r.registering? s).toList = calls s := by
  rw [Registration.toList_registering?]
  unfold Covers at h
  split at h
  · next hhelp => rw [if_pos hhelp, List.length_eq_zero_iff.mp (Nat.le_zero.mp h)]
  · next hhelp => rw [if_neg hhelp, List.take_of_length_le h]

/-- Where all statements are covered, every call registers. -/
theorem flatMap_calls_of_covers (h : ∀ s ∈ ss, r.Covers s) :
    ss.flatMap calls = ss.filterMap r.registering? := by
  induction ss with
  | nil => rfl
  | cons s ss ih =>
    obtain ⟨hs, hss⟩ := List.forall_mem_cons.mp h
    rw [List.flatMap_cons, ih hss, ← hs.toList_registering?]
    cases hp : r.registering? s with
    | none => rw [List.filterMap_cons_none hp]; rfl
    | some p => rw [List.filterMap_cons_some hp]; rfl

theorem length_registering?_le (r : Registration) (s : Node) :
    (r.registering? s).toList.length ≤ (calls s).length := by
  rw [toList_registering?]
  split
  · exact Nat.zero_le _
  · rw [List.length_take]
    exact Nat.min_le_right _ _

/-- A statement that is not covered has calls that do not register. -/
theorem length_registering?_lt (h : ¬ r.Covers s) :
    (r.registering? s).toList.length < (calls s).length := by
  rw [toList_registering?]
  unfold Covers at h
  split at h
  · next hhelp =>
    rw [if_pos hhelp, List.length_nil]
    omega
  · next hhelp =>
    rw [if_neg hhelp, List.length_take]
    omega

theorem length_filterMap_registering?_cons (r : Registration) (s : Node) (ss : List Node) :
    ((s :: ss).filterMap r.registering?).length
      = (r.registering? s).toList.length + (ss.filterMap r.registering?).length := by
  cases hp : r.registering? s with
  | none => rw [List.filterMap_cons_none hp]; simp
  | some p => rw [List.filterMap_cons_some hp]; simp [Nat.add_comm]

theorem length_filterMap_registering?_le (r : Registration) (ss : List Node) :
    (ss.filterMap r.registering?).length ≤ (ss.flatMap calls).length := by
  induction ss with
  | nil => exact Nat.le_refl _
  | cons s ss ih =>
    have hs := r.length_registering?_le s
    rw [length_filterMap_registering?_cons, List.flatMap_cons, List.length_append]
    omega

/-- One statement that is not covered is enough for the calls to outnumber the arguments. -/
theorem length_filterMap_registering?_lt (hs : s ∈ ss) (hnot : ¬ r.Covers s) :
    (ss.filterMap r.registering?).length < (ss.flatMap calls).length := by
  -- the other statements register at most as often as they call, and cannot make up for it
  induction ss with
  | nil => cases hs
  | cons t ss ih =>
    rw [length_filterMap_registering?_cons, List.flatMap_cons, List.length_append]
    rcases List.mem_cons.mp hs with rfl | hs
    · have hlt := length_registering?_lt hnot
      have hle := r.length_filterMap_registering?_le ss
      omega
    · have hlt := ih hs
      have hle := r.length_registering?_le t
      omega

end Registration

/-! ### The calls in a body -/

namespace Attachment

variable {m : Attachment}

/-- The positions of the calls that register arguments, in all statements of the body. -/
def calls (m : Attachment) : List Position :=
  m.body.members.flatMap Registration.calls

/-- What is no statement holds no call. -/
theorem filter_preorder_of_notMem_members {body c : Node} (h : body.CommentsAreLeaves)
    (hc : c ∈ body.children) (hnot : c ∉ body.members) :
    c.preorder.filter (fun n => n.isCallOf "addArgument") = [] := by
  obtain ⟨hself, hkind⟩ := Node.preorder_of_notMem_members h hc hnot
  rw [hself, List.filter_eq_nil_iff]
  intro n hn hcall
  rw [List.mem_singleton.mp hn] at hcall
  have hcall : c.kind? = some .methodInvocation := by
    simpa [Node.is] using (Bool.and_eq_true_iff.mp hcall).1
  rcases hkind with hkind | hkind
  · rw [hkind] at hcall
    cases hcall
  · rw [Node.isComment, hcall] at hkind
    simp [Kind.isComment] at hkind

/-- **The calls in the statements are all calls below the body.** -/
theorem map_node_calls (h : m.body.CommentsAreLeaves) :
    m.calls.map Position.node
      = (Node.preorders m.body.children).filter fun n => n.isCallOf "addArgument" := by
  rw [calls, List.map_flatMap, Node.preorders_eq_flatMap, List.filter_flatMap]
  simp only [Registration.map_node_calls]
  refine flatMap_filter_of_eq_nil fun c hc hmember => ?_
  refine filter_preorder_of_notMem_members h hc fun hmem => ?_
  rw [(List.mem_filter.mp hmem).2] at hmember
  cases hmember

end Attachment

/-! ### The arguments of a command -/

namespace Command

variable {table : CommandTable} {path text : String} {file : File} {m : Attachment}

theorem commentsAreLeaves_body (hfile : File.ofText? path text = some file)
    (hm : attachment? table file = some m) : m.body.CommentsAreLeaves := by
  obtain ⟨-, -, declaration, method, hclass, -, hmethod, -, hbody⟩ := attachment?_eq_some_iff.mp hm
  have hdeclaration := (File.commentsAreLeaves hfile).of_mem (Node.mem_preorder_of_find? hclass)
  obtain ⟨classBody, hclassBody, hmethod⟩ := Option.bind_eq_some_iff.mp hmethod
  have hmembers := hdeclaration.of_mem (Node.mem_preorder_of_child? hclassBody)
  have hmethod := hmembers.of_mem
    (Node.mem_preorder_of_mem_members (List.mem_of_find?_eq_some hmethod))
  exact hmethod.of_mem (Node.mem_preorder_of_child? hbody)

/-- **A command has an argument for each call, or fewer arguments than calls.**  If no arguments are
excluded, the arguments are those that the calls below the body of the registration method register,
one for each call and in their order, as long as every statement is covered.  One statement that is
not makes the command lose arguments.  Whatever else is wrong with the file is reported. -/
theorem arguments_cover_calls (hexcluded : table.excludedArgs = [])
    (hfile : File.ofText? path text = some file) :
    (∀ c, ofFile? table file = .ok (some c) →
      ∃ m, attachment? table file = some m ∧
        m.calls.map Position.node
          = (Node.preorders m.body.children).filter (fun n => n.isCallOf "addArgument") ∧
        ((∀ s ∈ m.body.members, m.registration.Covers s) →
          List.Forall₂ (m.registration.Registers c.groups) m.calls c.arguments) ∧
        ((∃ s ∈ m.body.members, ¬ m.registration.Covers s) →
          c.arguments.length < m.calls.length)) ∧
      FailsOnly (Error.StopsReading file.path) (ofFile? table file) := by
  refine ⟨fun c hc => ?_, failsOnly_ofFile?⟩
  obtain ⟨m, d, hm, hd, rfl⟩ := ofFile?_eq_ok_some_iff.mp hc
  obtain ⟨as, has, heq⟩ := Draft.arguments_steps hd
  -- nothing is excluded, so that every registered argument is kept
  have hkeep : ∀ a ∈ as,
      (!m.registration.table.isExcluded m.registration.command a.name) = true := by
    intro a _
    rw [(attachment?_eq_some_iff.mp hm).1, CommandTable.isExcluded, hexcluded]
    rfl
  rw [List.filter_eq_self.mpr hkeep, List.nil_append] at heq
  have harguments : (d.command m.registration).arguments = as := heq
  refine ⟨m, hm, Attachment.map_node_calls (commentsAreLeaves_body hfile hm), ?_, ?_⟩
  · intro hcovers
    rw [harguments, Attachment.calls, Registration.flatMap_calls_of_covers hcovers]
    exact has
  · rintro ⟨s, hs, hnot⟩
    rw [harguments, ← has.length_eq]
    exact Registration.length_filterMap_registering?_lt hs hnot

/-- A command with two registrations in one statement. -/
def twoInOneStatement : List String :=
  ["class SendCommand implements JsonRpcLocalCommand \x7b",
   "String getName() \x7b return \"send\"; \x7d",
   "void attachToSubparser(Subparser p) \x7b",
   "if (full) \x7b p.addArgument(\"--a\"); p.addArgument(\"--b\"); \x7d",
   "\x7d \x7d"]

theorem declares_twoInOneStatement :
    declares "SendCommand.java" twoInOneStatement (fun m c =>
      c.arguments.length == 1 && m.calls.length == 2 &&
        m.body.members.any fun s => !decide (m.registration.Covers s)) = true := by
  exact declares_of_spelled (by repeat constructor) (by decide +kernel)

/-- The second call in the statement registers nothing, and nothing is reported. -/
theorem second_call_loses_argument :
    ∃ file m c, File.ofText? "SendCommand.java" (ofLines twoInOneStatement) = some file ∧
      attachment? {} file = some m ∧ ofFile? {} file = .ok (some c) ∧
        m.calls.length = 2 ∧ c.arguments.length = 1 := by
  obtain ⟨file, m, c, hfile, hm, hc, h⟩ := exists_of_declares declares_twoInOneStatement
  simp only [Bool.and_eq_true, beq_iff_eq] at h
  exact ⟨file, m, c, hfile, hm, hc, h.1.2, h.1.1⟩

theorem twoInOneStatement_arguments_cover_calls :
    ∃ file c m, File.ofText? "SendCommand.java" (ofLines twoInOneStatement) = some file ∧
      ofFile? {} file = .ok (some c) ∧ attachment? {} file = some m ∧
        c.arguments.length < m.calls.length := by
  obtain ⟨file, m, c, hfile, hm, hc, h⟩ := exists_of_declares declares_twoInOneStatement
  simp only [Bool.and_eq_true, List.any_eq_true, Bool.not_eq_true', decide_eq_false_iff_not] at h
  obtain ⟨m', hm', -, -, hless⟩ := (arguments_cover_calls rfl hfile).1 c hc
  rw [hm] at hm'
  cases hm'
  exact ⟨file, c, m, hfile, hc, hm, hless h.2⟩

end Command

end RpcBindings
