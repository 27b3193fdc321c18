import RpcBindings.Model
import RpcBindings.Proofs.Fallible
import RpcBindings.Proofs.Outermost

/-!
# Models follow their sources

The model of a checkout is collected file by file.  It holds what the files declare, nothing else,
and in the order of the sources.

## Main definitions

* `Declaration.InOrder` — the declarations of nodes in the order in which these stand in a file.
* `Model.FollowsSources` — what the files of a checkout declare, in order.

## Main results

* `Source.Node.outermost_sublist_preorder` — a search for outermost nodes keeps their order.
* `Model.ofCheckout_eq_ok_iff` — **the specification of `Model.ofCheckout`.**
-/

namespace RpcBindings

open Fallible Source

variable {c : Config} {k : Checkout} {m m' : Model} {f : File}

/-! ### Nodes in their order -/

namespace Source.Node

theorem sublist_preorder_self (n : Node) : [n].Sublist n.preorder := by
  rw [preorder_eq]
  exact List.Sublist.cons_cons n (List.nil_sublist _)

/-- Trees stand among all nodes in their order. -/
theorem sublist_preorders (ns : List Node) : ns.Sublist (preorders ns) := by
  induction ns with
  | nil => exact List.nil_sublist _
  | cons n ns ih =>
    rw [preorders]
    exact (sublist_preorder_self n).append ih

theorem members_sublist_preorder (n : Node) (p : Node → Bool) :
    (n.members.filter p).Sublist n.preorder := by
  have hchildren : (n.members.filter p).Sublist n.children :=
    List.filter_sublist.trans List.filter_sublist
  rw [preorder_eq]
  exact (hchildren.trans (sublist_preorders n.children)).cons n

theorem outermost_sublist_preorder (p : Node → Bool) (n : Node) :
    (n.outermost p).Sublist n.preorder := by
  have hpositions := Position.outermost_sublist_subtree (fun q => p q.node) ⟨n, []⟩
  have hnodes := hpositions.map Position.node
  rwa [Position.map_node_outermost, Position.subtree, Position.map_node_within] at hnodes

end Source.Node

/-! ### Declarations in their order -/

/-- The declarations of nodes of a file, in the order in which the nodes stand in the file. -/
def Declaration.InOrder (pre : String) (f : File) (ds : List Declaration) : Prop :=
  ∃ ns : List Node, ns.Sublist f.root.preorder ∧
    List.Forall₂ (fun n d => Declaration.ofNode pre f.path n = .ok d) ns ds

theorem Declaration.inOrder_of_outermost {pre : String} {ds : List Declaration}
    (h : Declaration.outermost pre f = .ok ds) : Declaration.InOrder pre f ds :=
  ⟨_, Node.outermost_sublist_preorder _ f.root, mapM_eq_ok_iff.mp h⟩

theorem Declaration.inOrder_of_topLevel {pre : String} {ds : List Declaration}
    (h : Declaration.topLevel pre f = .ok ds) : Declaration.InOrder pre f ds :=
  ⟨_, Node.members_sublist_preorder f.root _, mapM_eq_ok_iff.mp h⟩

/-! ### Models -/

namespace Model

/-- The command of a file, if it has one. -/
def commandOf (c : Config) (f : File) : Except Error (Option Resolved) := do
  (← Command.ofFile? c.commands f).mapM Command.resolve

/-- The model holds what the files of a checkout declare, file by file and in the order of each
file. -/
structure FollowsSources (c : Config) (k : Checkout) (m : Model) : Prop where
  commands : ∃ found, List.Forall₂ (fun f r => commandOf c f = .ok r) k.commands found ∧
    m.commands = found.flatMap Option.toList
  outputs : ∃ found,
    List.Forall₂ (fun f ds => Declaration.outermost c.records.namePrefix f = .ok ds ∧
      Declaration.InOrder c.records.namePrefix f ds) k.commands found ∧ m.outputs = found.flatten
  types : ∃ found,
    List.Forall₂ (fun f ds => Declaration.topLevel c.records.namePrefix f = .ok ds ∧
      Declaration.InOrder c.records.namePrefix f ds) k.json found ∧ m.types = found.flatten

theorem addCommandFile_eq_ok_iff :
    addCommandFile c m f = .ok m' ↔
      ∃ r ds, commandOf c f = .ok r ∧ Declaration.outermost c.records.namePrefix f = .ok ds ∧
        m' = { m with commands := m.commands ++ r.toList, outputs := m.outputs ++ ds } := by
  unfold addCommandFile commandOf
  constructor
  · intro h
    obtain ⟨command, hcommand, h⟩ := bind_eq_ok_iff.mp h
    obtain ⟨r, hr, h⟩ := bind_eq_ok_iff.mp h
    obtain ⟨ds, hds, h⟩ := bind_eq_ok_iff.mp h
    exact ⟨r, ds, bind_eq_ok_iff.mpr ⟨command, hcommand, hr⟩, hds, (Except.ok.inj h).symm⟩
  · rintro ⟨r, ds, hr, hds, rfl⟩
    obtain ⟨command, hcommand, hr⟩ := bind_eq_ok_iff.mp hr
    refine bind_eq_ok_iff.mpr ⟨command, hcommand, bind_eq_ok_iff.mpr ⟨r, hr, ?_⟩⟩
    exact bind_eq_ok_iff.mpr ⟨ds, hds, rfl⟩

theorem addRecordFile_eq_ok_iff :
    addRecordFile c m f = .ok m' ↔
      ∃ ds, Declaration.topLevel c.records.namePrefix f = .ok ds ∧
        m' = { m with types := m.types ++ ds } := by
  unfold addRecordFile
  rw [bind_eq_ok_iff]
  refine exists_congr fun ds => and_congr_right fun _ => ?_
  constructor
  · intro h
    exact (Except.ok.inj h).symm
  · rintro rfl
    rfl

/-- What the files with command classes add to a model. -/
theorem addCommandFiles_eq_ok_iff {fs : List File} :
    fs.foldlM (addCommandFile c) m = .ok m' ↔
      ∃ rs dss, List.Forall₂ (fun f r => commandOf c f = .ok r) fs rs ∧
        List.Forall₂ (fun f ds => Declaration.outermost c.records.namePrefix f = .ok ds) fs dss ∧
        m' = { m with commands := m.commands ++ rs.flatMap Option.toList
                      outputs := m.outputs ++ dss.flatten } := by
  induction fs generalizing m with
  | nil =>
    constructor
    · intro h
      cases h
      exact ⟨[], [], .nil, .nil, by simp⟩
    · rintro ⟨rs, dss, hrs, hdss, rfl⟩
      cases hrs
      cases hdss
      simp [pure, Except.pure]
  | cons f fs ih =>
    rw [foldlM_cons_eq_ok_iff]
    constructor
    · rintro ⟨next, hnext, hrest⟩
      obtain ⟨r, ds, hr, hds, rfl⟩ := addCommandFile_eq_ok_iff.mp hnext
      obtain ⟨rs, dss, hrs, hdss, rfl⟩ := ih.mp hrest
      exact ⟨r :: rs, ds :: dss, .cons hr hrs, .cons hds hdss, by simp⟩
    · rintro ⟨_, _, hrs, hdss, rfl⟩
      cases hrs with
      | cons hr hrs =>
        cases hdss with
        | cons hds hdss =>
          refine ⟨_, addCommandFile_eq_ok_iff.mpr ⟨_, _, hr, hds, rfl⟩, ?_⟩
          exact ih.mpr ⟨_, _, hrs, hdss, by simp⟩

/-- What the files with records add to a model. -/
theorem addRecordFiles_eq_ok_iff {fs : List File} :
    fs.foldlM (addRecordFile c) m = .ok m' ↔
      ∃ dss,
        List.Forall₂ (fun f ds => Declaration.topLevel c.records.namePrefix f = .ok ds) fs dss ∧
        m' = { m with types := m.types ++ dss.flatten } := by
  induction fs generalizing m with
  | nil =>
    constructor
    · intro h
      cases h
      exact ⟨[], .nil, by simp⟩
    · rintro ⟨dss, hdss, rfl⟩
      cases hdss
      simp [pure, Except.pure]
  | cons f fs ih =>
    rw [foldlM_cons_eq_ok_iff]
    constructor
    · rintro ⟨next, hnext, hrest⟩
      obtain ⟨ds, hds, rfl⟩ := addRecordFile_eq_ok_iff.mp hnext
      obtain ⟨dss, hdss, rfl⟩ := ih.mp hrest
      exact ⟨ds :: dss, .cons hds hdss, by simp⟩
    · rintro ⟨_, hdss, rfl⟩
      cases hdss with
      | cons hds hdss =>
        refine ⟨_, addRecordFile_eq_ok_iff.mpr ⟨_, hds, rfl⟩, ?_⟩
        exact ih.mpr ⟨_, hdss, by simp⟩

/-- **The specification of `Model.ofCheckout`.** -/
theorem ofCheckout_eq_ok_iff : Model.ofCheckout c k = .ok m ↔ m.FollowsSources c k := by
  unfold Model.ofCheckout
  constructor
  · intro h
    obtain ⟨middle, hmiddle, h⟩ := bind_eq_ok_iff.mp h
    obtain ⟨rs, dss, hrs, hdss, rfl⟩ := addCommandFiles_eq_ok_iff.mp hmiddle
    obtain ⟨tss, htss, rfl⟩ := addRecordFiles_eq_ok_iff.mp h
    have houtputs := hdss.imp fun f ds hds => And.intro hds (Declaration.inOrder_of_outermost hds)
    have htypes := htss.imp fun f ds hds => And.intro hds (Declaration.inOrder_of_topLevel hds)
    exact ⟨⟨rs, hrs, by simp⟩, ⟨dss, houtputs, by simp⟩, ⟨tss, htypes, by simp⟩⟩
  · rintro ⟨⟨rs, hrs, hcommands⟩, ⟨dss, hdss, houtputs⟩, ⟨tss, htss, htypes⟩⟩
    have houtermost := hdss.imp fun f ds h => h.1
    have htopLevel := htss.imp fun f ds h => h.1
    have hmodel : m = ⟨rs.flatMap Option.toList, dss.flatten, tss.flatten⟩ := by
      rw [← hcommands, ← houtputs, ← htypes]
    refine bind_eq_ok_iff.mpr ⟨_, addCommandFiles_eq_ok_iff.mpr ⟨rs, dss, hrs, houtermost, rfl⟩, ?_⟩
    exact addRecordFiles_eq_ok_iff.mpr ⟨tss, htopLevel, by rw [hmodel]; simp⟩

end Model

end RpcBindings
