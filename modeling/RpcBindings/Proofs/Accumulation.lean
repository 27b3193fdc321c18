import RpcBindings.Proofs.ImportBlock
import Mathlib.Data.List.Sort
import Mathlib.Data.String.Basic

/-!
# Histories of imports

Imports are accumulated by steps, and whole accumulations are merged.  What a history has collected
is known from the names that it adds, in whatever order and grouping: the modules are always in
ascending order, and so are the names of each of them, so that two histories which add the same
names collect the same.

## Main definitions

* `Imports.History` — steps of accumulation, and merges of what was accumulated elsewhere.
* `Imports.History.imports`, `Imports.History.added` — what a history collects, and what it adds.
* `Imports.IsOrdered` — modules and names in ascending order, and no module without names.

## Main results

* `Imports.History.isOrdered_imports` — every history collects in order.
* `Imports.History.mem_namesFrom_imports` — a history collects what it adds.
* `Imports.History.modules_eq_of_added` — **what is collected depends on what is added**, and on
  nothing else.
-/

namespace RpcBindings

/-! ### Sorted lists -/

namespace Sorted

variable {α : Type} {k x : String} {v : α} {xs ys : List String} {m : List (String × α)}

theorem pairwise_insert (h : xs.Pairwise (· < ·)) : (insert x xs).Pairwise (· < ·) := by
  induction xs with
  | nil => exact List.pairwise_singleton _ x
  | cons y ys ih =>
    obtain ⟨hy, hys⟩ := List.pairwise_cons.mp h
    rw [insert]
    split
    · next hlt =>
      refine List.pairwise_cons.mpr ⟨fun z hz => ?_, h⟩
      rcases List.mem_cons.mp hz with rfl | hz
      · exact hlt
      · exact lt_trans hlt (hy z hz)
    · next hlt =>
      split
      · exact h
      · next hne =>
        refine List.pairwise_cons.mpr ⟨fun z hz => ?_, ih hys⟩
        rcases mem_insert.mp hz with rfl | hz
        · exact lt_of_le_of_ne (not_lt.mp hlt) (Ne.symm hne)
        · exact hy z hz

theorem insert_ne_nil (x : String) (xs : List String) : insert x xs ≠ [] := by
  intro h
  have hmem : x ∈ insert x xs := mem_insert.mpr (.inl rfl)
  rw [h] at hmem
  cases hmem

/-- The keys of a map are in ascending order. -/
def KeysAscend (m : List (String × α)) : Prop :=
  m.Pairwise fun p q => p.1 < q.1

theorem KeysAscend.put (h : KeysAscend m) : KeysAscend (put k v m) := by
  induction m with
  | nil => exact List.pairwise_singleton _ _
  | cons p m ih =>
    obtain ⟨l, w⟩ := p
    obtain ⟨hl, hm⟩ := List.pairwise_cons.mp h
    rw [Sorted.put]
    split
    · next hlt =>
      refine List.pairwise_cons.mpr ⟨fun q hq => ?_, h⟩
      rcases List.mem_cons.mp hq with rfl | hq
      · exact hlt
      · exact lt_trans hlt (hl q hq)
    · next hlt =>
      split
      · next heq =>
        subst heq
        exact List.pairwise_cons.mpr ⟨hl, hm⟩
      · next hne =>
        refine List.pairwise_cons.mpr ⟨fun q hq => ?_, ih hm⟩
        rcases mem_of_mem_put hq with hq | hq
        · rw [hq]
          exact lt_of_le_of_ne (not_lt.mp hlt) (Ne.symm hne)
        · exact hl q hq

/-- Each entry of a map with ascending keys is found under its key. -/
theorem KeysAscend.get?_eq_some_iff (h : KeysAscend m) : get? k m = some v ↔ (k, v) ∈ m := by
  refine ⟨mem_of_get?_eq_some, fun hmem => ?_⟩
  induction m with
  | nil => cases hmem
  | cons p m ih =>
    obtain ⟨l, w⟩ := p
    obtain ⟨hl, hm⟩ := List.pairwise_cons.mp h
    rw [get?]
    rcases List.mem_cons.mp hmem with heq | hmem
    · cases heq
      exact if_pos rfl
    · rw [if_neg (ne_of_gt (hl _ hmem))]
      exact ih hm hmem

/-- Lists in strictly ascending order are known from their members. -/
theorem eq_of_mem_iff {β : Type} {r : β → β → Prop} [Std.Asymm r] {as bs : List β}
    (has : as.Pairwise r) (hbs : bs.Pairwise r) (h : ∀ a, a ∈ as ↔ a ∈ bs) : as = bs := by
  have hnodup : ∀ {cs : List β}, cs.Pairwise r → cs.Nodup := by
    intro cs hcs
    refine List.Pairwise.imp ?_ hcs
    rintro a _ hab rfl
    exact Std.Asymm.asymm a a hab hab
  have hperm := (List.perm_ext_iff_of_nodup (hnodup has) (hnodup hbs)).mpr h
  exact hperm.eq_of_pairwise (fun a b _ _ hab hba => absurd hba (Std.Asymm.asymm a b hab)) has hbs

end Sorted

namespace Imports

/-! ### Imports in order -/

variable {i j : Imports} {module name k x : String}

/-- The modules are in ascending order, each with some names in ascending order. -/
structure IsOrdered (i : Imports) : Prop where
  modules : Sorted.KeysAscend i.modules
  names : ∀ p ∈ i.modules, p.2.Pairwise (· < ·)
  nonempty : ∀ p ∈ i.modules, p.2 ≠ []

theorem isOrdered_empty : IsOrdered {} where
  modules := List.Pairwise.nil
  names := by simp
  nonempty := by simp

theorem IsOrdered.pairwise_namesFrom (h : i.IsOrdered) : (i.namesFrom k).Pairwise (· < ·) := by
  rw [namesFrom]
  cases hget : Sorted.get? k i.modules with
  | none => exact List.Pairwise.nil
  | some names => exact h.names _ (Sorted.mem_of_get?_eq_some hget)

/-- A module stands with all the names that are collected for it. -/
theorem IsOrdered.namesFrom_eq (h : i.IsOrdered) {names : List String}
    (hmem : (k, names) ∈ i.modules) : i.namesFrom k = names := by
  rw [namesFrom, h.modules.get?_eq_some_iff.mpr hmem, Option.getD_some]

theorem IsOrdered.mem_modules_iff (h : i.IsOrdered) {names : List String} :
    (k, names) ∈ i.modules ↔ i.namesFrom k = names ∧ names ≠ [] := by
  constructor
  · exact fun hmem => ⟨h.namesFrom_eq hmem, h.nonempty _ hmem⟩
  · rintro ⟨rfl, hne⟩
    obtain ⟨x, hx⟩ := List.exists_mem_of_ne_nil _ hne
    obtain ⟨names, hmem, -⟩ := exists_of_mem_namesFrom hx
    rwa [h.namesFrom_eq hmem]

theorem IsOrdered.add (h : i.IsOrdered) : (i.add module name).IsOrdered := by
  have hmodules : Sorted.KeysAscend (i.add module name).modules := h.modules.put
  -- a module either has the new name inserted, or stands as it did before
  have hcases : ∀ p ∈ (i.add module name).modules,
      p.2 = Sorted.insert name (i.namesFrom module) ∨ p ∈ i.modules := by
    intro p hp
    have hget := hmodules.get?_eq_some_iff.mpr hp
    rw [Imports.add, Sorted.get?_put] at hget
    split at hget
    · exact .inl (Option.some.inj hget).symm
    · exact .inr (Sorted.mem_of_get?_eq_some hget)
  refine ⟨hmodules, fun p hp => ?_, fun p hp => ?_⟩
  · rcases hcases p hp with heq | hp
    · rw [heq]
      exact Sorted.pairwise_insert h.pairwise_namesFrom
    · exact h.names p hp
  · rcases hcases p hp with heq | hp
    · rw [heq]
      exact Sorted.insert_ne_nil name _
    · exact h.nonempty p hp

theorem IsOrdered.foldl_add (h : i.IsOrdered) (ps : List (String × String)) :
    (ps.foldl (fun i p => i.add p.1 p.2) i).IsOrdered := by
  induction ps generalizing i with
  | nil => exact h
  | cons p ps ih => exact ih h.add

/-! ### Merging -/

/-- The names of all modules, each with its module. -/
def entries (i : Imports) : List (String × String) :=
  i.modules.flatMap fun p => p.2.map fun x => (p.1, x)

theorem modules_referenceAll (names : List String) :
    (i.referenceAll names).modules = i.modules := by
  rw [referenceAll]
  induction names generalizing i with
  | nil => rfl
  | cons n names ih => exact ih

theorem foldl_addAll (ps : List (String × List String)) :
    ps.foldl (fun i p => i.addAll p.1 p.2) i =
      (ps.flatMap fun p => p.2.map fun x => (p.1, x)).foldl (fun i p => i.add p.1 p.2) i := by
  rw [List.foldl_flatMap]
  simp only [addAll, List.foldl_map]

/-- A merge adds each name of the other imports. -/
theorem modules_merge :
    (i.merge j).modules = (j.entries.foldl (fun i p => i.add p.1 p.2) i).modules := by
  rw [merge, modules_referenceAll, foldl_addAll, entries]

theorem IsOrdered.mem_entries_iff (h : i.IsOrdered) :
    (k, x) ∈ i.entries ↔ x ∈ i.namesFrom k := by
  simp only [entries, List.mem_flatMap, List.mem_map, Prod.mk.injEq]
  constructor
  · rintro ⟨⟨l, names⟩, hmem, y, hy, rfl, rfl⟩
    rwa [h.namesFrom_eq hmem]
  · intro hx
    obtain ⟨names, hmem, hx⟩ := exists_of_mem_namesFrom hx
    exact ⟨(k, names), hmem, x, hx, rfl, rfl⟩

theorem IsOrdered.of_modules_eq (h : i.IsOrdered) (heq : j.modules = i.modules) :
    j.IsOrdered where
  modules := heq ▸ h.modules
  names := heq ▸ h.names
  nonempty := heq ▸ h.nonempty

theorem IsOrdered.merge (h : i.IsOrdered) : (i.merge j).IsOrdered :=
  (h.foldl_add j.entries).of_modules_eq modules_merge

theorem namesFrom_congr (h : i.modules = j.modules) : i.namesFrom k = j.namesFrom k := by
  rw [namesFrom, namesFrom, h]

theorem IsOrdered.mem_namesFrom_merge (hj : j.IsOrdered) :
    x ∈ (i.merge j).namesFrom k ↔ x ∈ i.namesFrom k ∨ x ∈ j.namesFrom k := by
  rw [namesFrom_congr modules_merge, mem_namesFrom_foldl_add, hj.mem_entries_iff, or_comm]

/-- Imports in order are known from the names that are collected. -/
theorem IsOrdered.modules_eq (hi : i.IsOrdered) (hj : j.IsOrdered)
    (h : ∀ k x, x ∈ i.namesFrom k ↔ x ∈ j.namesFrom k) : i.modules = j.modules := by
  have hnames : ∀ k, i.namesFrom k = j.namesFrom k := fun k =>
    Sorted.eq_of_mem_iff hi.pairwise_namesFrom hj.pairwise_namesFrom (h k)
  have : Std.Asymm fun p q : String × List String => p.1 < q.1 := ⟨fun _ _ => lt_asymm⟩
  refine Sorted.eq_of_mem_iff hi.modules hj.modules ?_
  rintro ⟨k, names⟩
  rw [hi.mem_modules_iff, hj.mem_modules_iff, hnames]

/-! ### Histories -/

/-- Steps that accumulate imports, from the first one on.  What is merged has a history of its
own. -/
inductive History
  | start
  | add (h : History) (module name : String)
  | reference (h : History) (name : String)
  | merge (h g : History)
  deriving DecidableEq, Repr

namespace History

/-- What a history collects. -/
def imports : History → Imports
  | start => {}
  | add h module name => h.imports.add module name
  | reference h name => h.imports.reference name
  | merge h g => h.imports.merge g.imports

/-- The names that a history adds, directly or by merges, each with its module. -/
def added : History → List (String × String)
  | start => []
  | add h module name => (module, name) :: h.added
  | reference h _ => h.added
  | merge h g => h.added ++ g.added

variable {h g : History}

/-- **Every history collects in order.** -/
theorem isOrdered_imports (h : History) : h.imports.IsOrdered := by
  induction h with
  | start => exact isOrdered_empty
  | add h module name ih => exact ih.add
  | reference h name ih => exact ih.of_modules_eq rfl
  | merge h g ih _ => exact ih.merge

/-- **A history collects what it adds.** -/
theorem mem_namesFrom_imports : x ∈ h.imports.namesFrom k ↔ (k, x) ∈ h.added := by
  induction h with
  | start => simp [imports, added, namesFrom, Sorted.get?]
  | add h module name ih => rw [imports, mem_namesFrom_add, ih, added, List.mem_cons, Prod.mk.injEq]
  | reference h name ih => exact ih
  | merge h g ih ih' =>
    rw [imports, g.isOrdered_imports.mem_namesFrom_merge, ih, ih', added, List.mem_append]

/-- **What is collected depends on what is added**, and on nothing else. -/
theorem modules_eq_of_added (hadded : ∀ p, p ∈ h.added ↔ p ∈ g.added) :
    h.imports.modules = g.imports.modules := by
  refine h.isOrdered_imports.modules_eq g.isOrdered_imports fun k x => ?_
  rw [mem_namesFrom_imports, mem_namesFrom_imports, hadded]

end History

end Imports

end RpcBindings
