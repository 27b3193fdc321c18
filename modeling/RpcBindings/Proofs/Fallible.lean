import RpcBindings.Error
import Mathlib.Data.List.Forall2

/-!
# Steps that can fail

When a sequence of steps that can fail succeeds, and with which result; and which errors it can fail
with.

## Main definitions

* `FailsOnly` — a step has no errors but those of one sort.

## Main results

* `bind_eq_ok_iff`, `bind_eq_error_iff`, `map_eq_ok_iff` — two steps, and a step whose result is
  changed.
* `mapM_eq_ok_iff` — the same step for each member of a list.
* `foldlM_cons_eq_ok_iff` — a state that is passed from step to step.
* `foldlM_commute` — what commutes with each step commutes with all of them.
* `FailsOnly.foldlM` — which has no errors but those of the steps.
-/

namespace RpcBindings.Fallible

variable {ε α β : Type}

/-- Two steps succeed when the first does and the second does on its result. -/
theorem bind_eq_ok_iff {x : Except ε α} {f : α → Except ε β} {b : β} :
    (x >>= f) = .ok b ↔ ∃ a, x = .ok a ∧ f a = .ok b := by
  cases x with
  | error e =>
    constructor
    · intro h; cases h
    · rintro ⟨a, ha, _⟩; cases ha
  | ok a =>
    constructor
    · intro h; exact ⟨a, rfl, h⟩
    · rintro ⟨a', ha, h⟩; cases ha; exact h

/-- Two steps fail when the first does, or when the second does on its result. -/
theorem bind_eq_error_iff {x : Except ε α} {f : α → Except ε β} {e : ε} :
    (x >>= f) = .error e ↔ x = .error e ∨ ∃ a, x = .ok a ∧ f a = .error e := by
  cases x with
  | error e' =>
    constructor
    · intro h; cases h; exact .inl rfl
    · rintro (h | ⟨a, ha, _⟩)
      · cases h; rfl
      · cases ha
  | ok a =>
    constructor
    · intro h; exact .inr ⟨a, rfl, h⟩
    · rintro (h | ⟨a', ha, h⟩)
      · cases h
      · cases ha; exact h

theorem map_eq_ok_iff {x : Except Error α} {f : α → β} {b : β} :
    x.map f = .ok b ↔ ∃ a, x = .ok a ∧ f a = b := by
  cases x with
  | error e => simp [Except.map]
  | ok a => simp [Except.map]

/-- A step for each member of a list succeeds when all of them do. -/
theorem mapM_eq_ok_iff {f : α → Except Error β} {xs : List α} {ys : List β} :
    xs.mapM f = .ok ys ↔ List.Forall₂ (fun x y => f x = .ok y) xs ys := by
  induction xs generalizing ys with
  | nil =>
    rw [List.mapM_nil, List.forall₂_nil_left_iff]
    exact ⟨fun h => (Except.ok.inj h).symm, fun h => by rw [h]; rfl⟩
  | cons x xs ih =>
    rw [List.mapM_cons, List.forall₂_cons_left_iff, bind_eq_ok_iff]
    constructor
    · rintro ⟨y, hy, h⟩
      obtain ⟨ys', hys, h⟩ := bind_eq_ok_iff.mp h
      exact ⟨y, ys', hy, ih.mp hys, (Except.ok.inj h).symm⟩
    · rintro ⟨y, ys', hy, hys, rfl⟩
      exact ⟨y, hy, bind_eq_ok_iff.mpr ⟨ys', ih.mpr hys, rfl⟩⟩

/-- A step for each member of a list has results exactly if it succeeds on each. -/
theorem exists_mapM_eq_ok_iff {f : α → Except Error β} {xs : List α} :
    (∃ ys, xs.mapM f = .ok ys) ↔ ∀ x ∈ xs, ∃ y, f x = .ok y := by
  simp only [mapM_eq_ok_iff]
  induction xs with
  | nil => simp
  | cons x xs ih => simp [List.forall₂_cons_left_iff, ← ih]

theorem exists_eq_error_iff {x : Except Error α} : (∃ e, x = .error e) ↔ ¬∃ a, x = .ok a := by
  cases x <;> simp

theorem exists_mapM_eq_error_iff {f : α → Except Error β} {xs : List α} :
    (∃ e, xs.mapM f = .error e) ↔ ∃ x ∈ xs, ∃ e, f x = .error e := by
  simp only [exists_eq_error_iff, exists_mapM_eq_ok_iff, not_forall, exists_prop]

theorem foldlM_cons_eq_ok_iff {f : β → α → Except Error β} {x : α} {xs : List α} {b b' : β} :
    (x :: xs).foldlM f b = .ok b' ↔ ∃ m, f b x = .ok m ∧ xs.foldlM f m = .ok b' := by
  rw [List.foldlM_cons, bind_eq_ok_iff]

/-- What commutes with each step commutes with all of them, and neither adds an error nor hides
one. -/
theorem foldlM_commute {γ : Type} {f : β → α → Except Error β} {g : γ → α → Except Error γ}
    {φ : β → γ} (h : ∀ b x, g (φ b) x = (f b x).map φ) (xs : List α) (b : β) :
    xs.foldlM g (φ b) = (xs.foldlM f b).map φ := by
  induction xs generalizing b with
  | nil => rfl
  | cons x xs ih =>
    rw [List.foldlM_cons, List.foldlM_cons, h]
    cases f b x with
    | error e => rfl
    | ok b' => exact ih b'

/-- The results of steps that are known in advance, as one list. -/
theorem forall₂_eq_map_iff {p : α → Prop} {f : α → β} {xs : List α} {ys : List β} :
    List.Forall₂ (fun x y => p x ∧ y = f x) xs ys ↔ (∀ x ∈ xs, p x) ∧ ys = xs.map f := by
  induction xs generalizing ys with
  | nil => simp
  | cons x xs ih =>
    rw [List.forall₂_cons_left_iff]
    constructor
    · rintro ⟨_, ys', ⟨hx, rfl⟩, hys, rfl⟩
      obtain ⟨hxs, rfl⟩ := ih.mp hys
      exact ⟨List.forall_mem_cons.mpr ⟨hx, hxs⟩, rfl⟩
    · rintro ⟨h, rfl⟩
      obtain ⟨hx, hxs⟩ := List.forall_mem_cons.mp h
      exact ⟨f x, xs.map f, ⟨hx, rfl⟩, ih.mpr ⟨hxs, rfl⟩, rfl⟩

theorem exists_ok_of_isSome {x : Except Error α} (h : x.toOption.isSome = true) :
    ∃ a, x = .ok a := by
  cases x with
  | error e => cases h
  | ok a => exact ⟨a, rfl⟩

theorem toOption_map {x : Except Error α} (f : α → β) :
    (x.map f).toOption = x.toOption.map f := by
  cases x <;> rfl

theorem exists_of_any_toOption {x : Except Error α} {p : α → Bool} (h : x.toOption.any p = true) :
    ∃ a, x = .ok a ∧ p a = true := by
  cases x with
  | error e => cases h
  | ok a => exact ⟨a, rfl, h⟩

theorem join_toOption_eq_some_iff {x : Except Error (Option α)} {a : α} :
    x.toOption.join = some a ↔ x = .ok (some a) := by
  cases x with
  | error e => simp [Except.toOption]
  | ok y => simp [Except.toOption]

theorem toOption_eq_some_iff {x : Except Error α} {a : α} : x.toOption = some a ↔ x = .ok a := by
  cases x with
  | error e => simp [Except.toOption]
  | ok b => simp [Except.toOption]

theorem exists_left_of_forall₂ {R : α → β → Prop} {xs : List α} {ys : List β}
    (h : List.Forall₂ R xs ys) {y : β} (hy : y ∈ ys) : ∃ x ∈ xs, R x y := by
  induction h with
  | nil => cases hy
  | cons hxy _ ih =>
    rcases List.mem_cons.mp hy with rfl | hy
    · exact ⟨_, List.mem_cons_self, hxy⟩
    · obtain ⟨x, hx, hxy⟩ := ih hy
      exact ⟨x, List.mem_cons_of_mem _ hx, hxy⟩

theorem forall₂_imp_of_mem {R S : α → β → Prop} {xs : List α} {ys : List β}
    (h : List.Forall₂ R xs ys) (hRS : ∀ x ∈ xs, ∀ y, R x y → S x y) : List.Forall₂ S xs ys := by
  induction h with
  | nil => exact .nil
  | cons hxy _ ih =>
    obtain ⟨hx, hxs⟩ := List.forall_mem_cons.mp hRS
    exact .cons (hx _ hxy) (ih hxs)

/-- Related lists are related in another sense exactly if their members are. -/
theorem forall₂_iff_of_forall₂ {R S : α → β → Prop} {p : α → Prop} {xs : List α} {ys : List β}
    (h : List.Forall₂ R xs ys) (hp : ∀ x ∈ xs, ∀ y, R x y → (S x y ↔ p x)) :
    List.Forall₂ S xs ys ↔ ∀ x ∈ xs, p x := by
  induction h with
  | nil => simp
  | cons hxy _ ih =>
    obtain ⟨hx, hxs⟩ := List.forall_mem_cons.mp hp
    rw [List.forall₂_cons, List.forall_mem_cons, hx _ hxy, ih hxs]

theorem map_eq_map_of_forall₂ {γ : Type} {R : α → β → Prop} {f : α → γ} {g : β → γ} {xs : List α}
    {ys : List β} (h : List.Forall₂ R xs ys) (hR : ∀ x y, R x y → f x = g y) :
    xs.map f = ys.map g := by
  induction h with
  | nil => rfl
  | cons hxy _ ih => rw [List.map_cons, List.map_cons, hR _ _ hxy, ih]

theorem exists_mem_iff_of_forall₂ {R : α → β → Prop} {p : α → Prop} {q : β → Prop} {xs : List α}
    {ys : List β} (h : List.Forall₂ R xs ys) (hR : ∀ x y, R x y → (p x ↔ q y)) :
    (∃ x ∈ xs, p x) ↔ ∃ y ∈ ys, q y := by
  induction h with
  | nil => simp
  | cons hxy _ ih => rw [List.exists_mem_cons_iff, List.exists_mem_cons_iff, hR _ _ hxy, ih]

/-! ### Errors -/

/-- A step for each member of a list fails with an error of one of the steps. -/
theorem exists_mem_of_mapM_eq_error {f : α → Except Error β} {xs : List α} {e : Error}
    (h : xs.mapM f = .error e) : ∃ x ∈ xs, f x = .error e := by
  induction xs with
  | nil => cases h
  | cons x xs ih =>
    rw [List.mapM_cons] at h
    rcases bind_eq_error_iff.mp h with hx | ⟨y, -, h⟩
    · exact ⟨x, List.mem_cons_self, hx⟩
    · rcases bind_eq_error_iff.mp h with hxs | ⟨ys, -, h⟩
      · obtain ⟨x', hmem, hx'⟩ := ih hxs
        exact ⟨x', List.mem_cons_of_mem _ hmem, hx'⟩
      · cases h

/-- A step has no errors but those that satisfy `P`. -/
def FailsOnly (P : Error → Prop) (x : Except Error α) : Prop :=
  ∀ e, x = .error e → P e

variable {P : Error → Prop}

theorem failsOnly_ok (a : α) : FailsOnly P (.ok a) := by
  intro e h
  cases h

theorem failsOnly_error {e : Error} (h : P e) : FailsOnly P (.error e : Except Error α) := by
  intro e' he
  cases he
  exact h

theorem FailsOnly.map {x : Except Error α} (h : FailsOnly P x) (f : α → β) :
    FailsOnly P (x.map f) := by
  cases x with
  | error e => exact failsOnly_error (h e rfl)
  | ok a => exact failsOnly_ok (f a)

theorem FailsOnly.bind {x : Except Error α} {f : α → Except Error β} (h : FailsOnly P x)
    (hf : ∀ a, FailsOnly P (f a)) : FailsOnly P (x >>= f) := by
  cases x with
  | error e => exact failsOnly_error (h e rfl)
  | ok a => exact hf a

/-- Passing a state from step to step adds no errors to those of the steps. -/
theorem FailsOnly.foldlM {f : β → α → Except Error β} (h : ∀ b x, FailsOnly P (f b x)) (xs : List α)
    (b : β) : FailsOnly P (xs.foldlM f b) := by
  induction xs generalizing b with
  | nil => exact failsOnly_ok b
  | cons x xs ih => exact (h b x).bind fun b' => ih b'

end RpcBindings.Fallible
