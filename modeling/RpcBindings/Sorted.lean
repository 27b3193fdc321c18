/-!
# Sorted lists

Sets and maps over strings as lists in ascending order, so that what is printed from them does not
depend on the order in which they were filled.

## Main definitions

* `Sorted.insert`, `Sorted.ofList` — sets.
* `Sorted.put`, `Sorted.get?`, `Sorted.ofPairs` — maps.

## Main results

* `Sorted.mem_insert` — the members of a set after an insertion.
* `Sorted.get?_put` — the values of a map after `put`.
* `Sorted.mem_keys_ofPairs` — the keys of a map are those of the pairs it is made of.
-/

namespace RpcBindings.Sorted

variable {α : Type}

/-- Adds a member to a set. -/
def insert (x : String) : List String → List String
  | [] => [x]
  | y :: ys => if x < y then x :: y :: ys else if x = y then y :: ys else y :: insert x ys

/-- The set of the members of a list. -/
def ofList (xs : List String) : List String :=
  xs.foldl (fun set x => insert x set) []

theorem mem_insert {x y : String} {ys : List String} : y ∈ insert x ys ↔ y = x ∨ y ∈ ys := by
  induction ys with
  | nil => simp [insert]
  | cons z zs ih =>
    simp only [insert]
    split
    · simp
    · split
      · next h => subst h; simp
      · simp only [List.mem_cons, ih]
        constructor
        · rintro (h | h | h) <;> simp [h]
        · rintro (h | h | h) <;> simp [h]

/-- Gives a key of a map a value, in place of the one it has. -/
def put (k : String) (v : α) : List (String × α) → List (String × α)
  | [] => [(k, v)]
  | (l, w) :: rest =>
    if k < l then (k, v) :: (l, w) :: rest
    else if k = l then (k, v) :: rest
    else (l, w) :: put k v rest

/-- The value of a key. -/
def get? (k : String) : List (String × α) → Option α
  | [] => none
  | (l, w) :: rest => if k = l then some w else get? k rest

/-- The map of a list of pairs; of two values for one key the later one counts. -/
def ofPairs (ps : List (String × α)) : List (String × α) :=
  ps.foldl (fun map p => put p.1 p.2 map) []

theorem get?_put (k l : String) (v : α) (m : List (String × α)) :
    get? l (put k v m) = if l = k then some v else get? l m := by
  induction m with
  | nil => simp [put, get?]
  | cons p rest ih =>
    obtain ⟨j, w⟩ := p
    simp only [put]
    split
    · simp [get?]
    · split
      · next h => subst h; simp only [get?]; split <;> rfl
      · next h =>
        simp only [get?, ih]
        by_cases hj : l = j
        · subst hj; simp [Ne.symm h]
        · simp [hj]

/-- What is in a map after `put` was put there, or was in it before. -/
theorem mem_of_mem_put {k : String} {v : α} {m : List (String × α)} {p : String × α}
    (h : p ∈ put k v m) : p.1 = k ∨ p ∈ m := by
  induction m with
  | nil =>
    rw [put, List.mem_singleton] at h
    exact .inl (by rw [h])
  | cons q rest ih =>
    rw [put] at h
    split at h
    · rcases List.mem_cons.mp h with rfl | h
      · exact .inl rfl
      · exact .inr h
    · split at h
      · rcases List.mem_cons.mp h with rfl | h
        · exact .inl rfl
        · exact .inr (List.mem_cons_of_mem _ h)
      · rcases List.mem_cons.mp h with rfl | h
        · exact .inr List.mem_cons_self
        · exact (ih h).imp_right (List.mem_cons_of_mem _)

theorem mem_keys_put {k l : String} {v : α} {m : List (String × α)} :
    l ∈ (put k v m).map Prod.fst ↔ l = k ∨ l ∈ m.map Prod.fst := by
  induction m with
  | nil => simp [put]
  | cons p rest ih =>
    rw [put]
    split
    · simp
    · split
      · next heq =>
        subst heq
        simp
      · rw [List.map_cons, List.mem_cons, ih, List.map_cons, List.mem_cons]
        exact or_left_comm

/-- The keys of a map are those of the pairs it is made of. -/
theorem mem_keys_ofPairs {l : String} {ps : List (String × α)} :
    l ∈ (ofPairs ps).map Prod.fst ↔ l ∈ ps.map Prod.fst := by
  have hfold : ∀ m : List (String × α), l ∈ (ps.foldl (fun m p => put p.1 p.2 m) m).map Prod.fst ↔
      l ∈ m.map Prod.fst ∨ l ∈ ps.map Prod.fst := by
    induction ps with
    | nil => simp
    | cons p ps ih =>
      intro m
      rw [List.foldl_cons, ih, mem_keys_put, List.map_cons, List.mem_cons, or_assoc, or_left_comm]
  rw [ofPairs, hfold []]
  simp

theorem mem_of_get?_eq_some {k : String} {v : α} {m : List (String × α)}
    (h : get? k m = some v) : (k, v) ∈ m := by
  induction m with
  | nil => cases h
  | cons p rest ih =>
    rw [get?] at h
    split at h
    · next heq =>
      cases h
      rw [heq]
      exact List.mem_cons_self
    · exact List.mem_cons_of_mem _ (ih h)

end RpcBindings.Sorted
