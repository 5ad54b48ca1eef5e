/-!
# Tables

A finite map as a list of pairs, one to a key.
-/

namespace GroundLink.Connection

/-- A list of keys and their values. -/
abbrev Table (κ α : Type) := List (κ × α)

namespace Table

variable {κ α : Type} [DecidableEq κ]

/-- The value of a key. -/
def find? (k : κ) : Table κ α → Option α
  | [] => none
  | (j, a) :: rest => if j = k then some a else find? k rest

/-- A table without a key. -/
def erase (k : κ) (t : Table κ α) : Table κ α := t.filter (·.1 ≠ k)

/-- A table with a value for a key, whatever the key had before. -/
def insert (k : κ) (a : α) (t : Table κ α) : Table κ α := erase k t ++ [(k, a)]

/-- A table with the value of a key changed, if it has one. -/
def modify (k : κ) (f : α → α) (t : Table κ α) : Table κ α :=
  t.map fun (j, a) => if j = k then (j, f a) else (j, a)

/-! ### Looking up -/

@[simp] theorem find?_nil (k : κ) : find? k ([] : Table κ α) = none := rfl

theorem find?_append (k : κ) (s t : Table κ α) :
    find? k (s ++ t) = (find? k s).or (find? k t) := by
  induction s with
  | nil => simp
  | cons p s ih =>
    obtain ⟨j, a⟩ := p
    by_cases h : j = k <;> simp [find?, h, ih]

theorem erase_cons_self (k : κ) (a : α) (t : Table κ α) :
    erase k ((k, a) :: t) = erase k t := by
  simp [erase]

theorem erase_cons_of_ne {j k : κ} (h : j ≠ k) (a : α) (t : Table κ α) :
    erase k ((j, a) :: t) = (j, a) :: erase k t := by
  simp [erase, h]

@[simp] theorem find?_erase_self (k : κ) (t : Table κ α) : find? k (erase k t) = none := by
  induction t with
  | nil => rfl
  | cons p t ih =>
    obtain ⟨j, a⟩ := p
    by_cases h : j = k
    · rw [h, erase_cons_self, ih]
    · rw [erase_cons_of_ne h, find?, if_neg h, ih]

theorem find?_erase_of_ne {j k : κ} (h : j ≠ k) (t : Table κ α) :
    find? k (erase j t) = find? k t := by
  induction t with
  | nil => rfl
  | cons p t ih =>
    obtain ⟨i, a⟩ := p
    by_cases hi : i = j
    · rw [hi, erase_cons_self, find?, if_neg h, ih]
    · rw [erase_cons_of_ne hi, find?, find?, ih]

@[simp] theorem find?_insert_self (k : κ) (a : α) (t : Table κ α) :
    find? k (insert k a t) = some a := by
  simp [insert, find?_append, find?]

theorem find?_insert_of_ne {j k : κ} (h : j ≠ k) (a : α) (t : Table κ α) :
    find? k (insert j a t) = find? k t := by
  simp [insert, find?_append, find?_erase_of_ne h, find?, h]

@[simp] theorem find?_modify_self (k : κ) (f : α → α) (t : Table κ α) :
    find? k (modify k f t) = (find? k t).map f := by
  induction t with
  | nil => rfl
  | cons p t ih =>
    obtain ⟨j, a⟩ := p
    simp only [modify] at ih ⊢
    by_cases h : j = k <;> simp [find?, h, ih]

theorem find?_modify_of_ne {j k : κ} (h : j ≠ k) (f : α → α) (t : Table κ α) :
    find? k (modify j f t) = find? k t := by
  induction t with
  | nil => rfl
  | cons p t ih =>
    obtain ⟨i, a⟩ := p
    simp only [modify] at ih ⊢
    by_cases hi : i = j
    · subst hi
      simp [find?, h, ih]
    · simp [find?, hi, ih]

/-! ### Members -/

theorem mem_erase {j k : κ} {a : α} {t : Table κ α} :
    (j, a) ∈ erase k t ↔ (j, a) ∈ t ∧ j ≠ k := by
  simp [erase]

theorem mem_insert {j k : κ} {a b : α} {t : Table κ α} :
    (j, a) ∈ insert k b t ↔ ((j, a) ∈ t ∧ j ≠ k) ∨ (j = k ∧ a = b) := by
  simp [insert, mem_erase]

theorem mem_of_find? {k : κ} {a : α} {t : Table κ α} (h : find? k t = some a) : (k, a) ∈ t := by
  induction t with
  | nil => cases h
  | cons p t ih =>
    obtain ⟨j, b⟩ := p
    by_cases hj : j = k
    · subst hj
      rw [find?, if_pos rfl] at h
      obtain rfl := Option.some.inj h
      exact List.mem_cons_self
    · rw [find?, if_neg hj] at h
      exact List.mem_cons_of_mem _ (ih h)

theorem not_mem_of_find? {k : κ} {t : Table κ α} (h : find? k t = none) (a : α) :
    (k, a) ∉ t := by
  induction t with
  | nil => exact List.not_mem_nil
  | cons p t ih =>
    obtain ⟨j, b⟩ := p
    by_cases hj : j = k
    · rw [find?, if_pos hj] at h
      cases h
    · rw [find?, if_neg hj] at h
      rw [List.mem_cons, not_or]
      refine ⟨?_, ih h⟩
      rintro ⟨⟩
      exact hj rfl

end Table

end GroundLink.Connection
