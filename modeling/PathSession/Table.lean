/-!
# Tables

Finite maps as lists of pairs with distinct keys, in the order in which the keys were added.

* `Table.get?`, `Table.insert`, `Table.erase`, `Table.contains`, `Table.keys`, `Table.size`.
-/

namespace PathSession

/-- A finite map from `κ` to `α`. -/
structure Table (κ α : Type) where
  entries : List (κ × α)
  deriving Repr

namespace Table

variable {κ α : Type} [DecidableEq κ]

/-- The table without entries. -/
def empty : Table κ α := ⟨[]⟩

instance : Inhabited (Table κ α) := ⟨empty⟩

/-- The value under a key. -/
def get? (t : Table κ α) (k : κ) : Option α := t.entries.lookup k

/-- Drop the entry under a key. -/
def erase (t : Table κ α) (k : κ) : Table κ α := ⟨t.entries.filter (·.1 ≠ k)⟩

/-- Put a value under a key, in place of the one that was there. -/
def insert (t : Table κ α) (k : κ) (v : α) : Table κ α := ⟨(t.erase k).entries ++ [(k, v)]⟩

/-- Whether a key has a value. -/
def contains (t : Table κ α) (k : κ) : Bool := (t.get? k).isSome

/-- The keys, oldest first. -/
def keys (t : Table κ α) : List κ := t.entries.map (·.1)

/-- The number of entries. -/
def size (t : Table κ α) : Nat := t.entries.length

/-- Whether no key has a value. -/
def isEmpty (t : Table κ α) : Bool := t.entries.isEmpty

@[simp] theorem get?_empty (k : κ) : (empty : Table κ α).get? k = none := rfl

private theorem lookup_filter_ne (l : List (κ × α)) (k k' : κ) :
    (l.filter (·.1 ≠ k)).lookup k' = if k' = k then none else l.lookup k' := by
  induction l with
  | nil => simp
  | cons e l ih =>
    obtain ⟨a, v⟩ := e
    by_cases hak : a = k
    · subst hak
      simp only [ne_eq, not_true_eq_false, decide_false, Bool.false_eq_true, not_false_eq_true,
        List.filter_cons_of_neg, ih]
      by_cases hk : k' = a
      · simp [hk]
      · simp [hk, List.lookup_cons, beq_eq_false_iff_ne.mpr hk]
    · simp only [ne_eq, hak, not_false_eq_true, decide_true, List.filter_cons_of_pos,
        List.lookup_cons, ih]
      by_cases hk : k' = a
      · subst hk
        simp [hak]
      · simp [beq_eq_false_iff_ne.mpr hk]

theorem get?_erase (t : Table κ α) (k k' : κ) :
    (t.erase k).get? k' = if k' = k then none else t.get? k' :=
  lookup_filter_ne t.entries k k'

@[simp] theorem get?_erase_self (t : Table κ α) (k : κ) : (t.erase k).get? k = none := by
  simp [get?_erase]

theorem get?_erase_of_ne (t : Table κ α) {k k' : κ} (h : k' ≠ k) :
    (t.erase k).get? k' = t.get? k' := by
  simp [get?_erase, h]

private theorem lookup_append (l₁ l₂ : List (κ × α)) (k : κ) :
    (l₁ ++ l₂).lookup k = (l₁.lookup k).or (l₂.lookup k) := by
  induction l₁ with
  | nil => simp
  | cons e l ih =>
    obtain ⟨a, v⟩ := e
    simp only [List.cons_append, List.lookup_cons]
    split <;> simp [ih]

theorem get?_insert (t : Table κ α) (k k' : κ) (v : α) :
    (t.insert k v).get? k' = if k' = k then some v else t.get? k' := by
  unfold get? insert
  rw [lookup_append]
  have h := get?_erase t k k'
  unfold get? at h
  rw [h]
  by_cases hk : k' = k
  · subst hk
    simp
  · simp [hk, List.lookup_cons, beq_eq_false_iff_ne.mpr hk]

@[simp] theorem get?_insert_self (t : Table κ α) (k : κ) (v : α) :
    (t.insert k v).get? k = some v := by
  simp [get?_insert]

theorem get?_insert_of_ne (t : Table κ α) {k k' : κ} (v : α) (h : k' ≠ k) :
    (t.insert k v).get? k' = t.get? k' := by
  simp [get?_insert, h]

end Table

end PathSession
