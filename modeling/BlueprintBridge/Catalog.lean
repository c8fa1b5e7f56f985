/-!
Catalogs: finite maps kept as a list of pairs, at most one for each key.

`get?` is the view of a catalog; each operation has one equation through it.
-/

namespace BlueprintBridge

set_option autoImplicit false

/-- A finite map from `κ` to `α`, the pair written last at the end. -/
structure Catalog (κ α : Type) where
  entries : List (κ × α) := []
deriving Repr

namespace Catalog

variable {κ α : Type}

/-- The catalog without a pair. -/
def empty : Catalog κ α := ⟨[]⟩

instance : Inhabited (Catalog κ α) := ⟨empty⟩

def size (c : Catalog κ α) : Nat := c.entries.length

variable [DecidableEq κ]

def get? (c : Catalog κ α) (key : κ) : Option α :=
  (c.entries.find? fun pair => pair.1 = key).map (·.2)

def contains (c : Catalog κ α) (key : κ) : Bool := (c.get? key).isSome

def erase (c : Catalog κ α) (key : κ) : Catalog κ α :=
  ⟨c.entries.filter fun pair => pair.1 ≠ key⟩

/-- Files `value` under `key`, in place of what was there. -/
def insert (c : Catalog κ α) (key : κ) (value : α) : Catalog κ α :=
  ⟨(c.erase key).entries ++ [(key, value)]⟩

@[simp] theorem get?_empty (key : κ) : (empty : Catalog κ α).get? key = none := rfl

theorem entries_erase (c : Catalog κ α) (key : κ) :
    (c.erase key).entries = c.entries.filter fun pair => pair.1 ≠ key := rfl

@[simp] theorem get?_erase_self (c : Catalog κ α) (key : κ) : (c.erase key).get? key = none := by
  simp [get?, entries_erase, List.find?_eq_none]

theorem get?_erase_of_ne (c : Catalog κ α) {key other : κ} (h : other ≠ key) :
    (c.erase key).get? other = c.get? other := by
  obtain ⟨entries⟩ := c
  simp only [get?, entries_erase]
  congr 1
  induction entries with
  | nil => rfl
  | cons pair rest ih =>
    by_cases hk : pair.1 = key
    · have hne : ¬ pair.1 = other := fun e => h (e.symm.trans hk)
      simpa [hk, hne, h.symm] using ih
    · by_cases ho : pair.1 = other <;> simp_all

@[simp] theorem get?_insert_self (c : Catalog κ α) (key : κ) (value : α) :
    (c.insert key value).get? key = some value := by
  have h := get?_erase_self c key
  simp only [get?, Option.map_eq_none_iff] at h
  simp [get?, insert, List.find?_append, h]

theorem get?_insert_of_ne (c : Catalog κ α) {key other : κ} (value : α) (h : other ≠ key) :
    (c.insert key value).get? other = c.get? other := by
  have hne : ¬ key = other := fun e => h e.symm
  have he := get?_erase_of_ne c h
  simp only [get?] at he
  simp [get?, insert, List.find?_append, hne, he]

theorem get?_insert (c : Catalog κ α) (key other : κ) (value : α) :
    (c.insert key value).get? other = if other = key then some value else c.get? other := by
  split
  · next h => rw [h, get?_insert_self]
  · next h => exact get?_insert_of_ne c value h

theorem get?_erase (c : Catalog κ α) (key other : κ) :
    (c.erase key).get? other = if other = key then none else c.get? other := by
  split
  · next h => rw [h, get?_erase_self]
  · next h => exact get?_erase_of_ne c h

end Catalog

end BlueprintBridge
