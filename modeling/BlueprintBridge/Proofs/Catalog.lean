import BlueprintBridge.Catalog
import BlueprintBridge.Proofs.Splits

/-!
# Catalogs pair by pair

Filing a value under a key that was just freed is filing it, the pair of a key is the one that goes
when the key is erased, and values can be changed without a change of keys.
-/

namespace BlueprintBridge.Catalog

set_option autoImplicit false

variable {κ α β : Type} [DecidableEq κ] {c : Catalog κ α} {key : κ} {value : α}

theorem erase_of_absent (absent : c.get? key = none) : c.erase key = c := by
  have missing : ∀ pair ∈ c.entries, pair.1 ≠ key := by
    intro pair member same
    have none := List.find?_eq_none.mp (Option.map_eq_none_iff.mp absent) pair member
    exact none (decide_eq_true same)
  rw [erase, List.filter_eq_self.mpr fun pair member => decide_eq_true (missing pair member)]

theorem insert_erase (c : Catalog κ α) (key : κ) (value : α) :
    (c.erase key).insert key value = c.insert key value := by
  rw [insert, erase_of_absent (get?_erase_self c key)]
  rfl

theorem entries_split (unique : (c.entries.map Prod.fst).Nodup) (found : c.get? key = some value) :
    ∃ before after, c.entries = before ++ (key, value) :: after ∧
      (c.erase key).entries = before ++ after := by
  obtain ⟨pair, first, rfl⟩ := Option.map_eq_some_iff.mp found
  have satisfied := List.find?_some first
  have same : pair.1 = key := of_decide_eq_true satisfied
  obtain ⟨before, after, split⟩ := List.append_of_mem (List.mem_of_find?_eq_some first)
  subst same
  rw [split] at unique
  refine ⟨before, after, split, ?_⟩
  rw [entries_erase, split, filter_key_of_split unique]

theorem nodup_keys_erase (unique : (c.entries.map Prod.fst).Nodup) (key : κ) :
    ((c.erase key).entries.map Prod.fst).Nodup :=
  unique.sublist (List.filter_sublist.map Prod.fst)

theorem nodup_keys_insert (unique : (c.entries.map Prod.fst).Nodup) (key : κ) (value : α) :
    ((c.insert key value).entries.map Prod.fst).Nodup := by
  change (((c.erase key).entries ++ [(key, value)]).map Prod.fst).Nodup
  rw [List.map_append, List.nodup_append]
  refine ⟨nodup_keys_erase unique key, by simp, ?_⟩
  intro other member new last
  obtain ⟨pair, kept, rfl⟩ := List.mem_map.mp member
  rw [List.map_singleton, List.mem_singleton] at last
  rw [last]
  exact of_decide_eq_true (List.mem_filter.mp kept).2

theorem flatMap_perm_erase (unique : (c.entries.map Prod.fst).Nodup)
    (found : c.get? key = some value) (f : κ × α → List β) :
    (c.entries.flatMap f).Perm (f (key, value) ++ (c.erase key).entries.flatMap f) := by
  obtain ⟨before, after, split, left⟩ := entries_split unique found
  rw [split, left, List.flatMap_append, List.flatMap_cons, List.flatMap_append,
    ← List.append_assoc, ← List.append_assoc]
  exact List.perm_append_comm.append_right _

def mapValues (f : κ → α → β) (c : Catalog κ α) : Catalog κ β :=
  ⟨c.entries.map fun pair => (pair.1, f pair.1 pair.2)⟩

theorem get?_map_values (f : κ → α → β) (c : Catalog κ α) (key : κ) :
    (c.mapValues f).get? key = (c.get? key).map (f key) := by
  obtain ⟨entries⟩ := c
  simp only [get?, mapValues]
  induction entries with
  | nil => rfl
  | cons pair rest ih =>
      by_cases same : pair.1 = key
      · simp [same]
      · simpa [same] using ih

theorem map_values_insert (f : κ → α → β) (c : Catalog κ α) (key : κ) (value : α) :
    (c.insert key value).mapValues f = (c.mapValues f).insert key (f key value) := by
  obtain ⟨entries⟩ := c
  simp only [insert, mapValues, erase, List.map_append, List.filter_map]
  rfl

omit [DecidableEq κ] in
theorem map_values_id (c : Catalog κ α) : c.mapValues (fun _ value => value) = c := by
  obtain ⟨entries⟩ := c
  simp [mapValues]

end BlueprintBridge.Catalog
