import Mathlib.Data.List.Basic

/-!
# Lists split at an element

A history that grew by one entry is split at an entry: at the new one, or at an old one with the new
one at the end of what came after it. So what holds of each entry after what stood before it is told
of the old ones, and then of the new one. Where no two elements have the same key, a list without
one key is what stands before its element and what stands after it.
-/

namespace BlueprintBridge

set_option autoImplicit false

theorem snoc_eq_split {α : Type} {entries before after : List α} {last entry : α} :
    entries ++ [last] = before ++ entry :: after ↔
      entries = before ∧ last = entry ∧ after = [] ∨
        ∃ between, after = between ++ [last] ∧ entries = before ++ entry :: between := by
  constructor
  · intro split
    rcases List.eq_nil_or_concat after with rfl | ⟨between, final, rfl⟩
    · obtain ⟨same, ended⟩ := List.append_inj' split rfl
      exact .inl ⟨same, List.singleton_inj.mp ended, rfl⟩
    · rw [List.concat_eq_append, ← List.cons_append, ← List.append_assoc] at split
      obtain ⟨same, ended⟩ := List.append_inj' split rfl
      obtain rfl := List.singleton_inj.mp ended
      exact .inr ⟨between, List.concat_eq_append, same⟩
  · rintro (⟨rfl, rfl, rfl⟩ | ⟨between, rfl, rfl⟩)
    · rfl
    · simp

/-- What is said of each entry and of what stood before it, once there is one entry more. -/
theorem forall_split_snoc {α : Type} {P : List α → α → Prop} {entries : List α} {last : α} :
    (∀ before entry after, entries ++ [last] = before ++ entry :: after → P before entry) ↔
      (∀ before entry after, entries = before ++ entry :: after → P before entry) ∧
        P entries last := by
  simp only [snoc_eq_split]
  constructor
  · intro all
    refine ⟨?_, all entries last [] (.inl ⟨rfl, rfl, rfl⟩)⟩
    intro before entry after split
    exact all before entry (after ++ [last]) (.inr ⟨after, rfl, split⟩)
  · rintro ⟨earlier, newest⟩ before entry after (⟨rfl, rfl, _⟩ | ⟨between, _, split⟩)
    · exact newest
    · exact earlier before entry between split

theorem filter_key_of_split {α κ : Type} [DecidableEq κ] {key : α → κ} {before after : List α}
    {entry : α} (unique : ((before ++ entry :: after).map key).Nodup) :
    (before ++ entry :: after).filter (fun other => key other ≠ key entry) = before ++ after := by
  simp only [List.map_append, List.map_cons, List.nodup_append, List.nodup_cons, List.mem_map,
    List.mem_cons] at unique
  obtain ⟨_, ⟨later, _⟩, earlier⟩ := unique
  have left : before.filter (fun other => key other ≠ key entry) = before := by
    apply List.filter_eq_self.mpr
    intro other member
    apply decide_eq_true
    exact earlier _ ⟨other, member, rfl⟩ _ (.inl rfl)
  have right : after.filter (fun other => key other ≠ key entry) = after := by
    apply List.filter_eq_self.mpr
    intro other member
    apply decide_eq_true
    intro same
    exact later ⟨other, member, same⟩
  rw [List.filter_append, List.filter_cons_of_neg (by simp), left, right]

end BlueprintBridge
