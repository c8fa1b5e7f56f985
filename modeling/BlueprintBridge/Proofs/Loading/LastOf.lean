import Mathlib.Data.List.Basic

/-!
# The last of each name

Names that are noted one after the other and crossed out from the front leave of each name the last
ones. Crossing out the first of a name is wanting one less of it; it takes the newest name off a
stack exactly where that name does not stand in the stack with another one above it.
-/

namespace BlueprintBridge.Loading

set_option autoImplicit false

/-- Of each name the last ones in a list, as many as are wanted. -/
def lastOf (wanted : List String) : List String → List String
  | [] => []
  | name :: later =>
    if later.count name < wanted.count name then name :: lastOf wanted later
    else lastOf wanted later

variable {name : String} {wanted names calls : List String}

theorem last_of_sublist (wanted names : List String) : (lastOf wanted names).Sublist names := by
  induction names with
  | nil => exact .slnil
  | cons head later ih =>
      rw [lastOf]
      split
      · exact ih.cons_cons head
      · exact ih.cons head

theorem count_concat (name other : String) (names : List String) :
    (names ++ [name]).count other = names.count other + if name = other then 1 else 0 := by
  simp [List.count_append, List.count_singleton]

theorem last_of_concat (name : String) (wanted names : List String) :
    lastOf (wanted ++ [name]) (names ++ [name]) = lastOf wanted names ++ [name] := by
  induction names with
  | nil => simp [lastOf]
  | cons head later ih =>
      simp only [List.cons_append, lastOf, ih, count_concat, Nat.add_lt_add_iff_right]
      split <;> rfl

theorem last_of_wanted (all : names.count name ≤ wanted.count name) :
    lastOf (wanted ++ [name]) names = lastOf wanted names := by
  induction names with
  | nil => rfl
  | cons head later ih =>
      have fewer : later.count name ≤ (head :: later).count name :=
        (List.sublist_cons_self head later).count_le name
      have same : later.count head < (wanted ++ [name]).count head ↔
          later.count head < wanted.count head := by
        rw [count_concat]
        by_cases own : name = head
        · subst own
          rw [List.count_cons_self] at all
          rw [if_pos rfl]
          omega
        · rw [if_neg own, Nat.add_zero]
      simp only [lastOf, same, ih (Nat.le_trans fewer all)]

/-- Crossing out the first of a name is wanting one less of it. -/
theorem erase_last_of (more : wanted.count name < names.count name) :
    (lastOf (wanted ++ [name]) names).erase name = lastOf wanted names := by
  induction names with
  | nil => simp at more
  | cons head later ih =>
      rw [lastOf, lastOf, count_concat]
      by_cases own : name = head
      · subst own
        rw [List.count_cons_self] at more
        rw [if_pos rfl]
        by_cases first : later.count name = wanted.count name
        · rw [if_pos (by omega), if_neg (by omega), List.erase_cons_head]
          exact last_of_wanted (Nat.le_of_eq first)
        · rw [if_neg (by omega), if_neg (by omega)]
          exact ih (by omega)
      · rw [List.count_cons_of_ne (Ne.symm own)] at more
        rw [if_neg own, Nat.add_zero]
        split
        · rw [List.erase_cons_tail (by simpa using Ne.symm own), ih more]
        · exact ih more

def Buried (name : String) (calls : List String) : Prop :=
  ∃ other, other ≠ name ∧ [name, other].Sublist calls

theorem buried_cons {head : String} :
    Buried name (head :: calls) ↔
      (head = name ∧ ∃ other ∈ calls, other ≠ name) ∨ Buried name calls := by
  simp only [Buried, List.cons_sublist_cons', List.singleton_sublist]
  grind

theorem concat_eq_cons_iff : calls ++ [name] = name :: calls ↔ ∀ other ∈ calls, other = name := by
  induction calls with
  | nil => simp
  | cons head above ih =>
      rw [List.cons_append, List.cons.injEq, List.forall_mem_cons]
      apply and_congr_right
      rintro rfl
      exact ih

/-- The first of a name crossed out is as good as the newest unless the name is buried. -/
theorem erase_concat_eq_iff (name : String) (calls : List String) :
    (calls ++ [name]).erase name = calls ↔ ¬ Buried name calls := by
  induction calls with
  | nil => simp [Buried]
  | cons head above ih =>
      rw [buried_cons, List.cons_append]
      by_cases own : head = name
      · subst own
        have alone : Buried head above → ∃ other ∈ above, other ≠ head := by
          rintro ⟨other, foreign, listed⟩
          exact ⟨other, listed.subset (by simp), foreign⟩
        rw [List.erase_cons_head, concat_eq_cons_iff]
        constructor
        · rintro all (⟨_, other, member, foreign⟩ | buried)
          · exact foreign (all other member)
          · obtain ⟨other, member, foreign⟩ := alone buried
            exact foreign (all other member)
        · intro clear other member
          by_contra foreign
          exact clear (.inl ⟨rfl, other, member, foreign⟩)
      · rw [List.erase_cons_tail (by simpa using own), List.cons.injEq, ih]
        simp [own]

end BlueprintBridge.Loading
