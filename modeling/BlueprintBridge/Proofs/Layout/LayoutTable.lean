import BlueprintBridge.Proofs.Action
import BlueprintBridge.Proofs.Splits
import BlueprintBridge.Session.Perform
import Mathlib.Data.List.Induction

/-!
# The layout in force

A layout is refused for its alignment alone, and a refused one changes nothing. So after any row of
registrations and removals the layout of a struct is the one that was accepted for it last, unless
it was removed since.
-/

namespace BlueprintBridge

set_option autoImplicit false

open Session (LayoutStep)

def NativeLayout.Aligned (l : NativeLayout) : Prop :=
  ∀ ops, l.ops = some ops → ops.alignment.toNat.isPowerOfTwo

namespace LayoutTable

def changed (t : LayoutTable) : LayoutStep → LayoutTable
  | .register ref l =>
    match t.register ref l with
    | .ok (_, next) => next
    | .error _ => t
  | .remove ref => (t.remove ref).2

def after (history : List LayoutStep) : LayoutTable := history.foldl changed {}

def Decides (ref : StructRef) : LayoutStep → Prop
  | .register other l => other = ref ∧ l.Aligned
  | .remove other => other = ref

def InForce (history : List LayoutStep) (ref : StructRef) (l : NativeLayout) : Prop :=
  ∃ early late, history = early ++ .register ref l :: late ∧ l.Aligned ∧
    ∀ step ∈ late, ¬ Decides ref step

variable {t : LayoutTable} {ref : StructRef} {l : NativeLayout} {history : List LayoutStep}
  {step : LayoutStep}

theorem is_power_of_two_iff (n : UInt64) : isPowerOfTwo n = true ↔ n.toNat.isPowerOfTwo := by
  rw [← Nat.ne_zero_and_sub_one_eq_zero_iff_isPowerOfTwo]
  have zero (a : UInt64) : a = 0 ↔ a.toNat = 0 := by
    rw [← UInt64.toNat_inj]
    rfl
  by_cases null : n = 0
  · simp [isPowerOfTwo, null]
  · have one : (1 : UInt64) ≤ n := by
      rw [UInt64.le_iff_toNat_le]
      exact Nat.one_le_iff_ne_zero.mpr ((zero n).not.mp null)
    have less : (n - 1).toNat = n.toNat - 1 := UInt64.toNat_sub_of_le n 1 one
    simp [isPowerOfTwo, null, (zero n).not.mp null, zero (n &&& (n - 1)), less]

theorem register_aligned (t : LayoutTable) (ref : StructRef) (aligned : l.Aligned) :
    t.register ref l = .ok (t.get? ref, ⟨t.layouts.insert ref l⟩) := by
  have accepted : (l.ops.filter fun ops => !isPowerOfTwo ops.alignment) = none := by
    rw [Option.filter_eq_none_iff]
    intro ops known
    simp [(is_power_of_two_iff _).mpr (aligned ops known)]
  unfold register
  rw [accepted]
  rfl

theorem register_unaligned (t : LayoutTable) (ref : StructRef) (unaligned : ¬ l.Aligned) :
    ∃ ops, l.ops = some ops ∧ ¬ ops.alignment.toNat.isPowerOfTwo ∧
      t.register ref l = .error (.invalidAlignment l.name ops.alignment) := by
  obtain ⟨ops, known, odd⟩ : ∃ ops, l.ops = some ops ∧ ¬ ops.alignment.toNat.isPowerOfTwo := by
    simpa [NativeLayout.Aligned] using unaligned
  refine ⟨ops, known, odd, ?_⟩
  rw [← is_power_of_two_iff] at odd
  have refused : (l.ops.filter fun ops => !isPowerOfTwo ops.alignment) = some ops :=
    Option.filter_eq_some_iff.mpr ⟨known, by simpa using odd⟩
  unfold register
  rw [refused]

theorem get_changed_of_not_decides (undecided : ¬ Decides ref step) :
    (t.changed step).get? ref = t.get? ref := by
  cases step with
  | register other l =>
      by_cases aligned : l.Aligned
      · have apart : ref ≠ other := fun same => undecided ⟨same.symm, aligned⟩
        rw [changed, register_aligned t other aligned]
        exact Catalog.get?_insert_of_ne t.layouts l apart
      · obtain ⟨_, _, _, refused⟩ := register_unaligned t other aligned
        rw [changed, refused]
  | remove other =>
      have apart : ref ≠ other := fun same => undecided same.symm
      exact Catalog.get?_erase_of_ne t.layouts apart

theorem get_changed_of_register (aligned : l.Aligned) :
    (t.changed (.register ref l)).get? ref = some l := by
  rw [changed, register_aligned t ref aligned]
  exact Catalog.get?_insert_self t.layouts ref l

theorem get_changed_of_remove : (t.changed (.remove ref)).get? ref = none :=
  Catalog.get?_erase_self t.layouts ref

theorem after_snoc (history : List LayoutStep) (step : LayoutStep) :
    after (history ++ [step]) = (after history).changed step := by
  rw [after, List.foldl_append]
  rfl

theorem in_force_snoc :
    InForce (history ++ [step]) ref l ↔
      step = .register ref l ∧ l.Aligned ∨ ¬ Decides ref step ∧ InForce history ref l := by
  constructor
  · rintro ⟨early, late, split, aligned, undecided⟩
    rcases snoc_eq_split.mp split with ⟨_, rfl, _⟩ | ⟨between, rfl, rfl⟩
    · exact .inl ⟨rfl, aligned⟩
    · exact .inr ⟨undecided step (by simp), early, between, rfl, aligned,
        fun other member => undecided other (List.mem_append_left _ member)⟩
  · rintro (⟨rfl, aligned⟩ | ⟨last, early, late, rfl, aligned, undecided⟩)
    · exact ⟨history, [], rfl, aligned, by simp⟩
    · refine ⟨early, late ++ [step], by simp, aligned, ?_⟩
      intro other member
      rcases List.mem_append.mp member with before | final
      · exact undecided other before
      · rw [List.mem_singleton.mp final]
        exact last

/-- The layout of a struct is the one in force. -/
theorem get_after_iff (history : List LayoutStep) (ref : StructRef) (l : NativeLayout) :
    (after history).get? ref = some l ↔ InForce history ref l := by
  induction history using List.reverseRecOn with
  | nil =>
      refine iff_of_false (fun found => by cases found) ?_
      rintro ⟨early, late, split, _⟩
      simp at split
  | append_singleton history step ih =>
      rw [after_snoc, in_force_snoc]
      by_cases decided : Decides ref step
      · cases step with
        | register other k =>
            obtain ⟨rfl, aligned⟩ := decided
            rw [get_changed_of_register aligned]
            constructor
            · rintro ⟨⟩
              exact .inl ⟨rfl, aligned⟩
            · rintro (⟨⟨⟩, _⟩ | ⟨undecided, _⟩)
              · rfl
              · exact absurd ⟨rfl, aligned⟩ undecided
        | remove other =>
            obtain rfl := decided
            rw [get_changed_of_remove]
            constructor
            · rintro ⟨⟩
            · rintro (⟨⟨⟩, _⟩ | ⟨undecided, _⟩)
              exact absurd rfl undecided
      · rw [get_changed_of_not_decides decided, ih]
        constructor
        · exact fun earlier => .inr ⟨decided, earlier⟩
        · rintro (⟨rfl, aligned⟩ | ⟨_, earlier⟩)
          · exact absurd ⟨rfl, aligned⟩ decided
          · exact earlier

end LayoutTable

end BlueprintBridge
