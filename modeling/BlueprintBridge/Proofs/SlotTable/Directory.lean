import BlueprintBridge.Catalog
import BlueprintBridge.Proofs.SlotTable
import Mathlib.Logic.Relation

/-!
# Directories

A directory is a catalog kept beside a table. It leads from the name of each live value to its
reference and from no other name to anything, so no two live values bear one name. A value is added
under a free name only, and its name goes when it goes.
-/

namespace BlueprintBridge.SlotTable

set_option autoImplicit false

variable {kind : ObjectKind} {α κ : Type} [DecidableEq κ] {t : SlotTable kind α}
  {names : Catalog κ (Ref kind)} {nameOf : α → κ}

/-- The names on file are those of the live values. -/
structure Filed (t : SlotTable kind α) (names : Catalog κ (Ref kind)) (nameOf : α → κ) : Prop where
  table : t.Sound
  named : ∀ name ref, names.get? name = some ref ↔ ∃ value, t.get? ref = some value ∧
    nameOf value = name

theorem filed_empty : Filed (empty : SlotTable kind α) .empty nameOf where
  table := sound_empty
  named name ref := by simp

namespace Filed

theorem insert (filed : t.Filed names nameOf) {value : α} (free : names.get? (nameOf value) = none)
    (short : (t.insert value).2.slots.length < UInt32.size) :
    (t.insert value).2.Filed (names.insert (nameOf value) (t.insert value).1) nameOf := by
  obtain ⟨fresh, lookup⟩ := filed.table.get_insert_of_short value short
  refine ⟨filed.table.insert value, fun name ref => ?_⟩
  have before := filed.named name ref
  rw [Catalog.get?_insert, lookup]
  by_cases same : ref = (t.insert value).1
  · subst same
    rw [get_of_not_issued fresh] at before
    by_cases own : name = nameOf value
    · simp [own]
    · rw [if_neg own, if_pos rfl, before]
      simp [Ne.symm own]
  · rw [if_neg same]
    by_cases own : name = nameOf value
    · have none : names.get? name = none := own ▸ free
      rw [none] at before
      rw [if_pos own, ← before]
      simp [Ne.symm same]
    · rw [if_neg own]
      exact before

theorem remove (filed : t.Filed names nameOf) {ref : Ref kind} {value : α}
    (live : t.get? ref = some value) :
    (t.remove ref).2.Filed (names.erase (nameOf value)) nameOf := by
  refine ⟨filed.table.remove ref, fun name other => ?_⟩
  have before := filed.named name other
  have own := (filed.named (nameOf value) ref).mpr ⟨value, live, rfl⟩
  rw [Catalog.get?_erase, get_remove]
  by_cases gone : other = ref
  · subst gone
    rw [if_pos rfl]
    split
    · simp
    · next apart =>
        rw [before, live]
        simp [Ne.symm apart]
  · rw [if_neg gone]
    split
    · next same =>
        rw [same, own] at before
        rw [same, ← before]
        simp [Ne.symm gone]
    · exact before

theorem modify (filed : t.Filed names nameOf) (ref : Ref kind) {f : α → α}
    (kept : ∀ value, nameOf (f value) = nameOf value) : (t.modify ref f).Filed names nameOf := by
  refine ⟨filed.table.modify ref f, fun name other => ?_⟩
  rw [get_modify, filed.named]
  split
  · next same =>
      subst same
      simp [kept]
  · rfl

theorem live (filed : t.Filed names nameOf) {name : κ} {ref : Ref kind}
    (found : names.get? name = some ref) : t.contains ref = true := by
  obtain ⟨value, live, _⟩ := (filed.named name ref).mp found
  exact contains_iff.mpr ⟨value, live⟩

theorem unique (filed : t.Filed names nameOf) {ref other : Ref kind} {value otherValue : α}
    (live : t.get? ref = some value) (otherLive : t.get? other = some otherValue)
    (same : nameOf value = nameOf otherValue) : ref = other := by
  have first := (filed.named (nameOf otherValue) ref).mpr ⟨value, live, same⟩
  have second := (filed.named (nameOf otherValue) other).mpr ⟨otherValue, otherLive, rfl⟩
  exact Option.some.inj (first.symm.trans second)

end Filed

inductive Refiling (nameOf : α → κ) (t : SlotTable kind α) (names : Catalog κ (Ref kind)) :
    SlotTable kind α → Catalog κ (Ref kind) → Prop where
  | kept : Refiling nameOf t names t names
  | added (value : α) (free : names.get? (nameOf value) = none) :
      Refiling nameOf t names (t.insert value).2 (names.insert (nameOf value) (t.insert value).1)
  | removed {ref : Ref kind} {value : α} (live : t.get? ref = some value) :
      Refiling nameOf t names (t.remove ref).2 (names.erase (nameOf value))
  | changed (ref : Ref kind) (f : α → α) (kept : ∀ value, nameOf (f value) = nameOf value) :
      Refiling nameOf t names (t.modify ref f) names

variable {next : SlotTable kind α} {nextNames : Catalog κ (Ref kind)}

theorem Refiling.slots_le (refiling : Refiling nameOf t names next nextNames) :
    t.slots.length ≤ next.slots.length := by
  cases refiling with
  | kept => exact Nat.le_refl _
  | added value => exact (t.length_insert_le value).1
  | removed => exact Nat.le_of_eq (length_remove ..).symm
  | changed => exact Nat.le_of_eq (length_modify ..).symm

theorem Refiling.filed (refiling : Refiling nameOf t names next nextNames)
    (filed : t.Filed names nameOf) (short : next.slots.length < UInt32.size) :
    next.Filed nextNames nameOf := by
  cases refiling with
  | kept => exact filed
  | added value free => exact filed.insert free short
  | removed live => exact filed.remove live
  | changed ref f kept => exact filed.modify ref kept

/-- As long as the slots can be numbered, operations keep a directory. -/
theorem filed_of_operations {σ : Type} {Operation : σ → σ → Prop} {table : σ → SlotTable kind α}
    {names : σ → Catalog κ (Ref kind)} {start finish : σ}
    (refiling : ∀ s t, Operation s t → Refiling nameOf (table s) (names s) (table t) (names t))
    (operations : Relation.ReflTransGen Operation start finish)
    (filed : (table start).Filed (names start) nameOf)
    (short : (table finish).slots.length < UInt32.size) :
    (table finish).Filed (names finish) nameOf := by
  induction operations with
  | refl => exact filed
  | tail _ operation ih =>
      have step := refiling _ _ operation
      exact step.filed (ih (Nat.lt_of_le_of_lt step.slots_le short)) short

end BlueprintBridge.SlotTable
