import BlueprintBridge.SlotTable
import Mathlib.Data.List.Perm.Subperm

/-!
# References that are handed out once

In a sound table the free slots are the empty ones, each listed once, and the size counts the
others. A reference is issued from the moment it is handed out: its slot holds it, or has moved on
past it. The next reference is never one that was issued before, and an issued one stays issued as
long as no generation wraps.
-/

namespace BlueprintBridge.SlotTable

set_option autoImplicit false

variable {kind : ObjectKind} {α : Type} {t : SlotTable kind α}

/-- Whether a reference was handed out: its slot holds it now, or is past it. -/
def Issued (t : SlotTable kind α) (ref : Ref kind) : Prop :=
  ∃ slot, t.slots[ref.index.toNat]? = some slot ∧
    (ref.generation < slot.generation ∨
      ref.generation = slot.generation ∧ slot.value.isSome = true)

/-- The free list and the size describe the slots. -/
structure Sound (t : SlotTable kind α) : Prop where
  free_nodup : t.free.Nodup
  free_iff : ∀ index : UInt32, index ∈ t.free ↔
    ∃ generation, t.slots[index.toNat]? = some ⟨generation, none⟩
  size_eq : t.size = t.slots.countP (·.value.isSome)

theorem index_ne {index other : UInt32} (apart : other ≠ index) : index.toNat ≠ other.toNat :=
  fun same => apart (UInt32.toNat_inj.mp same).symm

theorem generation_ne {ref other : Ref kind} (apart : other ≠ ref) (index : other.index = ref.index) :
    ref.generation ≠ other.generation := by
  obtain ⟨index, generation⟩ := ref
  rintro rfl
  cases index
  exact apart rfl

theorem get_eq_some {ref : Ref kind} {value : α} :
    t.get? ref = some value ↔
      ref ≠ Ref.null ∧ t.slots[ref.index.toNat]? = some ⟨ref.generation, some value⟩ := by
  unfold get?
  by_cases null : ref = Ref.null
  · simp [Ref.isNull, null]
  · simp only [Ref.isNull, null, decide_false, Bool.false_eq_true, if_false]
    cases t.slots[ref.index.toNat]? with
    | none => simp
    | some slot =>
        obtain ⟨generation, content⟩ := slot
        by_cases same : generation = ref.generation
        · simp [same, null]
        · simp [same]

theorem held_of_get {ref : Ref kind} {value : α} (live : t.get? ref = some value) :
    ref.index.toNat < t.slots.length ∧
      t.slots[ref.index.toNat]? = some ⟨ref.generation, some value⟩ := by
  have held := (get_eq_some.mp live).2
  exact ⟨(List.getElem?_eq_some_iff.mp held).1, held⟩

theorem contains_iff {ref : Ref kind} : t.contains ref = true ↔ ∃ value, t.get? ref = some value :=
  Option.isSome_iff_exists

theorem issued_of_contains {ref : Ref kind} (live : t.contains ref = true) : t.Issued ref := by
  obtain ⟨value, found⟩ := contains_iff.mp live
  exact ⟨_, (get_eq_some.mp found).2, .inr ⟨rfl, rfl⟩⟩

theorem get_of_not_issued {ref : Ref kind} (fresh : ¬ t.Issued ref) : t.get? ref = none := by
  cases live : t.get? ref with
  | none => rfl
  | some value => exact absurd (issued_of_contains (contains_iff.mpr ⟨value, live⟩)) fresh

theorem eq_of_same_index {ref other : Ref kind} (live : t.contains ref = true)
    (otherLive : t.contains other = true) (same : ref.index = other.index) : ref = other := by
  obtain ⟨value, found⟩ := contains_iff.mp live
  obtain ⟨otherValue, otherFound⟩ := contains_iff.mp otherLive
  have slot := (get_eq_some.mp found).2
  have otherSlot := (get_eq_some.mp otherFound).2
  rw [same, otherSlot] at slot
  obtain ⟨index, generation⟩ := ref
  obtain ⟨otherIndex, otherGeneration⟩ := other
  cases slot
  cases same
  rfl

theorem length_to_list (t : SlotTable kind α) :
    t.toList.length = t.slots.countP (·.value.isSome) := by
  rw [toList, List.length_filterMap_eq_countP]
  calc
    _ = t.slots.zipIdx.countP ((fun slot : Slot α => slot.value.isSome) ∘ Prod.fst) := by
      simp only [Option.isSome_map]
      rfl
    _ = _ := by rw [← List.countP_map, List.zipIdx_map_fst]

theorem mem_to_list {ref : Ref kind} {value : α} (live : t.get? ref = some value) :
    (ref, value) ∈ t.toList := by
  rw [toList, List.mem_filterMap]
  refine ⟨(⟨ref.generation, some value⟩, ref.index.toNat), ?_, ?_⟩
  · rw [List.mem_zipIdx_iff_getElem?]
    exact (get_eq_some.mp live).2
  · simp

theorem Sound.live_le_size (sound : t.Sound) {refs : List (Ref kind)} (nodup : refs.Nodup)
    (live : ∀ ref ∈ refs, t.contains ref = true) : refs.length ≤ t.size := by
  have listed : refs ⊆ t.toList.map Prod.fst := by
    intro ref member
    obtain ⟨value, found⟩ := contains_iff.mp (live ref member)
    exact List.mem_map_of_mem (f := Prod.fst) (mem_to_list found)
  have short := (List.Nodup.subperm nodup listed).length_le
  rwa [List.length_map, length_to_list, ← sound.size_eq] at short

/-- The slot that is filled next: an empty one, or a new one at the end. -/
theorem Sound.insert_cases (sound : t.Sound) (value : α) :
    (∃ index free generation, t.free = index :: free ∧
      t.slots[index.toNat]? = some ⟨generation, none⟩ ∧
      t.insert value = (⟨index, generation⟩,
        { slots := t.slots.set index.toNat ⟨generation, some value⟩
          free
          size := t.size + 1 })) ∨
    (t.free = [] ∧ t.insert value = (⟨UInt32.ofNat t.slots.length, 0⟩,
      { slots := t.slots ++ [⟨0, some value⟩]
        free := []
        size := t.size + 1 })) := by
  cases list : t.free with
  | nil => exact .inr ⟨rfl, by simp [insert, list]⟩
  | cons index free =>
      obtain ⟨generation, slot⟩ := (sound.free_iff index).mp (by simp [list])
      exact .inl ⟨index, free, generation, rfl, slot, by simp [insert, list, slot]⟩

theorem sound_empty : (empty : SlotTable kind α).Sound where
  free_nodup := List.nodup_nil
  free_iff index := by simp [empty]
  size_eq := rfl

theorem Sound.insert (sound : t.Sound) (value : α) : (t.insert value).2.Sound := by
  rcases sound.insert_cases value with ⟨index, free, generation, list, slot, same⟩ | ⟨list, same⟩
  · have inside : index.toNat < t.slots.length := (List.getElem?_eq_some_iff.mp slot).1
    have nodup := sound.free_nodup
    rw [list, List.nodup_cons] at nodup
    rw [same]
    refine ⟨nodup.2, fun other => ?_, ?_⟩
    · have before := sound.free_iff other
      rw [list, List.mem_cons] at before
      by_cases equal : other = index
      · subst equal
        simp [inside, nodup.1]
      · have apart := index_ne equal
        simpa [List.getElem?_set_ne apart, equal] using before
    · have empty := (List.getElem?_eq_some_iff.mp slot).2
      rw [List.countP_set inside, empty, sound.size_eq]
      simp
  · rw [same]
    refine ⟨List.nodup_nil, fun other => ?_, ?_⟩
    · have before := sound.free_iff other
      rw [list] at before
      constructor
      · intro member
        cases member
      · rintro ⟨generation, slot⟩
        apply before.mpr
        rw [List.getElem?_append] at slot
        split at slot
        · exact ⟨generation, slot⟩
        · next outside =>
            have held := List.mem_of_getElem? slot
            simp at held
    · simp [List.countP_append, sound.size_eq]

theorem Issued.insert (sound : t.Sound) {ref : Ref kind} (issued : t.Issued ref) (value : α) :
    (t.insert value).2.Issued ref := by
  obtain ⟨slot, found, order⟩ := issued
  rcases sound.insert_cases value with ⟨index, free, generation, list, empty, same⟩ | ⟨list, same⟩
  · rw [same]
    by_cases equal : index.toNat = ref.index.toNat
    · rw [← equal, empty] at found
      cases found
      have inside := (List.getElem?_eq_some_iff.mp empty).1
      refine ⟨⟨generation, some value⟩, ?_, ?_⟩
      · rw [← equal, List.getElem?_set_self inside]
      · rcases order with past | ⟨_, full⟩
        · exact .inl past
        · cases full
    · exact ⟨slot, by rw [List.getElem?_set_ne equal, found], order⟩
  · rw [same]
    exact ⟨slot, by rw [List.getElem?_append_left (List.getElem?_eq_some_iff.mp found).1, found],
      order⟩

theorem size_insert (t : SlotTable kind α) (value : α) : (t.insert value).2.size = t.size + 1 := by
  unfold insert
  split <;> rfl

/-- A table has room while a slot is free or the next one can be numbered. -/
def HasRoom (t : SlotTable kind α) : Prop := t.free = [] → t.slots.length < UInt32.size

/-- With room the value goes to a slot that held none, and no other slot changes. -/
theorem Sound.slot_insert (sound : t.Sound) (value : α) (room : t.HasRoom) (index : UInt32) :
    (t.insert value).2.slots[index.toNat]? =
      if index = (t.insert value).1.index then some ⟨(t.insert value).1.generation, some value⟩
      else t.slots[index.toNat]? := by
  rcases sound.insert_cases value with ⟨next, free, generation, list, empty, same⟩ | ⟨list, same⟩
  · rw [same]
    have inside := (List.getElem?_eq_some_iff.mp empty).1
    by_cases equal : index = next
    · rw [if_pos equal, equal, List.getElem?_set_self inside]
    · have apart := index_ne equal
      rw [if_neg equal, List.getElem?_set_ne apart]
  · rw [same]
    have number : (UInt32.ofNat t.slots.length).toNat = t.slots.length :=
      UInt32.toNat_ofNat_of_lt' (room list)
    by_cases equal : index = UInt32.ofNat t.slots.length
    · rw [if_pos equal, equal, number, List.getElem?_append_right (Nat.le_refl _)]
      simp
    · have apart : index.toNat ≠ t.slots.length := fun e =>
        equal (UInt32.toNat_inj.mp (e.trans number.symm))
      rw [if_neg equal, List.getElem?_append]
      split
      · rfl
      · next outside =>
          rw [List.getElem?_eq_none (by simp; omega), List.getElem?_eq_none (by omega)]

theorem Sound.slot_before_insert (sound : t.Sound) (value : α) (room : t.HasRoom) :
    t.slots[(t.insert value).1.index.toNat]? = some ⟨(t.insert value).1.generation, none⟩ ∨
      t.slots[(t.insert value).1.index.toNat]? = none := by
  rcases sound.insert_cases value with ⟨next, free, generation, list, empty, same⟩ | ⟨list, same⟩
  · rw [same]
    exact .inl empty
  · have number : (UInt32.ofNat t.slots.length).toNat = t.slots.length :=
      UInt32.toNat_ofNat_of_lt' (room list)
    rw [same, number]
    exact .inr (List.getElem?_eq_none (Nat.le_refl _))

theorem Sound.insert_not_issued (sound : t.Sound) (value : α) (room : t.HasRoom) :
    ¬ t.Issued (t.insert value).1 := by
  rintro ⟨slot, found, order⟩
  rcases sound.slot_before_insert value room with empty | missing
  · rw [empty] at found
    cases found
    rcases order with past | ⟨_, full⟩
    · exact UInt32.lt_irrefl _ past
    · cases full
  · rw [missing] at found
    cases found

theorem Sound.get_insert (sound : t.Sound) (value : α) (room : t.HasRoom) (ref : Ref kind) :
    (t.insert value).2.get? ref =
      if ref = (t.insert value).1 ∧ ref ≠ Ref.null then some value else t.get? ref := by
  by_cases null : ref = Ref.null
  · simp [null]
  apply Option.ext
  intro found
  rw [get_eq_some, sound.slot_insert value room]
  by_cases same : ref = (t.insert value).1
  · subst same
    simp [null]
  · have other : ¬ (ref = (t.insert value).1 ∧ ref ≠ Ref.null) := fun both => same both.1
    rw [if_neg other, get_eq_some]
    -- Another reference to the filled slot is of another generation, before and after.
    by_cases index : ref.index = (t.insert value).1.index
    · have apart := generation_ne same index
      rw [if_pos index, index]
      rcases sound.slot_before_insert value room with empty | missing
      · simp [empty, apart]
      · simp [missing, apart]
    · rw [if_neg index]

theorem Sound.get_insert_of_full (sound : t.Sound) (value : α) (full : ¬ t.HasRoom)
    (ref : Ref kind) : (t.insert value).2.get? ref = t.get? ref := by
  simp only [HasRoom, not_forall, Nat.not_lt] at full
  obtain ⟨list, long⟩ := full
  rcases sound.insert_cases value with ⟨_, _, _, some, _⟩ | ⟨_, same⟩
  · rw [list] at some
    cases some
  · have inside : ref.index.toNat < t.slots.length :=
      Nat.lt_of_lt_of_le ref.index.toNat_lt long
    rw [same]
    simp only [get?, List.getElem?_append_left inside]

/-- Either nothing that can be looked up changes, or the value is found under a reference that was
not issued before. -/
theorem Sound.get_insert_cases (sound : t.Sound) (value : α) :
    (∀ ref, (t.insert value).2.get? ref = t.get? ref) ∨
      ¬ t.Issued (t.insert value).1 ∧ ∀ ref, (t.insert value).2.get? ref =
        if ref = (t.insert value).1 then some value else t.get? ref := by
  by_cases room : t.HasRoom
  · by_cases null : (t.insert value).1 = Ref.null
    · left
      intro ref
      rw [sound.get_insert value room, if_neg]
      rintro ⟨same, notNull⟩
      exact notNull (same.trans null)
    · right
      refine ⟨sound.insert_not_issued value room, fun ref => ?_⟩
      rw [sound.get_insert value room]
      by_cases same : ref = (t.insert value).1
      · rw [if_pos ⟨same, fun isNull => null (same.symm.trans isNull)⟩, if_pos same]
      · rw [if_neg fun both => same both.1, if_neg same]
  · exact .inl (sound.get_insert_of_full value room)

theorem length_insert_le (t : SlotTable kind α) (value : α) :
    t.slots.length ≤ (t.insert value).2.slots.length ∧
      (t.insert value).2.slots.length ≤ t.slots.length + 1 := by
  unfold insert
  split <;> simp

/-- While the slots can be numbered, one number left over, the value is found under the next
reference, which was not issued before. -/
theorem Sound.get_insert_of_short (sound : t.Sound) (value : α)
    (short : (t.insert value).2.slots.length < UInt32.size) :
    ¬ t.Issued (t.insert value).1 ∧ ∀ ref, (t.insert value).2.get? ref =
      if ref = (t.insert value).1 then some value else t.get? ref := by
  have room : t.HasRoom := fun _ => Nat.lt_of_le_of_lt (t.length_insert_le value).1 short
  have filled := sound.slot_insert value room (t.insert value).1.index
  rw [if_pos rfl] at filled
  have inside := (List.getElem?_eq_some_iff.mp filled).1
  have notNull : (t.insert value).1 ≠ Ref.null := by
    intro null
    rw [null] at inside
    have last : (Ref.null : Ref kind).index.toNat = 4294967295 := rfl
    have size : UInt32.size = 4294967296 := rfl
    omega
  refine ⟨sound.insert_not_issued value room, fun ref => ?_⟩
  rw [sound.get_insert value room]
  by_cases same : ref = (t.insert value).1
  · rw [if_pos ⟨same, same ▸ notNull⟩, if_pos same]
  · rw [if_neg fun both => same both.1, if_neg same]

theorem remove_of_some {ref : Ref kind} {value : α} (live : t.get? ref = some value) :
    t.remove ref = (some value,
      { slots := t.slots.set ref.index.toNat ⟨ref.generation + 1, none⟩
        free := ref.index :: t.free
        size := t.size - 1 }) := by
  simp [remove, live]

theorem get_remove (t : SlotTable kind α) (ref other : Ref kind) :
    (t.remove ref).2.get? other = if other = ref then none else t.get? other := by
  cases live : t.get? ref with
  | none =>
      rw [remove_of_none live]
      split
      · next same => rw [same, live]
      · rfl
  | some value =>
      obtain ⟨inside, held⟩ := held_of_get live
      rw [remove_of_some live]
      apply Option.ext
      intro found
      -- Of the references to the slot only the removed one was live, and none is afterwards.
      by_cases index : other.index = ref.index
      · have gone : ({ slots := t.slots.set ref.index.toNat ⟨ref.generation + 1, none⟩
                       free := ref.index :: t.free
                       size := t.size - 1 } : SlotTable kind α).get? other ≠ some found := by
          intro lookup
          have slot := (get_eq_some.mp lookup).2
          rw [index, List.getElem?_set_self inside] at slot
          simp at slot
        have only : ¬ (other ≠ ref ∧ t.get? other = some found) := by
          rintro ⟨apart, otherLive⟩
          exact apart (eq_of_same_index (contains_iff.mpr ⟨found, otherLive⟩)
            (contains_iff.mpr ⟨value, live⟩) index)
        split <;> simp_all
      · have apart := index_ne index
        have different : other ≠ ref := fun same => index (congrArg Ref.index same)
        rw [if_neg different, get_eq_some, get_eq_some, List.getElem?_set_ne apart]

theorem length_remove (t : SlotTable kind α) (ref : Ref kind) :
    (t.remove ref).2.slots.length = t.slots.length := by
  unfold remove
  split <;> simp

theorem Sound.remove (sound : t.Sound) (ref : Ref kind) : (t.remove ref).2.Sound := by
  cases live : t.get? ref with
  | none =>
      rw [remove_of_none live]
      exact sound
  | some value =>
      obtain ⟨inside, held⟩ := held_of_get live
      have taken : ref.index ∉ t.free := by
        rw [sound.free_iff, held]
        simp
      rw [remove_of_some live]
      refine ⟨List.nodup_cons.mpr ⟨taken, sound.free_nodup⟩, fun other => ?_, ?_⟩
      · rw [List.mem_cons]
        by_cases equal : other = ref.index
        · simp [equal, inside]
        · have apart := index_ne equal
          simpa [List.getElem?_set_ne apart, equal] using sound.free_iff other
      · have full := (List.getElem?_eq_some_iff.mp held).2
        rw [List.countP_set inside, full, sound.size_eq]
        simp

/-- An issued reference stays issued, as the generation of the slot only grows. -/
theorem Issued.remove {ref other : Ref kind} (issued : t.Issued other)
    (unwrapped : t.contains ref = true → ref.generation.toNat + 1 < UInt32.size) :
    (t.remove ref).2.Issued other := by
  cases live : t.get? ref with
  | none =>
      rw [remove_of_none live]
      exact issued
  | some value =>
      obtain ⟨inside, held⟩ := held_of_get live
      have grows := unwrapped (contains_iff.mpr ⟨value, live⟩)
      obtain ⟨slot, found, order⟩ := issued
      rw [remove_of_some live]
      by_cases equal : ref.index.toNat = other.index.toNat
      · rw [← equal, held] at found
        cases found
        refine ⟨⟨ref.generation + 1, none⟩, ?_, .inl ?_⟩
        · rw [← equal, List.getElem?_set_self inside]
        · have next : (ref.generation + 1).toNat = ref.generation.toNat + 1 := by
            rw [UInt32.toNat_add]
            exact Nat.mod_eq_of_lt grows
          rw [UInt32.lt_iff_toNat_lt, next]
          rcases order with past | ⟨same, _⟩
          · have before : other.generation.toNat < ref.generation.toNat :=
              UInt32.lt_iff_toNat_lt.mp past
            omega
          · simp [same]
      · exact ⟨slot, by rw [List.getElem?_set_ne equal, found], order⟩

theorem modify_of_some {ref : Ref kind} {value : α} (live : t.get? ref = some value) (f : α → α) :
    t.modify ref f =
      { t with slots := t.slots.set ref.index.toNat ⟨ref.generation, some (f value)⟩ } := by
  simp [modify, live]

theorem modify_of_none {ref : Ref kind} (missing : t.get? ref = none) (f : α → α) :
    t.modify ref f = t := by
  simp [modify, missing]

theorem modify_of_fixed {ref : Ref kind} {f : α → α}
    (fixed : ∀ value, t.get? ref = some value → f value = value) : t.modify ref f = t := by
  cases live : t.get? ref with
  | none => exact modify_of_none live f
  | some value =>
      have held := (get_eq_some.mp live).2
      obtain ⟨inside, full⟩ := List.getElem?_eq_some_iff.mp held
      have same : t.slots.set ref.index.toNat ⟨ref.generation, some value⟩ = t.slots := by
        rw [← full, List.set_getElem_self]
      rw [modify_of_some live, fixed value live, same]

theorem get_modify (t : SlotTable kind α) (ref : Ref kind) (f : α → α) (other : Ref kind) :
    (t.modify ref f).get? other =
      if other = ref then (t.get? ref).map f else t.get? other := by
  cases live : t.get? ref with
  | none =>
      rw [modify_of_none live]
      split
      · next same => rw [same, live, Option.map_none]
      · rfl
  | some value =>
      have notNull := (get_eq_some.mp live).1
      obtain ⟨inside, held⟩ := held_of_get live
      rw [modify_of_some live]
      apply Option.ext
      intro found
      rw [get_eq_some]
      by_cases same : other = ref
      · subst same
        simp [notNull, inside]
      · rw [if_neg same, get_eq_some]
        by_cases index : other.index = ref.index
        · have full := (List.getElem?_eq_some_iff.mp held).2
          simp [index, inside, full, generation_ne same index]
        · have different := index_ne index
          rw [List.getElem?_set_ne different]

theorem length_modify (t : SlotTable kind α) (ref : Ref kind) (f : α → α) :
    (t.modify ref f).slots.length = t.slots.length := by
  unfold modify
  split <;> simp

theorem contains_modify (t : SlotTable kind α) (ref : Ref kind) (f : α → α) (other : Ref kind) :
    (t.modify ref f).contains other = t.contains other := by
  unfold contains
  rw [get_modify]
  split
  · next same => rw [same, Option.isSome_map]
  · rfl

theorem Sound.modify (sound : t.Sound) (ref : Ref kind) (f : α → α) : (t.modify ref f).Sound := by
  cases live : t.get? ref with
  | none =>
      rw [modify_of_none live]
      exact sound
  | some value =>
      obtain ⟨inside, held⟩ := held_of_get live
      rw [modify_of_some live]
      refine ⟨sound.free_nodup, fun other => ?_, ?_⟩
      · have before := sound.free_iff other
        by_cases equal : other = ref.index
        · subst equal
          rw [held] at before
          simpa [inside] using before
        · have apart := index_ne equal
          simpa [List.getElem?_set_ne apart] using before
      · have full := (List.getElem?_eq_some_iff.mp held).2
        have some : 0 < t.slots.countP (·.value.isSome) :=
          List.countP_pos_iff.mpr ⟨_, List.mem_of_getElem? held, rfl⟩
        rw [List.countP_set inside, full]
        simp only [sound.size_eq, Option.isSome_some, if_true]
        omega

theorem Issued.modify {other : Ref kind} (issued : t.Issued other) (ref : Ref kind) (f : α → α) :
    (t.modify ref f).Issued other := by
  cases live : t.get? ref with
  | none =>
      rw [modify_of_none live]
      exact issued
  | some value =>
      obtain ⟨inside, held⟩ := held_of_get live
      obtain ⟨slot, found, order⟩ := issued
      rw [modify_of_some live]
      by_cases equal : ref.index.toNat = other.index.toNat
      · rw [← equal, held] at found
        cases found
        exact ⟨⟨ref.generation, some (f value)⟩, by rw [← equal, List.getElem?_set_self inside],
          order⟩
      · exact ⟨slot, by rw [List.getElem?_set_ne equal, found], order⟩

end BlueprintBridge.SlotTable
