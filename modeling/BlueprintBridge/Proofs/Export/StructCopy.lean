import BlueprintBridge.Export.Bindings
import BlueprintBridge.Proofs.Layout.Clones
import BlueprintBridge.Proofs.Layout.LayoutTable
import Mathlib.Order.Interval.Set.Nat

/-!
# Copying structs, and the size that is reported for it

A copy goes by the layout in force: it moves the bytes of one value, or does what the type's own
copy does to one value, or nothing. The exported copy is the same copy. The exported size is the
size of that value only as long as it fits into a signed word of 32 bits: of a larger struct with a
native type the copy writes more bytes than are reported.
-/

namespace BlueprintBridge

set_option autoImplicit false

open Session (LayoutStep)

variable {t : LayoutTable} {ref : StructRef} {l : NativeLayout} {ops : ValueOps}
  {src dest : Bytes}

structure MovesBytes (size : Nat) (src dest : Bytes) (copy : Bool × Bytes) : Prop where
  copied : copy.1 = true
  length : copy.2.length = dest.length
  moved : ∀ i < size, copy.2[i]? = src[i]?
  kept : ∀ i, size ≤ i → copy.2[i]? = dest[i]?

structure ClonesValues (width count : Nat) (equal : Bytes → Bytes → Prop) (src dest : Bytes)
    (copy : Bool × Bytes) : Prop where
  copied : copy.1 = true
  length : copy.2.length = dest.length
  moved : ∀ i < count, equal (valueAt width i copy.2) (valueAt width i src)
  kept : ∀ i, count * width ≤ i → copy.2[i]? = dest[i]?

/-- The copies of one struct after a row of registrations and removals. -/
structure StructCopies (history : List LayoutStep) (ref : StructRef) : Prop where
  in_force : ∀ l, (LayoutTable.after history).get? ref = some l ↔
    LayoutTable.InForce history ref l
  /-- A layout that is refused leaves every layout as it is. -/
  refused : ∀ other l, ¬ l.Aligned → (∃ ops, l.ops = some ops ∧
      (LayoutTable.after history).register other l =
        .error (.invalidAlignment l.name ops.alignment)) ∧
    LayoutTable.after (history ++ [.register other l]) = LayoutTable.after history
  nothing : (∀ l, LayoutTable.InForce history ref l → l.ops = none) → ∀ src dest,
    (LayoutTable.after history).copy ref src dest = (false, dest)
  bytes : ∀ l ops, LayoutTable.InForce history ref l → l.ops = some ops → ops.copyRule = none →
    (LayoutTable.after history).size? ref = some ops.size ∧
    ∀ src dest, ops.size.toNat ≤ src.length → ops.size.toNat ≤ dest.length →
      MovesBytes ops.size.toNat src dest ((LayoutTable.after history).copy ref src dest)
  own : ∀ l ops rule, LayoutTable.InForce history ref l → l.ops = some ops →
    ops.copyRule = some rule → ∀ src dest,
      (LayoutTable.after history).copy ref src dest = rule.run 1 src dest
  exported : ∀ installed src dest,
    Export.structCopy (some installed) (LayoutTable.after history) ref.toBits (some src)
        (some dest) =
      (((LayoutTable.after history).copy ref src dest).1,
        some ((LayoutTable.after history).copy ref src dest).2)

theorem overwrite_moves {size : Nat} (enough : size ≤ src.length) (room : size ≤ dest.length) :
    MovesBytes size src dest (true, overwrite size src dest) where
  copied := rfl
  length := by
    rw [overwrite, List.length_append, List.length_take, List.length_drop]
    omega
  moved i bound := by rw [getElem?_overwrite enough, if_pos bound]
  kept i behind := by rw [getElem?_overwrite enough, if_neg (Nat.not_lt.mpr behind)]

theorem copy_of_found (found : t.get? ref = some l) : t.copy ref src dest = l.copy src dest := by
  rw [LayoutTable.copy, found]

theorem copy_of_missing (missing : t.get? ref = none) : t.copy ref src dest = (false, dest) := by
  rw [LayoutTable.copy, missing]

theorem copy_without_ops (plain : l.ops = none) : l.copy src dest = (false, dest) := by
  rw [NativeLayout.copy, plain]

theorem copy_without_rule (typed : l.ops = some ops) (bitwise : ops.copyRule = none) :
    l.copy src dest = (true, overwrite ops.size.toNat src dest) := by
  simp [NativeLayout.copy, typed, ValueOps.hasCopy, bitwise]

theorem copy_by_rule {rule : CopyRule} (typed : l.ops = some ops)
    (own : ops.copyRule = some rule) : l.copy src dest = rule.run 1 src dest := by
  simp [NativeLayout.copy, typed, ValueOps.hasCopy, ValueOps.copy, own]

theorem native_size_of_ops (typed : l.ops = some ops) : l.nativeSize = ops.size := by
  rw [NativeLayout.nativeSize, typed]

theorem size_of_found (found : t.get? ref = some l) : t.size? ref = some l.nativeSize := by
  rw [LayoutTable.size?, found]
  rfl

theorem struct_copy_eq (installed : Bindings) (t : LayoutTable) (ref : StructRef)
    (src dest : Bytes) :
    Export.structCopy (some installed) t ref.toBits (some src) (some dest) =
      ((t.copy ref src dest).1, some (t.copy ref src dest).2) := by
  rw [Export.structCopy, Ref.ofBits_toBits]

theorem struct_copies (history : List LayoutStep) (ref : StructRef) :
    StructCopies history ref := by
  have in_force := LayoutTable.get_after_iff history ref
  constructor
  case in_force => exact in_force
  case refused =>
    intro other l unaligned
    obtain ⟨ops, typed, _, refused⟩ :=
      LayoutTable.register_unaligned (LayoutTable.after history) other unaligned
    refine ⟨⟨ops, typed, refused⟩, ?_⟩
    rw [LayoutTable.after_snoc, LayoutTable.changed, refused]
  case nothing =>
    intro plain src dest
    cases found : (LayoutTable.after history).get? ref with
    | none => exact copy_of_missing found
    | some l =>
        have bare := plain l ((in_force l).mp found)
        exact (copy_of_found found).trans (copy_without_ops bare)
  case bytes =>
    intro l ops force typed bitwise
    have found := (in_force l).mpr force
    refine ⟨?_, fun src dest enough room => ?_⟩
    · rw [size_of_found found, native_size_of_ops typed]
    · rw [copy_of_found found, copy_without_rule typed bitwise]
      exact overwrite_moves enough room
  case own =>
    intro l ops rule force typed own src dest
    exact (copy_of_found ((in_force l).mpr force)).trans (copy_by_rule typed own)
  case exported => exact fun installed => struct_copy_eq installed _ ref

/-- Clones of the first values take the place of as many values, and nothing else changes. -/
theorem copy_clones {width count : Nat} {equal : Bytes → Bytes → Prop} {clone : Bytes → Bytes}
    (clones : Clones width equal clone) (based : ops.copyRule = some (.cloneBy width clone))
    (enough : count * width ≤ src.length) (room : count * width ≤ dest.length) :
    ClonesValues width count equal src dest (ops.copy count src dest) := by
  have cloned := cloned_cloneValues clones.length enough room
  rw [ValueOps.copy, based]
  constructor
  · rfl
  · exact cloned.length
  · intro i bound
    have inside : i * width + width ≤ src.length := (place_before width bound).trans enough
    change equal (valueAt width i (cloneValues width clone src count dest)) _
    rw [cloned.values i bound]
    exact clones.equal _ (length_value_at inside)
  · exact cloned.behind

/-- A struct is copied by the layout in force, one value or nothing, also across the boundary; and
operations that clone put a clone of each value in its place. -/
theorem struct_copies_move_one_value (history : List LayoutStep) (ref : StructRef) :
    StructCopies history ref ∧
    ∀ (ops : ValueOps) (width : Nat) (equal : Bytes → Bytes → Prop) (clone : Bytes → Bytes),
      Clones width equal clone → ops.copyRule = some (.cloneBy width clone) →
      ∀ count (src dest : Bytes), count * width ≤ src.length → count * width ≤ dest.length →
        ClonesValues width count equal src dest (ops.copy count src dest) :=
  ⟨struct_copies history ref, fun _ _ _ _ clones based _ _ _ => copy_clones clones based⟩

def vector : NativeLayout := .withOps ⟨"Engine", "", "Vector"⟩ ⟨2, 1, none⟩

def relaid : List LayoutStep :=
  [.register ⟨0, 0⟩ vector, .register ⟨0, 0⟩ (.withOps vector.name ⟨4, 3, none⟩)]

theorem vector_in_force : LayoutTable.InForce relaid ⟨0, 0⟩ vector := by
  have three : ¬ (3 : UInt64).toNat.isPowerOfTwo :=
    (LayoutTable.is_power_of_two_iff 3).not.mp (by decide)
  refine ⟨[], _, rfl, ?_, ?_⟩
  · rintro _ ⟨⟩
    exact (LayoutTable.is_power_of_two_iff 1).mp (by decide)
  · intro step member
    rw [List.mem_singleton.mp member]
    exact fun decides => three (decides.2 _ rfl)

theorem relaid_vector_moves_one_value :
    LayoutTable.InForce relaid ⟨0, 0⟩ vector ∧
      MovesBytes 2 [1, 2, 3] [9, 9, 9]
        ((LayoutTable.after relaid).copy ⟨0, 0⟩ [1, 2, 3] [9, 9, 9]) ∧
      Clones 2 (· = ·) id ∧
      ClonesValues 2 2 (· = ·) [1, 2, 3, 4] [9, 9, 9, 9, 9]
        (ValueOps.copy ⟨2, 1, some (.cloneEach 2)⟩ 2 [1, 2, 3, 4] [9, 9, 9, 9, 9]) := by
  obtain ⟨copies, cloning⟩ := struct_copies_move_one_value relaid ⟨0, 0⟩
  have identical : Clones 2 (· = ·) id := ⟨fun _ whole => whole, fun _ _ => rfl⟩
  refine ⟨vector_in_force, ?_, identical, ?_⟩
  · exact (copies.bytes vector _ vector_in_force rfl rfl).2 _ _ (by decide) (by decide)
  · exact cloning _ 2 _ id identical rfl 2 _ _ (by decide) (by decide)

namespace Export

def writtenPlaces (installed : Bindings) (layouts : LayoutTable) (ref : StructRef) (size : Nat) :
    Set Nat :=
  {i | ∃ src dest after : Bytes, size ≤ src.length ∧ size ≤ dest.length ∧
    (structCopy (some installed) layouts ref.toBits (some src) (some dest)).2 = some after ∧
    after[i]? ≠ dest[i]?}

/-- What is reported for a struct against what copying it takes. -/
structure SizeReport (installed : Bindings) (layouts : LayoutTable) (ref : StructRef)
    (l : NativeLayout) : Prop where
  size : layouts.size? ref = some l.nativeSize
  reported : structSize (some installed) layouts ref.toBits = min l.nativeSize.toNat largestSize
  exact_iff : structSize (some installed) layouts ref.toBits = l.nativeSize.toNat ↔
    l.nativeSize.toNat ≤ largestSize
  written : (writtenPlaces installed layouts ref l.nativeSize.toNat).ncard =
    if l.ops.isSome then l.nativeSize.toNat else 0
  covers_iff : (writtenPlaces installed layouts ref l.nativeSize.toNat).ncard ≤
      structSize (some installed) layouts ref.toBits ↔
    l.ops = none ∨ l.nativeSize.toNat ≤ largestSize

theorem struct_size_eq (installed : Bindings) (found : t.get? ref = some l) :
    structSize (some installed) t ref.toBits = min l.nativeSize.toNat largestSize := by
  simp [structSize, Ref.ofBits_toBits, size_of_found found]

theorem written_places_without_ops (installed : Bindings) (found : t.get? ref = some l)
    (plain : l.ops = none) (size : Nat) : writtenPlaces installed t ref size = ∅ := by
  ext i
  simp only [writtenPlaces, struct_copy_eq, copy_of_found found, copy_without_ops plain]
  simp

/-- A copy of bytes can change each byte of a value, and no other. -/
theorem written_places_of_bytes (installed : Bindings) (found : t.get? ref = some l)
    (typed : l.ops = some ops) (bitwise : ops.copyRule = none) :
    writtenPlaces installed t ref ops.size.toNat = Set.Iio ops.size.toNat := by
  ext i
  simp only [writtenPlaces, struct_copy_eq, copy_of_found found, copy_without_rule typed bitwise,
    Set.mem_ofPred_eq, Set.mem_Iio, Option.some.injEq]
  constructor
  · rintro ⟨src, dest, _, enough, room, rfl, differs⟩
    by_contra behind
    exact differs ((overwrite_moves enough room).kept i (Nat.not_lt.mp behind))
  · intro bound
    have enough (byte : UInt8) :
        ops.size.toNat ≤ (List.replicate ops.size.toNat byte).length := by simp
    refine ⟨.replicate ops.size.toNat 1, .replicate ops.size.toNat 0, _, enough 1, enough 0,
      rfl, ?_⟩
    rw [(overwrite_moves (enough 1) (enough 0)).moved i bound]
    simp [bound]

theorem ncard_written (installed : Bindings) (found : t.get? ref = some l)
    (bitwise : ∀ ops, l.ops = some ops → ops.copyRule = none) :
    (writtenPlaces installed t ref l.nativeSize.toNat).ncard =
      if l.ops.isSome then l.nativeSize.toNat else 0 := by
  cases typed : l.ops with
  | none => simp [written_places_without_ops installed found typed]
  | some ops =>
      rw [native_size_of_ops typed,
        written_places_of_bytes installed found typed (bitwise ops typed), Set.ncard_Iio_nat]
      rfl

/-- The size reported for a struct is that of its layout, and enough for copying it, exactly as long
as that is no more than can be reported; without a native type nothing is copied. -/
theorem size_reported_covers_copy_iff (installed : Bindings) (layouts : LayoutTable)
    (ref : StructRef) (l : NativeLayout) (found : layouts.get? ref = some l)
    (bitwise : ∀ ops, l.ops = some ops → ops.copyRule = none) :
    SizeReport installed layouts ref l := by
  have reported := struct_size_eq installed found
  have written := ncard_written installed found bitwise
  constructor
  case size => exact size_of_found found
  case reported => exact reported
  case exact_iff => rw [reported, min_eq_left_iff]
  case written => exact written
  case covers_iff =>
    rw [reported, written]
    cases typed : l.ops with
    | none => simp
    | some ops => simp

def oversized : NativeLayout := .withOps ⟨"Engine", "", "Heightmap"⟩ ⟨2147483648, 8, none⟩

def oversizedTable : LayoutTable := .after [.register ⟨0, 0⟩ oversized]

theorem oversized_found : oversizedTable.get? ⟨0, 0⟩ = some oversized := rfl

theorem oversized_bitwise : ∀ ops, oversized.ops = some ops → ops.copyRule = none := by
  rintro _ ⟨⟩
  rfl

theorem oversized_size_reported_short :
    oversizedTable.size? ⟨0, 0⟩ = some 2147483648 ∧
      structSize (some {}) oversizedTable (Ref.toBits (⟨0, 0⟩ : StructRef)) = 2147483647 ∧
      (writtenPlaces {} oversizedTable ⟨0, 0⟩ 2147483648).ncard = 2147483648 := by
  refine ⟨rfl, ?_, ncard_written {} oversized_found oversized_bitwise⟩
  rw [struct_size_eq {} oversized_found]
  rfl

theorem oversized_size_report :
    oversizedTable.get? ⟨0, 0⟩ = some oversized ∧
      (∀ ops, oversized.ops = some ops → ops.copyRule = none) ∧
      SizeReport {} oversizedTable ⟨0, 0⟩ oversized :=
  ⟨oversized_found, oversized_bitwise,
    size_reported_covers_copy_iff {} oversizedTable ⟨0, 0⟩ oversized oversized_found
      oversized_bitwise⟩

end Export

end BlueprintBridge
