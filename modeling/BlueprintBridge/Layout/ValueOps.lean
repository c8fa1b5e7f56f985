/-!
Value operations: the size of a native type and how its values are copied.

A copy writes values over others: it gives the bytes of the destination afterwards and whether
it could be made. Buffers are lists of bytes.
-/

namespace BlueprintBridge

set_option autoImplicit false

abbrev Bytes := List UInt8

/-- The first `count` elements of `dest` become those of `src`. -/
def overwrite {α : Type} (count : Nat) (src dest : List α) : List α :=
  src.take count ++ dest.drop count

theorem getElem?_overwrite {α : Type} {count : Nat} {src dest : List α}
    (h : count ≤ src.length) (i : Nat) :
    (overwrite count src dest)[i]? = if i < count then src[i]? else dest[i]? := by
  simp only [overwrite, List.getElem?_append, List.length_take, Nat.min_eq_left h]
  split
  · next hi => simp [hi]
  · next hi => rw [List.getElem?_drop]; congr 1; omega

/-- Value number `i` of a buffer of values that are `width` bytes wide. -/
def valueAt (width i : Nat) (buffer : Bytes) : Bytes := (buffer.drop (i * width)).take width

/-- Puts a value in the place of value number `i`. -/
def putValue (width i : Nat) (value buffer : Bytes) : Bytes :=
  buffer.take (i * width) ++ value ++ buffer.drop (i * width + width)

/-- Clones the first `count` values of `src` over those of `dest`, one after the other. -/
def cloneValues (width : Nat) (clone : Bytes → Bytes) (src : Bytes) : Nat → Bytes → Bytes
  | 0, dest => dest
  | i + 1, dest =>
    putValue width i (clone (valueAt width i src)) (cloneValues width clone src i dest)

/-- What a copy gives, if both buffers are as long as it reaches. -/
def guardCopy {α : Type} (reach : Nat) (src dest : List α) (copy : Bool × List α) :
    Option (Bool × List α) :=
  if src.length < reach || dest.length < reach then none else some copy

/-- A copy of its own that a native type brings along. -/
structure CopyRule where
  /-- How many bytes of either buffer a copy of so many values reaches. -/
  reach : Nat → Nat
  /-- Copies so many values from the first buffer over the second. -/
  run : Nat → Bytes → Bytes → Bool × Bytes

namespace CopyRule

/-- Copies values of this width by way of their clones. -/
def cloneBy (width : Nat) (clone : Bytes → Bytes) : CopyRule where
  reach count := count * width
  run count src dest := (true, cloneValues width clone src count dest)

/-- Copies values whose clones are the same bytes. -/
def cloneEach (width : Nat) : CopyRule := cloneBy width id

/-- Copies `width` bytes for a value, each combined with `mask` by exclusive or. -/
def masked (width : Nat) (mask : UInt8) : CopyRule where
  reach count := count * width
  run count src dest := (true, overwrite (count * width) (src.map (· ^^^ mask)) dest)

def refuse : CopyRule where
  reach _ := 0
  run _ _ dest := (false, dest)

/-- Writes the first byte, once, and fails. -/
def firstByte : CopyRule where
  reach _ := 1
  run _ src dest := (false, overwrite 1 src dest)

end CopyRule

/-- The size and alignment of a native type, and its own copy if it has one. -/
structure ValueOps where
  size : UInt64
  alignment : UInt64
  copyRule : Option CopyRule := none

namespace ValueOps

def hasCopy (ops : ValueOps) : Bool := ops.copyRule.isSome

/-- Runs the type's own copy on `count` values; without one nothing is copied. -/
def copy (ops : ValueOps) (count : Nat) (src dest : Bytes) : Bool × Bytes :=
  match ops.copyRule with
  | some rule => rule.run count src dest
  | none => (false, dest)

/-- How many bytes of either buffer `copy` reaches. -/
def copyReach (ops : ValueOps) (count : Nat) : Nat :=
  match ops.copyRule with
  | some rule => rule.reach count
  | none => 0

end ValueOps

end BlueprintBridge
