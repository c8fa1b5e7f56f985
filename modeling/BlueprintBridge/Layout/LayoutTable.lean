import BlueprintBridge.Catalog
import BlueprintBridge.Layout.ValueOps
import BlueprintBridge.Ref
import BlueprintBridge.Reflection.TypeName

/-!
Native layouts of the structs that the managed side passes by value.

A struct with operations has the size of its native type and is copied by the type's own copy or,
failing that, bit by bit; one without is only known by its reflected size and is not copied.
-/

namespace BlueprintBridge

set_option autoImplicit false

/-- Why a layout is refused. -/
inductive LayoutError where
  /-- The alignment of the struct is no power of two. -/
  | invalidAlignment (name : TypeName) (alignment : UInt64)
deriving DecidableEq, Repr

def LayoutError.message : LayoutError → String
  | invalidAlignment name alignment => s!"Struct '{name}' has invalid alignment {alignment}"

/-- The native view of a reflected struct. -/
structure NativeLayout where
  name : TypeName
  /-- The size computed from the reflected properties. -/
  structureSize : UInt64
  ops : Option ValueOps := none

namespace NativeLayout

/-- A struct known by reflection alone. -/
def reflected (name : TypeName) (size : UInt64) : NativeLayout := ⟨name, size, none⟩

/-- A struct with a native type behind it. -/
def withOps (name : TypeName) (ops : ValueOps) : NativeLayout := ⟨name, ops.size, some ops⟩

def nativeSize (l : NativeLayout) : UInt64 :=
  match l.ops with
  | some ops => ops.size
  | none => l.structureSize

def copyReach (l : NativeLayout) : Nat :=
  match l.ops with
  | none => 0
  | some ops => if ops.hasCopy then ops.copyReach 1 else ops.size.toNat

def copy (l : NativeLayout) (src dest : Bytes) : Bool × Bytes :=
  match l.ops with
  | none => (false, dest)
  | some ops =>
    if ops.hasCopy then ops.copy 1 src dest
    else (true, overwrite ops.size.toNat src dest)

end NativeLayout

def isPowerOfTwo (n : UInt64) : Bool := n ≠ 0 && n &&& (n - 1) = 0

/-- Layouts by the struct they belong to. -/
structure LayoutTable where
  layouts : Catalog StructRef NativeLayout := .empty

namespace LayoutTable

/-- Records the layout of a struct; gives the one it replaces. -/
def register (t : LayoutTable) (ref : StructRef) (l : NativeLayout) :
    Except LayoutError (Option NativeLayout × LayoutTable) :=
  match l.ops.filter fun ops => !isPowerOfTwo ops.alignment with
  | some ops => .error (.invalidAlignment l.name ops.alignment)
  | none => .ok (t.layouts.get? ref, ⟨t.layouts.insert ref l⟩)

def get? (t : LayoutTable) (ref : StructRef) : Option NativeLayout := t.layouts.get? ref

def remove (t : LayoutTable) (ref : StructRef) : Option NativeLayout × LayoutTable :=
  (t.get? ref, ⟨t.layouts.erase ref⟩)

def size? (t : LayoutTable) (ref : StructRef) : Option UInt64 := (t.get? ref).map (·.nativeSize)

/-- Copies one value of a struct; a struct without a layout is not copied. -/
def copy (t : LayoutTable) (ref : StructRef) (src dest : Bytes) : Bool × Bytes :=
  match t.get? ref with
  | some l => l.copy src dest
  | none => (false, dest)

/-- How many bytes of either buffer `copy` reaches. -/
def copyReach (t : LayoutTable) (ref : StructRef) : Nat := ((t.get? ref).map (·.copyReach)).getD 0

def count (t : LayoutTable) : Nat := t.layouts.size

end LayoutTable

end BlueprintBridge
