/-!
References to engine objects.

A reference names a slot of a table and the generation the slot had when the object was put
there. Once the object is gone the slot moves on to the next generation, so an old reference
resolves to nothing. The reference with all bits set refers to nothing at all.
-/

namespace BlueprintBridge

set_option autoImplicit false

/-- What a reference refers to. -/
inductive ObjectKind where
  | managedClass | managedStruct | managedEnum | blueprint | package | text
deriving DecidableEq, Repr, Inhabited

def ObjectKind.word : ObjectKind → String
  | managedClass => "ManagedClass"
  | managedStruct => "ManagedStruct"
  | managedEnum => "ManagedEnum"
  | blueprint => "Blueprint"
  | package => "Package"
  | text => "String"

/-- A slot and the generation it is meant to hold. -/
structure Ref (kind : ObjectKind) where
  index : UInt32
  generation : UInt32
deriving DecidableEq, Repr

abbrev ClassRef := Ref .managedClass
abbrev StructRef := Ref .managedStruct
abbrev EnumRef := Ref .managedEnum
abbrev BlueprintRef := Ref .blueprint
abbrev PackageRef := Ref .package

namespace Ref

variable {kind : ObjectKind}

def null : Ref kind := ⟨4294967295, 4294967295⟩

instance : Inhabited (Ref kind) := ⟨null⟩

def isNull (r : Ref kind) : Bool := r = null

/-- The generation in the upper and the index in the lower half of a word. -/
def toBits (r : Ref kind) : UInt64 :=
  UInt64.ofNat (r.generation.toNat * 4294967296 + r.index.toNat)

def ofBits (bits : UInt64) : Ref kind :=
  ⟨UInt32.ofNat (bits.toNat % 4294967296), UInt32.ofNat (bits.toNat / 4294967296)⟩

def render (r : Ref kind) : String :=
  if r.isNull then s!"{kind.word}(null)" else s!"{kind.word}({r.index}v{r.generation})"

instance : ToString (Ref kind) := ⟨render⟩

theorem toNat_toBits (r : Ref kind) :
    r.toBits.toNat = r.generation.toNat * 4294967296 + r.index.toNat := by
  have hg := r.generation.toNat_lt
  have hi := r.index.toNat_lt
  simp only [toBits, UInt64.toNat_ofNat']
  omega

@[simp] theorem ofBits_toBits (r : Ref kind) : ofBits r.toBits = r := by
  obtain ⟨i, g⟩ := r
  have hi : i.toNat < 4294967296 := i.toNat_lt
  have hg : g.toNat < 4294967296 := g.toNat_lt
  have low : (g.toNat * 4294967296 + i.toNat) % 4294967296 = i.toNat := by omega
  have high : (g.toNat * 4294967296 + i.toNat) / 4294967296 = g.toNat := by omega
  simp [ofBits, toNat_toBits, low, high]

theorem toBits_injective {r s : Ref kind} (h : r.toBits = s.toBits) : r = s := by
  rw [← ofBits_toBits r, h, ofBits_toBits]

end Ref

end BlueprintBridge
