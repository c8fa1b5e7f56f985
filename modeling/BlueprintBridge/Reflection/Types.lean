import BlueprintBridge.Ref
import BlueprintBridge.Reflection.TypeName

/-!
What the type graph holds: classes, structs and enums generated for managed types, and the
blueprints and packages around them.
-/

namespace BlueprintBridge

set_option autoImplicit false

/-- A class generated for a managed type. -/
structure ManagedClass where
  name : TypeName
  /-- The parent; a root has none. -/
  superClass : Option ClassRef := none
  /-- The blueprint whose compilation makes this class. -/
  generatedBy : Option BlueprintRef := none
deriving DecidableEq, Repr

/-- Which compiler a blueprint goes through. -/
inductive BlueprintKind where
  | native | managed
deriving DecidableEq, Repr, Inhabited

def BlueprintKind.word : BlueprintKind → String
  | native => "Native"
  | managed => "Managed"

instance : ToString BlueprintKind := ⟨BlueprintKind.word⟩

/-- An asset around a generated class. -/
structure Blueprint where
  name : String
  kind : BlueprintKind
  package : Option PackageRef := none
  generatedClass : Option ClassRef := none
deriving DecidableEq, Repr

/-- A type that a struct or an enum depends on. -/
inductive ManagedReference where
  | toClass (ref : ClassRef)
  | toStruct (ref : StructRef)
deriving DecidableEq, Repr

/-- The class a reference leads to, if it leads to one. -/
def ManagedReference.class? : ManagedReference → Option ClassRef
  | toClass ref => some ref
  | toStruct _ => none

/-- References without repetition, in the order they were found. -/
structure ReferenceSet where
  entries : List ManagedReference := []
deriving DecidableEq, Repr, Inhabited

namespace ReferenceSet

/-- The set without a reference. -/
def empty : ReferenceSet := {}

/-- Puts a reference at the end unless it is there already; tells whether it was put. -/
def add (refs : ReferenceSet) (ref : ManagedReference) : Bool × ReferenceSet :=
  if ref ∈ refs.entries then (false, refs) else (true, ⟨refs.entries ++ [ref]⟩)

/-- The references of a list, each where it first occurs. -/
def ofList (refs : List ManagedReference) : ReferenceSet :=
  refs.foldl (fun set ref => (set.add ref).2) empty

def classes (refs : ReferenceSet) : List ClassRef := refs.entries.filterMap (·.class?)

def size (refs : ReferenceSet) : Nat := refs.entries.length

def isEmpty (refs : ReferenceSet) : Bool := refs.entries.isEmpty

theorem mem_add (refs : ReferenceSet) (ref other : ManagedReference) :
    other ∈ (refs.add ref).2.entries ↔ other ∈ refs.entries ∨ other = ref := by
  unfold add
  split
  · next h => exact ⟨Or.inl, fun o => o.elim id fun e => e ▸ h⟩
  · simp

end ReferenceSet

/-- A struct generated for a managed type. -/
structure ManagedStruct where
  name : TypeName
  references : ReferenceSet := {}
deriving DecidableEq, Repr

/-- An enum generated for a managed type. -/
structure ManagedEnum where
  name : TypeName
  references : ReferenceSet := {}
deriving DecidableEq, Repr

/-- A place for generated types and their blueprints. -/
structure Package where
  name : String
  /-- Whether it was made for a managed assembly. -/
  isManaged : Bool
deriving DecidableEq, Repr

end BlueprintBridge
