import BlueprintBridge.Ref

/-!
Slot tables: storage that hands out references and refuses stale ones.

A removed value leaves its slot free, at the next generation; the slot freed last is filled
first. `get?` and `toList` are the views of a table.
-/

namespace BlueprintBridge

set_option autoImplicit false

/-- A place for one value, with the generation that a live reference to it carries. -/
structure Slot (α : Type) where
  generation : UInt32
  value : Option α
deriving DecidableEq, Repr, Inhabited

/-- Values by reference; `free` lists the empty slots, the one freed last first. -/
structure SlotTable (kind : ObjectKind) (α : Type) where
  slots : List (Slot α) := []
  free : List UInt32 := []
  size : Nat := 0
deriving DecidableEq, Repr

namespace SlotTable

variable {kind : ObjectKind} {α : Type}

/-- The table without a slot. -/
def empty : SlotTable kind α := {}

instance : Inhabited (SlotTable kind α) := ⟨empty⟩

/-- The value `r` refers to, if it is still the one `r` was handed out for. -/
def get? (t : SlotTable kind α) (r : Ref kind) : Option α :=
  if r.isNull then none
  else match t.slots[r.index.toNat]? with
    | some slot => if slot.generation = r.generation then slot.value else none
    | none => none

def contains (t : SlotTable kind α) (r : Ref kind) : Bool := (t.get? r).isSome

def isEmpty (t : SlotTable kind α) : Bool := t.size = 0

/-- Stores a value, in the slot freed last or else in a new one. -/
def insert (t : SlotTable kind α) (value : α) : Ref kind × SlotTable kind α :=
  match t.free with
  | index :: free =>
    let generation := (t.slots[index.toNat]?.map (·.generation)).getD 0
    (⟨index, generation⟩,
      { slots := t.slots.set index.toNat ⟨generation, some value⟩, free, size := t.size + 1 })
  | [] =>
    (⟨UInt32.ofNat t.slots.length, 0⟩,
      { slots := t.slots ++ [⟨0, some value⟩], free := [], size := t.size + 1 })

/-- Takes a live value out; every reference to it is stale from then on. -/
def remove (t : SlotTable kind α) (r : Ref kind) : Option α × SlotTable kind α :=
  match t.get? r with
  | none => (none, t)
  | some value =>
    (some value,
      { slots := t.slots.set r.index.toNat ⟨r.generation + 1, none⟩,
        free := r.index :: t.free, size := t.size - 1 })

/-- Applies `f` to a live value; a stale reference changes nothing. -/
def modify (t : SlotTable kind α) (r : Ref kind) (f : α → α) : SlotTable kind α :=
  match t.get? r with
  | none => t
  | some value => { t with slots := t.slots.set r.index.toNat ⟨r.generation, some (f value)⟩ }

/-- The live values with their references, in the order of the slots. -/
def toList (t : SlotTable kind α) : List (Ref kind × α) :=
  t.slots.zipIdx.filterMap fun (slot, index) =>
    slot.value.map fun value => (⟨UInt32.ofNat index, slot.generation⟩, value)

@[simp] theorem get?_null (t : SlotTable kind α) : t.get? Ref.null = none := by
  simp [get?, Ref.isNull]

@[simp] theorem get?_empty (r : Ref kind) : (empty : SlotTable kind α).get? r = none := by
  simp [get?, empty]

theorem remove_of_none {t : SlotTable kind α} {r : Ref kind} (h : t.get? r = none) :
    t.remove r = (none, t) := by
  simp [remove, h]

theorem remove_fst (t : SlotTable kind α) (r : Ref kind) : (t.remove r).1 = t.get? r := by
  unfold remove
  split <;> simp_all

end SlotTable

end BlueprintBridge
