import BlueprintBridge.Log
import BlueprintBridge.Text.Quoted

/-!
Handles: owned references to objects of the managed heap.

A handle is an address that the managed runtime gave out and the strength it was given out with.
It has one owner, who hands it on, gives it back to the runtime, or drops it; a rooting handle
that is dropped keeps its object alive for good, so a warning is written.
-/

namespace BlueprintBridge

set_option autoImplicit false

/-- The strength of a handle. -/
inductive HandleKind where
  | null | strong | weak | pinned
deriving DecidableEq, Repr, Inhabited

namespace HandleKind

def name : HandleKind → String
  | null => "Null"
  | strong => "Strong"
  | weak => "Weak"
  | pinned => "Pinned"

def isRooting : HandleKind → Bool
  | strong | pinned => true
  | null | weak => false

end HandleKind

def addressText (address : UInt64) : String := Text.hexNumber address.toNat

/-- An address of the managed heap and the strength it is held with. -/
structure Handle where
  address : UInt64
  kind : HandleKind
deriving DecidableEq, Repr

namespace Handle

def null : Handle := ⟨0, .null⟩

instance : Inhabited Handle := ⟨null⟩

/-- Adopts an address from the runtime; the address zero gives the null handle. -/
def adopt (address : UInt64) (kind : HandleKind) : Handle :=
  if address = 0 then null else ⟨address, kind⟩

def isNull (h : Handle) : Bool := h.address = 0

def isWeak (h : Handle) : Bool := h.kind = .weak

/-- Two handles are the same if they lead to the same address. -/
def sameObject (h other : Handle) : Bool := h.address = other.address

def render (h : Handle) : String :=
  if h.isNull then "GcHandle(null)" else s!"GcHandle({addressText h.address}, {h.kind.name})"

@[simp] theorem adopt_zero (kind : HandleKind) : adopt 0 kind = null := by simp [adopt]

theorem adopt_of_ne {address : UInt64} (h : address ≠ 0) (kind : HandleKind) :
    adopt address kind = ⟨address, kind⟩ := by simp [adopt, h]

end Handle

/-- What happens to a handle, or to its object, as the runtime and the log see it. -/
inductive HandleEffect where
  /-- Given back to a releaser. -/
  | released (address : UInt64) (kind : HandleKind)
  /-- Given back through the runtime's own entry. -/
  | freed (address : UInt64) (kind : HandleKind)
  /-- Given back to a runtime without the entry for it. -/
  | leaked (address : UInt64) (kind : HandleKind)
  /-- The object was told to dispose itself. -/
  | disposed (address : UInt64)
  /-- Let go by its owner without being given back. -/
  | dropped (address : UInt64) (kind : HandleKind)
deriving DecidableEq, Repr

def HandleEffect.record? : HandleEffect → Option Record
  | leaked address kind =>
    some ⟨.warn, s!"Managed runtime has no free_handle callback, leaking {kind.name} handle {addressText address}"⟩
  | dropped address kind =>
    if kind.isRooting then
      some ⟨.warn, s!"{kind.name} handle {addressText address} dropped without dispose; the managed object stays rooted"⟩
    else none
  | _ => none

/-- The entries of its table that a managed runtime provides. -/
structure RuntimeCallbacks where
  freeHandle : Bool := false
  dispose : Bool := false
  lookupManagedType : Bool := false
deriving DecidableEq, Repr, Inhabited

namespace RuntimeCallbacks

def release (c : RuntimeCallbacks) (address : UInt64) (kind : HandleKind) : HandleEffect :=
  if c.freeHandle then .freed address kind else .leaked address kind

/-- Has an object dispose itself; tells whether there was an object and an entry for it. -/
def disposeObject (c : RuntimeCallbacks) (address : UInt64) : Bool × List HandleEffect :=
  if c.dispose && address ≠ 0 then (true, [.disposed address]) else (false, [])

end RuntimeCallbacks

/-- Where a handle goes when it is given back. -/
inductive Releaser where
  | recorder
  | runtime (callbacks : RuntimeCallbacks)
deriving DecidableEq, Repr

def Releaser.release (r : Releaser) (address : UInt64) (kind : HandleKind) : HandleEffect :=
  match r with
  | recorder => .released address kind
  | runtime callbacks => callbacks.release address kind

namespace Handle

/-- Gives a handle back and leaves the null handle; a null handle is left alone. -/
def dispose (h : Handle) (r : Releaser) : Handle × List HandleEffect :=
  if h.isNull then (h, []) else (null, [r.release h.address h.kind])

def drop (h : Handle) : List HandleEffect :=
  if h.isNull then [] else [.dropped h.address h.kind]

/-- A handle disposed once has nothing left to give back. -/
theorem dispose_dispose (h : Handle) (r s : Releaser) :
    ((h.dispose r).1.dispose s).2 = [] := by
  unfold dispose
  split <;> simp_all [isNull, null]

end Handle

end BlueprintBridge
