import BlueprintBridge.Catalog
import BlueprintBridge.Handle.Handle

/-!
A cabinet: named drawers that own handles.

Every step moves handles between drawers, takes new ones in, gives some back or lets some go.
What happens to them is listed as effects; a handle put into a drawer pushes out what was there.
-/

namespace BlueprintBridge

set_option autoImplicit false

/-- Handles by the name of their drawer. -/
structure Cabinet where
  drawers : Catalog String Handle := .empty

namespace Cabinet

/-- What can be done with the handles of a cabinet. -/
inductive Step where
  | adopt (drawer : String) (address : UInt64) (kind : HandleKind)
  /-- Puts the null handle in. -/
  | clear (drawer : String)
  | look (drawer : String)
  /-- Moves the handle to another drawer; the null handle stays behind. -/
  | take (drawer target : String)
  /-- Puts the handle of drawer `source` in, and what was there into drawer `rest`. -/
  | replace (drawer source rest : String)
  | dispose (drawer : String) (releaser : Releaser)
  | drop (drawer : String)
  /-- Hands the parts of the handle out. -/
  | handOut (drawer : String)
  | compare (drawer other : String)
  | disposeObject (address : UInt64) (callbacks : RuntimeCallbacks)
  | release (address : UInt64) (kind : HandleKind) (callbacks : RuntimeCallbacks)
deriving DecidableEq, Repr

/-- What a step answers. -/
inductive Reply where
  | handle (h : Handle)
  | nothing
  | flag (value : Bool)
  | parts (address : UInt64) (kind : HandleKind)
  | same (value : Bool)
  /-- There is no such drawer. -/
  | noDrawer
deriving DecidableEq, Repr

/-- Puts a handle into a drawer and lets go of what was there. -/
def put (c : Cabinet) (drawer : String) (h : Handle) : Cabinet × List HandleEffect :=
  (⟨c.drawers.insert drawer h⟩, (c.drawers.get? drawer).elim [] Handle.drop)

/-- One step: its answer, the cabinet after it, and what happened to handles. -/
def step (c : Cabinet) : Step → Reply × Cabinet × List HandleEffect
  | .adopt drawer address kind =>
    let h := Handle.adopt address kind
    (.handle h, c.put drawer h)
  | .clear drawer => (.handle .null, c.put drawer .null)
  | .look drawer =>
    match c.drawers.get? drawer with
    | some h => (.handle h, c, [])
    | none => (.noDrawer, c, [])
  | .take drawer target =>
    match c.drawers.get? drawer with
    | some h => (.handle h, put ⟨c.drawers.insert drawer .null⟩ target h)
    | none => (.noDrawer, c, [])
  | .replace drawer source rest =>
    match c.drawers.get? source with
    | none => (.noDrawer, c, [])
    | some incoming =>
      let without : Cabinet := ⟨c.drawers.erase source⟩
      match without.drawers.get? drawer with
      | none => (.noDrawer, without, incoming.drop)
      | some previous =>
        (.handle previous, put ⟨without.drawers.insert drawer incoming⟩ rest previous)
  | .dispose drawer releaser =>
    match c.drawers.get? drawer with
    | some h =>
      let (left, effects) := h.dispose releaser
      (.handle left, ⟨c.drawers.insert drawer left⟩, effects)
    | none => (.noDrawer, c, [])
  | .drop drawer =>
    match c.drawers.get? drawer with
    | some h => (.nothing, ⟨c.drawers.erase drawer⟩, h.drop)
    | none => (.noDrawer, c, [])
  | .handOut drawer =>
    match c.drawers.get? drawer with
    | some h => (.parts h.address h.kind, ⟨c.drawers.erase drawer⟩, [])
    | none => (.noDrawer, c, [])
  | .compare drawer other =>
    match c.drawers.get? drawer, c.drawers.get? other with
    | some h, some k => (.same (h.sameObject k), c, [])
    | _, _ => (.noDrawer, c, [])
  | .disposeObject address callbacks =>
    let (done, effects) := callbacks.disposeObject address
    (.flag done, c, effects)
  | .release address kind callbacks => (.nothing, c, [callbacks.release address kind])

/-- Lets go of every handle, in the order of the names of the drawers. -/
def close (c : Cabinet) : List HandleEffect :=
  (c.drawers.entries.mergeSort fun a b => a.1 ≤ b.1).flatMap fun drawer => drawer.2.drop

/-- The answers and effects of steps in order, and the cabinet after them. -/
def run (c : Cabinet) : List Step → List (Reply × List HandleEffect) × Cabinet
  | [] => ([], c)
  | s :: rest =>
    let (reply, next, effects) := c.step s
    let (replies, last) := next.run rest
    ((reply, effects) :: replies, last)

end Cabinet

end BlueprintBridge
