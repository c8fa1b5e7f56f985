import BlueprintBridge.Log
import BlueprintBridge.Ref

/-!
The backlog: blueprints that wait to be compiled, in two lanes.

Components are compiled first, because actors embed their components by value and need their
final layout. A wait list holds no blueprint twice, and a blueprint waits in one lane only: the
one it was last put into.
-/

namespace BlueprintBridge

set_option autoImplicit false

/-- The two lanes. -/
inductive Lane where
  /-- Blueprints of classes that derive from the component base. -/
  | components
  /-- All other blueprints. -/
  | classes
deriving DecidableEq, Repr, Inhabited

namespace Lane

/-- The lanes in the order they are drained. -/
def order : List Lane := [components, classes]

def other : Lane → Lane
  | components => classes
  | classes => components

def word : Lane → String
  | components => "components"
  | classes => "classes"

def name : Lane → String
  | components => "Components"
  | classes => "Classes"

instance : ToString Lane := ⟨word⟩

@[simp] theorem other_other (l : Lane) : l.other.other = l := by cases l <;> rfl

theorem other_ne (l : Lane) : l.other ≠ l := by cases l <;> decide

end Lane

/-- Blueprints in the order they were put in, none twice. -/
structure WaitList where
  entries : List BlueprintRef := []
deriving DecidableEq, Repr, Inhabited

namespace WaitList

def contains (w : WaitList) (b : BlueprintRef) : Bool := b ∈ w.entries

/-- Puts a blueprint at the end unless it waits already; tells whether it was put. -/
def push (w : WaitList) (b : BlueprintRef) : Bool × WaitList :=
  if b ∈ w.entries then (false, w) else (true, ⟨w.entries ++ [b]⟩)

/-- Takes a blueprint out; tells whether it was waiting. -/
def remove (w : WaitList) (b : BlueprintRef) : Bool × WaitList :=
  (w.contains b, ⟨w.entries.filter (· ≠ b)⟩)

def size (w : WaitList) : Nat := w.entries.length

def isEmpty (w : WaitList) : Bool := w.entries.isEmpty

def render (w : WaitList) : String :=
  "CompileQueue \x7b entries: [" ++ ", ".intercalate (w.entries.map Ref.render) ++ "] \x7d"

theorem mem_push (w : WaitList) (b other : BlueprintRef) :
    other ∈ (w.push b).2.entries ↔ other ∈ w.entries ∨ other = b := by
  unfold push
  split
  · next h => exact ⟨Or.inl, fun o => o.elim id fun e => e ▸ h⟩
  · simp

theorem mem_remove (w : WaitList) (b other : BlueprintRef) :
    other ∈ (w.remove b).2.entries ↔ other ∈ w.entries ∧ other ≠ b := by
  simp [remove]

theorem nodup_push {w : WaitList} (h : w.entries.Nodup) (b : BlueprintRef) :
    (w.push b).2.entries.Nodup := by
  unfold push
  split
  · exact h
  · next hn =>
    simp only [List.nodup_append]
    refine ⟨h, by simp, ?_⟩
    intro a ha c hc e
    simp_all

theorem nodup_remove {w : WaitList} (h : w.entries.Nodup) (b : BlueprintRef) :
    (w.remove b).2.entries.Nodup := h.filter _

end WaitList

/-- The two lanes with the blueprints that wait in them. -/
structure Backlog where
  components : WaitList := {}
  classes : WaitList := {}
deriving DecidableEq, Repr, Inhabited

namespace Backlog

def lane (b : Backlog) : Lane → WaitList
  | .components => b.components
  | .classes => b.classes

def setLane (b : Backlog) (lane : Lane) (list : WaitList) : Backlog :=
  match lane with
  | .components => { b with components := list }
  | .classes => { b with classes := list }

/-- Puts a blueprint into a lane and out of the other one, to the end if it was not in the lane;
tells whether the lane changed. -/
def enqueue (b : Backlog) (lane : Lane) (blueprint : BlueprintRef) : Bool × Backlog :=
  let cleared := b.setLane lane.other ((b.lane lane.other).remove blueprint).2
  let (added, list) := (cleared.lane lane).push blueprint
  (added, cleared.setLane lane list)

/-- The record of putting a blueprint into a lane: a note if it comes out of the other one. -/
def enqueueRecords (b : Backlog) (lane : Lane) (blueprint : BlueprintRef) : List Record :=
  if (b.lane lane.other).contains blueprint then
    [⟨.debug, s!"Blueprint {blueprint} moved from the {lane.other} queue to the {lane} queue"⟩]
  else []

def take (b : Backlog) (lane : Lane) : List BlueprintRef × Backlog :=
  ((b.lane lane).entries, b.setLane lane {})

def contains (b : Backlog) (lane : Lane) (blueprint : BlueprintRef) : Bool :=
  (b.lane lane).contains blueprint

/-- The lane a blueprint waits in. -/
def find? (b : Backlog) (blueprint : BlueprintRef) : Option Lane :=
  Lane.order.find? fun lane => b.contains lane blueprint

def size (b : Backlog) (lane : Lane) : Nat := (b.lane lane).size

def totalSize (b : Backlog) : Nat := b.size .components + b.size .classes

def isEmpty (b : Backlog) : Bool := b.totalSize = 0

end Backlog

end BlueprintBridge
