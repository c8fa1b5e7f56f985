import BlueprintBridge.Event.Channel
import BlueprintBridge.Reflection.Types

/-!
What a host announces, and the five channels it announces it on.
-/

namespace BlueprintBridge

set_option autoImplicit false

/-- What an announcement is about. -/
inductive EventKind where
  | newClass | newStruct | newEnum | pendingProcessed | assemblyLoaded
deriving DecidableEq, Repr, Inhabited

namespace EventKind

def all : List EventKind := [newClass, newStruct, newEnum, pendingProcessed, assemblyLoaded]

def channelName : EventKind → String
  | newClass => "OnNewClass"
  | newStruct => "OnNewStruct"
  | newEnum => "OnNewEnum"
  | pendingProcessed => "OnProcessedPendingClasses"
  | assemblyLoaded => "OnManagedAssemblyLoaded"

end EventKind

/-- News for the subscribers of a host. -/
inductive Announcement where
  /-- A class was generated or regenerated. -/
  | newClass (ref : ClassRef)
  | newStruct (ref : StructRef)
  | newEnum (ref : EnumRef)
  /-- Parked definitions were retried: so many gave a class, so many are parked now. -/
  | pendingProcessed (processed remaining : Nat)
  | assemblyLoaded (assembly : String)
deriving DecidableEq, Repr

def Announcement.kind : Announcement → EventKind
  | newClass _ => .newClass
  | newStruct _ => .newStruct
  | newEnum _ => .newEnum
  | pendingProcessed _ _ => .pendingProcessed
  | assemblyLoaded _ => .assemblyLoaded

/-- The channels of a host, one for each kind of announcement. -/
structure Channels (H : Type) where
  newClass : Channel H
  newStruct : Channel H
  newEnum : Channel H
  pendingProcessed : Channel H
  assemblyLoaded : Channel H

namespace Channels

variable {H : Type}

/-- Five channels without a handler. -/
def initial : Channels H where
  newClass := ⟨EventKind.newClass.channelName, []⟩
  newStruct := ⟨EventKind.newStruct.channelName, []⟩
  newEnum := ⟨EventKind.newEnum.channelName, []⟩
  pendingProcessed := ⟨EventKind.pendingProcessed.channelName, []⟩
  assemblyLoaded := ⟨EventKind.assemblyLoaded.channelName, []⟩

def get (c : Channels H) : EventKind → Channel H
  | .newClass => c.newClass
  | .newStruct => c.newStruct
  | .newEnum => c.newEnum
  | .pendingProcessed => c.pendingProcessed
  | .assemblyLoaded => c.assemblyLoaded

def set (c : Channels H) (kind : EventKind) (channel : Channel H) : Channels H :=
  match kind with
  | .newClass => { c with newClass := channel }
  | .newStruct => { c with newStruct := channel }
  | .newEnum => { c with newEnum := channel }
  | .pendingProcessed => { c with pendingProcessed := channel }
  | .assemblyLoaded => { c with assemblyLoaded := channel }

theorem get_set (c : Channels H) (kind other : EventKind) (channel : Channel H) :
    (c.set kind channel).get other = if other = kind then channel else c.get other := by
  cases kind <;> cases other <;> rfl

@[simp] theorem get_set_self (c : Channels H) (kind : EventKind) (channel : Channel H) :
    (c.set kind channel).get kind = channel := by
  simp [get_set]

def render (c : Channels H) : String :=
  "ManagedEvents \x7b new_class: " ++ c.newClass.render ++
    ", new_struct: " ++ c.newStruct.render ++
    ", new_enum: " ++ c.newEnum.render ++
    ", processed_pending_classes: " ++ c.pendingProcessed.render ++
    ", managed_assembly_loaded: " ++ c.assemblyLoaded.render ++ " \x7d"

end Channels

end BlueprintBridge
