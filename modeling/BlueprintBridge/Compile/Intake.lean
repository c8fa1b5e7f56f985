import BlueprintBridge.Compile.Backlog
import BlueprintBridge.Reflection.TypeGraph

/-!
The intake: turns news of types into entries of the backlog.

A class puts the blueprint that owns it into the lane of the class. A struct or an enum does so
for each class among its references. A class that no live blueprint owns puts nothing.
-/

namespace BlueprintBridge.Intake

set_option autoImplicit false

def laneOf (g : TypeGraph) (ref : ClassRef) : Lane :=
  if g.isComponent ref then .components else .classes

/-- Queues the blueprint that owns a class; gives the lane it waits in. -/
def queueClass (g : TypeGraph) (b : Backlog) (ref : ClassRef) : Logged (Option Lane × Backlog) :=
  match g.ownerOf? ref with
  | none => ⟨(none, b), [⟨.trace, s!"Class {ref} has no live blueprint, skipping"⟩]⟩
  | some owner =>
    let lane := laneOf g ref
    let (added, next) := b.enqueue lane owner
    let queued : List Record :=
      if added then
        [⟨.debug, s!"Queued blueprint {owner} for class {ref} in the {lane} queue"⟩]
      else []
    ⟨(some lane, next), b.enqueueRecords lane owner ++ queued⟩

def queueClasses (g : TypeGraph) : Backlog → List ClassRef → Logged Backlog
  | b, [] => pure b
  | b, ref :: rest => do
    let (_, next) ← queueClass g b ref
    queueClasses g next rest

def queueReferences (g : TypeGraph) (b : Backlog) (refs : ReferenceSet) : Logged Backlog :=
  queueClasses g b refs.classes

def queueStruct (g : TypeGraph) (b : Backlog) (ref : StructRef) : Logged Backlog :=
  match g.struct? ref with
  | some s => queueReferences g b s.references
  | none => pure b

def queueEnum (g : TypeGraph) (b : Backlog) (ref : EnumRef) : Logged Backlog :=
  match g.enum? ref with
  | some e => queueReferences g b e.references
  | none => pure b

/-- The blueprints in managed packages, in the order of the packages and then of their slots. -/
def managedBlueprints (g : TypeGraph) : List BlueprintRef :=
  g.managedPackages.flatMap g.blueprintsIn

/-- Queues the owner of the generated class of every blueprint in a managed package; gives the
number of blueprints visited. -/
def reconcile (g : TypeGraph) (b : Backlog) : Logged (Nat × Backlog) := do
  let visited := managedBlueprints g
  let next ← queueClasses g b (visited.filterMap g.generatedClass?)
  return (visited.length, next)

end BlueprintBridge.Intake
