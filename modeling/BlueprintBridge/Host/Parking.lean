import BlueprintBridge.Log
import BlueprintBridge.Reflection.TypeGraph

/-!
Parked definitions: classes that wait until their parent is registered.

A pass tries every parked definition once, in order. Passes follow each other while the last one
left fewer definitions parked than it found, and some; so their number is bounded by the number
of definitions.
-/

namespace BlueprintBridge

set_option autoImplicit false

/-- The outcome of trying parked definitions: the graph after it, the classes made, in order, and
the definitions that stay parked, in order. -/
structure Pass where
  graph : TypeGraph
  generated : List ClassRef
  parked : List ClassDefinition

namespace TypeGraph

def generatedRecord (d : ClassDefinition) (ref : ClassRef) : Record :=
  ⟨.trace, s!"Generated class '{d.name}' as {ref}"⟩

/-- The record of a parked definition that cannot be generated. -/
def droppedRecord (d : ClassDefinition) (e : GraphError) : Record :=
  ⟨.warn, s!"Dropping class '{d.name}': {e.message}"⟩

/-- Tries each definition once; one that fails is dropped with a warning. -/
def retry (g : TypeGraph) : List ClassDefinition → Logged Pass
  | [] => ⟨⟨g, [], []⟩, []⟩
  | d :: rest =>
    match g.generate d with
    | (.ok (some ref), next) =>
      let pass := retry next rest
      ⟨{ pass.value with generated := ref :: pass.value.generated },
        generatedRecord d ref :: pass.records⟩
    | (.ok none, next) =>
      let pass := retry next rest
      ⟨{ pass.value with parked := d :: pass.value.parked }, pass.records⟩
    | (.error e, next) =>
      let pass := retry next rest
      ⟨pass.value, droppedRecord d e :: pass.records⟩

theorem length_parked_retry (g : TypeGraph) (ds : List ClassDefinition) :
    (g.retry ds).value.parked.length ≤ ds.length := by
  induction ds generalizing g with
  | nil => simp [retry]
  | cons d rest ih =>
    unfold retry
    split
    · exact Nat.le_succ_of_le (ih _)
    · simpa using ih _
    · exact Nat.le_succ_of_le (ih _)

/-- Tries the definitions again and again until a pass gets no further. -/
def settle (g : TypeGraph) (ds : List ClassDefinition) : Logged Pass :=
  let first := g.retry ds
  if _progress : first.value.parked.length ≠ ds.length ∧ first.value.parked ≠ [] then
    let next := settle first.value.graph first.value.parked
    ⟨{ next.value with generated := first.value.generated ++ next.value.generated },
      first.records ++ next.records⟩
  else first
termination_by ds.length
decreasing_by
  have bound : first.value.parked.length ≤ ds.length := length_parked_retry g ds
  exact Nat.lt_of_le_of_ne bound _progress.1

end TypeGraph

end BlueprintBridge
