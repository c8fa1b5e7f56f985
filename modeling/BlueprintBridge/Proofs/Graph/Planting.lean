import BlueprintBridge.Proofs.Graph.Generation
import BlueprintBridge.Proofs.Graph.Names

/-!
# Generating a new class

A definition with a free name, a live parent and no dead blueprint is generated, as long as the
class slots can be numbered: one class more is live under its name, and nothing else that can be
looked up changes, except for the blueprint that the class is bound to.
-/

namespace BlueprintBridge.TypeGraph

set_option autoImplicit false

variable {g next : TypeGraph} {d : ClassDefinition} {ref parent : ClassRef} {owner : BlueprintRef}

structure Planted (g : TypeGraph) (planted : ManagedClass) (ref : ClassRef) (next : TypeGraph) :
    Prop where
  fresh : g.class? ref = none
  indexed : next.Indexed
  names : ∀ name, next.findClass? name = if name = planted.name then some ref else g.findClass? name
  classes : ∀ other, next.class? other = if other = ref then some planted else g.class? other
  blueprints : ∀ owner, next.blueprints.contains owner = g.blueprints.contains owner
  root : next.objectClass = g.objectClass
  slots : next.classes.slots.length ≤ g.classes.slots.length + 1

theorem planted_with_class {name : TypeName} (indexed : g.Indexed)
    (free : g.findClass? name = none) (short : g.classes.slots.length + 1 < UInt32.size) :
    Planted g { name, superClass := some parent } (g.withClass name parent).1
      (g.withClass name parent).2 := by
  have grown := (g.classes.length_insert_le { name, superClass := some parent }).2
  have numbered := Nat.lt_of_le_of_lt grown short
  obtain ⟨fresh, lookup⟩ := indexed.table.get_insert_of_short _ numbered
  exact {
    fresh := SlotTable.get_of_not_issued fresh
    indexed := indexed.added (c := { name, superClass := some parent }) free rfl rfl numbered
    names := fun other => Catalog.get?_insert _ _ _ _
    classes := lookup
    blueprints := fun _ => rfl
    root := rfl
    slots := grown }

theorem Planted.bind {planted : ManagedClass} (plant : Planted g planted ref next)
    (owned : g.blueprints.contains owner = true) :
    ∃ bound, next.bind owner ref = .ok bound ∧
      Planted g { planted with generatedBy := some owner } ref bound := by
  have live : next.class? ref = some planted := by rw [plant.classes, if_pos rfl]
  have present : next.classes.contains ref = true := SlotTable.contains_iff.mpr ⟨planted, live⟩
  have known : next.blueprints.contains owner = true := by rw [plant.blueprints, owned]
  refine ⟨{ next with
    blueprints := next.blueprints.modify owner fun b => { b with generatedClass := some ref }
    classes := next.classes.modify ref fun c => { c with generatedBy := some owner } },
    by simp [TypeGraph.bind, present, known], ?_⟩
  exact {
    fresh := plant.fresh
    indexed := plant.indexed.changed rfl rfl fun _ => rfl
    names := plant.names
    classes := by
      intro other
      have before := plant.classes other
      unfold class? at live before ⊢
      rw [SlotTable.get_modify]
      split
      · rw [live]
        rfl
      · next apart => rw [before, if_neg apart]
    blueprints := fun other => (SlotTable.contains_modify _ _ _ _).trans (plant.blueprints other)
    root := plant.root
    slots := by
      rw [SlotTable.length_modify]
      exact plant.slots }

namespace Planted

variable {planted : ManagedClass}

theorem find_class_of_some (plant : Planted g planted ref next)
    (free : g.findClass? planted.name = none) {name : TypeName} {other : ClassRef}
    (found : g.findClass? name = some other) : next.findClass? name = some other := by
  have apart : name ≠ planted.name := by
    rintro rfl
    rw [free] at found
    cases found
  rw [plant.names, if_neg apart, found]

theorem class_of_some (plant : Planted g planted ref next) {other : ClassRef} {c : ManagedClass}
    (found : g.class? other = some c) : next.class? other = some c := by
  have apart : other ≠ ref := by
    rintro rfl
    rw [plant.fresh] at found
    cases found
  rw [plant.classes, if_neg apart, found]

theorem parent_for_of_some (plant : Planted g planted ref next)
    (free : g.findClass? planted.name = none) {other : ClassDefinition} {above : ClassRef}
    (found : g.parentFor? other = some above) : next.parentFor? other = some above := by
  unfold parentFor? at found ⊢
  split at found
  · exact plant.find_class_of_some free found
  · rwa [plant.root]

end Planted

theorem generate_new (indexed : g.Indexed) (resolved : g.parentFor? d = some parent)
    (live : g.classes.contains parent = true) (free : g.findClass? d.name = none)
    (owned : ∀ owner ∈ d.blueprint, g.blueprints.contains owner = true)
    (short : g.classes.slots.length + 1 < UInt32.size) :
    ∃ ref next, g.generate d = (.ok (some ref), next) ∧
      Planted g ⟨d.name, some parent, d.blueprint⟩ ref next := by
  have placed := place_class_free free live
  have plant : Planted g { name := d.name, superClass := some parent } _ _ :=
    planted_with_class indexed free short
  cases blueprint : d.blueprint with
  | none => exact ⟨_, _, by simp [generate, resolved, placed, blueprint], plant⟩
  | some owner =>
      obtain ⟨bound, binding, planted⟩ := plant.bind (owned owner blueprint)
      exact ⟨_, bound, by simp [generate, resolved, placed, blueprint, binding], planted⟩

theorem generate_orphan (orphan : g.parentFor? d = none) : g.generate d = (.ok none, g) := by
  simp [generate, orphan]

end BlueprintBridge.TypeGraph
