import BlueprintBridge.Proofs.SlotTable
import BlueprintBridge.Reflection.TypeGraph
import Mathlib.Logic.Relation

/-!
# The changes of a type graph

A graph is reachable if single successful operations lead to it from the initial one. To the
parents of the classes a change does one of four things: nothing, adding a class under a live one
or none, taking a class away, or moving a class under one that does not derive from it.
-/

namespace BlueprintBridge.TypeGraph

set_option autoImplicit false

/-- One successful operation, an unchecked edit excepted. No removal wraps a generation. -/
inductive Change : TypeGraph → TypeGraph → Prop where
  | addPackage (g : TypeGraph) (package : Package) : Change g (g.addPackage package).2
  | addBlueprint (g : TypeGraph) (blueprint : Blueprint) : Change g (g.addBlueprint blueprint).2
  | removeBlueprint (g : TypeGraph) (ref : BlueprintRef)
      (unwrapped : g.blueprints.contains ref = true → ref.generation.toNat + 1 < UInt32.size) :
      Change g (g.removeBlueprint ref).2
  | addClass {g next : TypeGraph} {c : ManagedClass} {ref : ClassRef}
      (added : g.addClass c = .ok (ref, next)) : Change g next
  | removeClass (g : TypeGraph) (ref : ClassRef)
      (unwrapped : g.classes.contains ref = true → ref.generation.toNat + 1 < UInt32.size) :
      Change g (g.removeClass ref).2
  | setSuper {g next : TypeGraph} {ref parent : ClassRef}
      (moved : g.setSuper ref parent = .ok next) : Change g next
  | bind {g next : TypeGraph} {owner : BlueprintRef} {ref : ClassRef}
      (bound : g.bind owner ref = .ok next) : Change g next
  | addStruct {g next : TypeGraph} {s : ManagedStruct} {ref : StructRef}
      (added : g.addStruct s = .ok (ref, next)) : Change g next
  | setStructReferences {g next : TypeGraph} {ref : StructRef} {references : ReferenceSet}
      (changed : g.setStructReferences ref references = .ok next) : Change g next
  | addEnum {g next : TypeGraph} {e : ManagedEnum} {ref : EnumRef}
      (added : g.addEnum e = .ok (ref, next)) : Change g next
  | setEnumReferences (g : TypeGraph) (ref : EnumRef) (references : ReferenceSet) :
      Change g (g.setEnumReferences ref references).2

/-- The graphs that successful operations lead to. -/
abbrev Reachable : TypeGraph → Prop := Relation.ReflTransGen Change initial

variable {g next : TypeGraph} {ref parent : ClassRef}

theorem add_class_ok {c : ManagedClass} (added : g.addClass c = .ok (ref, next)) :
    g.classNames.contains c.name = false ∧
      (∀ parent ∈ c.superClass, g.classes.contains parent = true) ∧
      ref = (g.classes.insert c).1 ∧
      next = { g with
        classes := (g.classes.insert c).2
        classNames := g.classNames.insert c.name ref } := by
  unfold addClass at added
  split at added
  · cases added
  · next free =>
      split at added
      · cases added
      · next live =>
          cases added
          refine ⟨(Bool.not_eq_true _).mp free, ?_, rfl, rfl⟩
          intro parent named
          simpa [Option.mem_def.mp named] using live

theorem add_class_eq {c : ManagedClass} (free : g.findClass? c.name = none)
    (live : ∀ parent ∈ c.superClass, g.classes.contains parent = true) :
    g.addClass c = .ok ((g.classes.insert c).1, { g with
      classes := (g.classes.insert c).2
      classNames := g.classNames.insert c.name (g.classes.insert c).1 }) := by
  have unnamed : g.classNames.contains c.name = false := by
    rw [Catalog.contains, show g.classNames.get? c.name = none from free]
    rfl
  have parented : (c.superClass.any fun parent => !g.classes.contains parent) = false := by
    cases named : c.superClass with
    | none => rfl
    | some parent => simp [live parent named]
  simp [addClass, unnamed, parented]

theorem remove_class_frame (g : TypeGraph) (ref : ClassRef) :
    ∃ classNames, (g.removeClass ref).2 =
      { g with classes := (g.classes.remove ref).2, classNames } := by
  unfold removeClass
  split
  · next removed => exact ⟨_, by rw [removed]⟩
  · next missing =>
      have gone : g.classes.get? ref = none := by
        rw [← SlotTable.remove_fst, missing]
      exact ⟨g.classNames, by rw [SlotTable.remove_of_none gone]⟩

theorem remove_class_classes (g : TypeGraph) (ref : ClassRef) :
    (g.removeClass ref).2.classes = (g.classes.remove ref).2 := by
  obtain ⟨classNames, same⟩ := g.remove_class_frame ref
  rw [same]

theorem set_super_ok (moved : g.setSuper ref parent = .ok next) :
    g.classes.contains ref = true ∧ g.classes.contains parent = true ∧
      g.derivesFrom parent ref = false ∧
      next = { g with
        classes := g.classes.modify ref fun c => { c with superClass := some parent } } := by
  unfold setSuper at moved
  split at moved
  · cases moved
  · next c found =>
      split at moved
      · cases moved
      · next live =>
          split at moved
          · cases moved
          · next apart =>
              cases moved
              exact ⟨SlotTable.contains_iff.mpr ⟨c, found⟩, by simpa using live,
                (Bool.not_eq_true _).mp apart, rfl⟩

theorem bind_ok {owner : BlueprintRef} (bound : g.bind owner ref = .ok next) :
    g.classes.contains ref = true ∧ g.blueprints.contains owner = true ∧
      next = { g with
        blueprints := g.blueprints.modify owner fun b => { b with generatedClass := some ref }
        classes := g.classes.modify ref fun c => { c with generatedBy := some owner } } := by
  unfold bind at bound
  split at bound
  · cases bound
  · next live =>
      split at bound
      · cases bound
      · next owned =>
          cases bound
          exact ⟨by simpa using live, by simpa using owned, rfl⟩

theorem add_struct_ok {s : ManagedStruct} {ref : StructRef}
    (added : g.addStruct s = .ok (ref, next)) :
    g.findStruct? s.name = none ∧ ref = (g.structs.insert s).1 ∧
      next = { g with
        structs := (g.structs.insert s).2
        structNames := g.structNames.insert s.name ref } := by
  unfold addStruct at added
  split at added
  · cases added
  · next free =>
      cases added
      exact ⟨by simpa [findStruct?, Catalog.contains] using free, rfl, rfl⟩

theorem set_struct_references_ok {ref : StructRef} {references : ReferenceSet}
    (changed : g.setStructReferences ref references = .ok next) :
    g.structs.contains ref = true ∧
      next = { g with structs := g.structs.modify ref fun s => { s with references } } := by
  unfold setStructReferences at changed
  split at changed
  · next live =>
      cases changed
      exact ⟨live, rfl⟩
  · cases changed

theorem add_enum_ok {e : ManagedEnum} {ref : EnumRef} (added : g.addEnum e = .ok (ref, next)) :
    g.findEnum? e.name = none ∧ ref = (g.enums.insert e).1 ∧
      next = { g with
        enums := (g.enums.insert e).2
        enumNames := g.enumNames.insert e.name ref } := by
  unfold addEnum at added
  split at added
  · cases added
  · next free =>
      cases added
      exact ⟨by simpa [findEnum?, Catalog.contains] using free, rfl, rfl⟩

/-- The changes that touch the classes. -/
theorem Change.classes_cases (change : Change g next) :
    next.classes = g.classes ∨
    (∃ c ref, g.addClass c = .ok (ref, next)) ∨
    (∃ ref, (g.classes.contains ref = true → ref.generation.toNat + 1 < UInt32.size) ∧
      next.classes = (g.classes.remove ref).2) ∨
    (∃ ref parent, g.setSuper ref parent = .ok next) ∨
    (∃ owner ref, g.bind owner ref = .ok next) := by
  cases change with
  | addPackage | addBlueprint | removeBlueprint | setEnumReferences => exact .inl rfl
  | addClass added => exact .inr (.inl ⟨_, _, added⟩)
  | removeClass ref unwrapped =>
      exact .inr (.inr (.inl ⟨ref, unwrapped, g.remove_class_classes ref⟩))
  | setSuper moved => exact .inr (.inr (.inr (.inl ⟨_, _, moved⟩)))
  | bind bound => exact .inr (.inr (.inr (.inr ⟨_, _, bound⟩)))
  | addStruct added =>
      obtain ⟨_, _, rfl⟩ := add_struct_ok added
      exact .inl rfl
  | setStructReferences changed =>
      obtain ⟨_, rfl⟩ := set_struct_references_ok changed
      exact .inl rfl
  | addEnum added =>
      obtain ⟨_, _, rfl⟩ := add_enum_ok added
      exact .inl rfl

theorem Change.sound (change : Change g next) (sound : g.classes.Sound) : next.classes.Sound := by
  rcases change.classes_cases with
    same | ⟨c, ref, added⟩ | ⟨ref, _, removed⟩ | ⟨ref, parent, moved⟩ | ⟨owner, ref, bound⟩
  · rw [same]
    exact sound
  · obtain ⟨_, _, _, rfl⟩ := add_class_ok added
    exact sound.insert c
  · rw [removed]
    exact sound.remove ref
  · obtain ⟨_, _, _, rfl⟩ := set_super_ok moved
    exact sound.modify ref _
  · obtain ⟨_, _, rfl⟩ := bind_ok bound
    exact sound.modify ref _

theorem Change.issued (change : Change g next) (sound : g.classes.Sound)
    (issued : g.classes.Issued ref) : next.classes.Issued ref := by
  rcases change.classes_cases with
    same | ⟨c, added, run⟩ | ⟨gone, unwrapped, removed⟩ | ⟨moved, parent, run⟩ | ⟨owner, bound, run⟩
  · rw [same]
    exact issued
  · obtain ⟨_, _, _, rfl⟩ := add_class_ok run
    exact issued.insert sound c
  · rw [removed]
    exact issued.remove unwrapped
  · obtain ⟨_, _, _, rfl⟩ := set_super_ok run
    exact issued.modify moved _
  · obtain ⟨_, _, rfl⟩ := bind_ok run
    exact issued.modify bound _

inductive Reparenting (g next : TypeGraph) : Prop where
  | kept (parents : ∀ ref, next.parent? ref = g.parent? ref)
  | added (leaf : ClassRef) (superClass : Option ClassRef) (new : ¬ g.classes.Issued leaf)
      (live : ∀ parent ∈ superClass, g.classes.contains parent = true)
      (parents : ∀ ref, next.parent? ref = if ref = leaf then superClass else g.parent? ref)
  | removed (gone : ClassRef)
      (parents : ∀ ref, next.parent? ref = if ref = gone then none else g.parent? ref)
  | moved (below above : ClassRef) (live : g.classes.contains above = true)
      (apart : g.derivesFrom above below = false)
      (parents : ∀ ref, next.parent? ref = if ref = below then some above else g.parent? ref)

theorem parent_of_classes (same : next.classes = g.classes) (ref : ClassRef) :
    next.parent? ref = g.parent? ref := by
  unfold parent? class?
  rw [same]

theorem parent_modify {f : ManagedClass → ManagedClass} {changed : ClassRef}
    (modified : next.classes = g.classes.modify changed f) (ref : ClassRef) :
    next.parent? ref =
      if ref = changed then (g.class? changed).bind fun c => (f c).superClass else g.parent? ref := by
  unfold parent? class?
  rw [modified, SlotTable.get_modify]
  split
  · rw [Option.bind_map]
    rfl
  · rfl

theorem set_super_parents (moved : g.setSuper ref parent = .ok next) (other : ClassRef) :
    next.parent? other = if other = ref then some parent else g.parent? other := by
  obtain ⟨live, _, _, rfl⟩ := set_super_ok moved
  obtain ⟨c, found⟩ := SlotTable.contains_iff.mp live
  have known : g.class? ref = some c := found
  rw [parent_modify rfl, known]
  rfl

theorem bind_parents {owner : BlueprintRef} (bound : g.bind owner ref = .ok next)
    (other : ClassRef) : next.parent? other = g.parent? other := by
  obtain ⟨_, _, rfl⟩ := bind_ok bound
  rw [parent_modify rfl]
  split
  · next same =>
      subst same
      rfl
  · rfl

theorem add_class_reparenting (sound : g.classes.Sound) {c : ManagedClass}
    (added : g.addClass c = .ok (ref, next)) : Reparenting g next := by
  obtain ⟨_, live, rfl, rfl⟩ := add_class_ok added
  rcases sound.get_insert_cases c with same | ⟨new, found⟩
  · apply Reparenting.kept
    intro other
    change ((g.classes.insert c).2.get? other).bind (·.superClass) = _
    rw [same]
    rfl
  · apply Reparenting.added (g.classes.insert c).1 c.superClass new live
    intro other
    change ((g.classes.insert c).2.get? other).bind (·.superClass) = _
    rw [found]
    split <;> rfl

theorem Change.reparenting (change : Change g next) (sound : g.classes.Sound) :
    Reparenting g next := by
  rcases change.classes_cases with
    same | ⟨c, ref, added⟩ | ⟨gone, _, removed⟩ | ⟨ref, parent, moved⟩ | ⟨owner, ref, bound⟩
  · exact .kept (parent_of_classes same)
  · exact add_class_reparenting sound added
  · apply Reparenting.removed gone
    intro other
    unfold parent? class?
    rw [removed, SlotTable.get_remove]
    split <;> rfl
  · obtain ⟨_, live, apart, _⟩ := set_super_ok moved
    exact .moved ref parent live apart (set_super_parents moved)
  · exact .kept (bind_parents bound)

end BlueprintBridge.TypeGraph
