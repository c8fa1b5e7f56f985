import BlueprintBridge.Proofs.Action
import BlueprintBridge.Proofs.Graph.Change

/-!
# Definitions that fail halfway

Generating a class first places it, that is adds it or moves it under its parent, and then binds it
to its blueprint. Each of the two steps alone changes nothing when it fails. So a definition that
fails changes the graph exactly when its class was added or moved, and then could not be bound.
-/

namespace BlueprintBridge.TypeGraph

set_option autoImplicit false

variable {g next : TypeGraph} {d : ClassDefinition} {ref parent : ClassRef} {owner : BlueprintRef}

def withClass (g : TypeGraph) (name : TypeName) (parent : ClassRef) : ClassRef × TypeGraph :=
  let (ref, classes) := g.classes.insert { name, superClass := some parent }
  (ref, { g with classes, classNames := g.classNames.insert name ref })

/-- The graph with a class moved under a parent. -/
def withSuper (g : TypeGraph) (ref parent : ClassRef) : TypeGraph :=
  { g with classes := g.classes.modify ref fun c => { c with superClass := some parent } }

/-- The graphs that a definition is left with halfway: its class is placed, that changed the
graph, and the class cannot be bound to the blueprint the definition names. -/
inductive Halfway (g : TypeGraph) (d : ClassDefinition) : TypeGraph → Prop where
  /-- The class was added, and its blueprint is gone; or the table numbers no more slots, and the
  class cannot be reached. -/
  | added {parent : ClassRef} {owner : BlueprintRef} (resolved : g.parentFor? d = some parent)
      (free : g.findClass? d.name = none) (live : g.classes.contains parent = true)
      (named : d.blueprint = some owner)
      (unbound : g.blueprints.contains owner = false ∨
        (g.withClass d.name parent).2.classes.contains (g.withClass d.name parent).1 = false) :
      Halfway g d (g.withClass d.name parent).2
  /-- The class was moved away from another parent, and its blueprint is gone. -/
  | moved {ref parent : ClassRef} {owner : BlueprintRef} (resolved : g.parentFor? d = some parent)
      (registered : g.findClass? d.name = some ref) (live : g.classes.contains ref = true)
      (parentLive : g.classes.contains parent = true) (apart : g.derivesFrom parent ref = false)
      (elsewhere : g.parent? ref ≠ some parent) (named : d.blueprint = some owner)
      (gone : g.blueprints.contains owner = false) : Halfway g d (g.withSuper ref parent)

theorem place_class_ok {name : TypeName} (placed : g.placeClass name parent = .ok (ref, next)) :
    (g.findClass? name = none ∧ g.classes.contains parent = true ∧
      (ref, next) = g.withClass name parent) ∨
    (g.findClass? name = some ref ∧ g.classes.contains ref = true ∧
      g.classes.contains parent = true ∧ g.derivesFrom parent ref = false ∧
      next = g.withSuper ref parent) := by
  unfold placeClass at placed
  split at placed
  · next known registered =>
      obtain ⟨graph, moved, same⟩ := map_eq_ok placed
      cases same
      obtain ⟨live, parentLive, apart, same⟩ := set_super_ok moved
      exact .inr ⟨registered, live, parentLive, apart, same⟩
  · next free =>
      obtain ⟨_, live, same, rfl⟩ := add_class_ok placed
      subst same
      exact .inl ⟨free, live parent rfl, rfl⟩

theorem place_class_change {name : TypeName} (placed : g.placeClass name parent = .ok (ref, next)) :
    Change g next := by
  unfold placeClass at placed
  split at placed
  · obtain ⟨graph, moved, same⟩ := map_eq_ok placed
    cases same
    exact .setSuper moved
  · exact .addClass placed

theorem place_class_free {name : TypeName} (free : g.findClass? name = none)
    (live : g.classes.contains parent = true) :
    g.placeClass name parent = .ok (g.withClass name parent) := by
  unfold placeClass
  rw [free]
  apply add_class_eq free
  intro named same
  rwa [← Option.some.inj same]

theorem set_super_eq (live : g.classes.contains ref = true)
    (parentLive : g.classes.contains parent = true) (apart : g.derivesFrom parent ref = false) :
    g.setSuper ref parent = .ok (g.withSuper ref parent) := by
  obtain ⟨c, found⟩ := SlotTable.contains_iff.mp live
  have known : g.class? ref = some c := found
  simp [setSuper, known, parentLive, apart, withSuper]

theorem place_class_registered {name : TypeName} (registered : g.findClass? name = some ref)
    (live : g.classes.contains ref = true) (parentLive : g.classes.contains parent = true)
    (apart : g.derivesFrom parent ref = false) :
    g.placeClass name parent = .ok (ref, g.withSuper ref parent) := by
  unfold placeClass
  rw [registered]
  simp [set_super_eq live parentLive apart, Except.map]

theorem with_super_same (same : g.parent? ref = some parent) : g.withSuper ref parent = g := by
  unfold withSuper
  rw [SlotTable.modify_of_fixed]
  intro c found
  have named : c.superClass = some parent := by
    rw [parent?, class?, found] at same
    exact same
  rw [← named]

theorem with_super_ne (live : g.classes.contains ref = true)
    (elsewhere : g.parent? ref ≠ some parent) : g.withSuper ref parent ≠ g := by
  intro same
  obtain ⟨c, found⟩ := SlotTable.contains_iff.mp live
  have known : g.class? ref = some c := found
  have after : (g.withSuper ref parent).parent? ref = some parent := by
    rw [withSuper, parent_modify rfl, if_pos rfl, known]
    rfl
  rw [same] at after
  exact elsewhere after

theorem with_class_ne (g : TypeGraph) (name : TypeName) (parent : ClassRef) :
    (g.withClass name parent).2 ≠ g := by
  intro same
  have size := SlotTable.size_insert g.classes { name, superClass := some parent }
  have classes := congrArg (fun graph : TypeGraph => graph.classes.size) same
  change (g.classes.insert _).2.size = g.classes.size at classes
  omega

theorem bind_error_iff : (∃ e, g.bind owner ref = .error e) ↔
    g.classes.contains ref = false ∨ g.blueprints.contains owner = false := by
  unfold bind
  cases g.classes.contains ref <;> cases g.blueprints.contains owner <;> simp

inductive Generated (g : TypeGraph) (d : ClassDefinition) :
    Except GraphError (Option ClassRef) → TypeGraph → Prop where
  | orphan (orphan : g.parentFor? d = none) : Generated g d (.ok none) g
  | misplaced {parent : ClassRef} {e : GraphError} (resolved : g.parentFor? d = some parent)
      (misplaced : g.placeClass d.name parent = .error e) : Generated g d (.error e) g
  | unowned {parent ref : ClassRef} {placed : TypeGraph} (resolved : g.parentFor? d = some parent)
      (placing : g.placeClass d.name parent = .ok (ref, placed)) (unowned : d.blueprint = none) :
      Generated g d (.ok (some ref)) placed
  | unbound {parent ref : ClassRef} {placed : TypeGraph} {owner : BlueprintRef} {e : GraphError}
      (resolved : g.parentFor? d = some parent)
      (placing : g.placeClass d.name parent = .ok (ref, placed)) (named : d.blueprint = some owner)
      (unbound : placed.bind owner ref = .error e) : Generated g d (.error e) placed
  | bound {parent ref : ClassRef} {placed bound : TypeGraph} {owner : BlueprintRef}
      (resolved : g.parentFor? d = some parent)
      (placing : g.placeClass d.name parent = .ok (ref, placed)) (named : d.blueprint = some owner)
      (binding : placed.bind owner ref = .ok bound) : Generated g d (.ok (some ref)) bound

theorem generate_cases {answer : Except GraphError (Option ClassRef)}
    (run : g.generate d = (answer, next)) : Generated g d answer next := by
  unfold generate at run
  split at run
  · next orphan =>
      cases run
      exact .orphan orphan
  next parent resolved =>
  split at run
  · next e misplaced =>
      cases run
      exact .misplaced resolved misplaced
  next ref placed placing =>
  split at run
  · next unowned =>
      cases run
      exact .unowned resolved placing unowned
  next owner named =>
  split at run
  · next e unbound =>
      cases run
      exact .unbound resolved placing named unbound
  · next bound binding =>
      cases run
      exact .bound resolved placing named binding

/-- A definition is a chain of single operations, also where it fails halfway. -/
theorem generate_changes (g : TypeGraph) (d : ClassDefinition) :
    Relation.ReflTransGen Change g (g.generate d).2 := by
  obtain ⟨answer, next, run⟩ : ∃ answer next, g.generate d = (answer, next) := ⟨_, _, rfl⟩
  rw [run]
  cases generate_cases run with
  | orphan | misplaced => exact .refl
  | unowned _ placing | unbound _ placing => exact .single (place_class_change placing)
  | bound _ placing _ binding =>
      apply Relation.ReflTransGen.tail
      · exact .single (place_class_change placing)
      · exact .bind binding

theorem generate_error {e : GraphError} (failed : g.generate d = (.error e, next)) :
    next = g ∨ ∃ parent ref owner, g.parentFor? d = some parent ∧
      g.placeClass d.name parent = .ok (ref, next) ∧ d.blueprint = some owner ∧
      next.bind owner ref = .error e := by
  cases generate_cases failed with
  | misplaced => exact .inl rfl
  | unbound resolved placing named unbound =>
      exact .inr ⟨_, _, _, resolved, placing, named, unbound⟩

theorem define_struct_change {s : ManagedStruct} {ref : StructRef}
    (defined : g.defineStruct s = .ok (ref, next)) : Change g next := by
  unfold defineStruct at defined
  split at defined
  · obtain ⟨graph, changed, same⟩ := map_eq_ok defined
    cases same
    exact .setStructReferences changed
  · exact .addStruct defined

theorem define_struct_frame {s : ManagedStruct} {ref : StructRef}
    (defined : g.defineStruct s = .ok (ref, next)) :
    ∃ structs structNames, next = { g with structs, structNames } := by
  unfold defineStruct at defined
  split at defined
  · obtain ⟨graph, changed, same⟩ := map_eq_ok defined
    cases same
    exact ⟨_, _, (set_struct_references_ok changed).2⟩
  · exact ⟨_, _, (add_struct_ok defined).2.2⟩

theorem define_enum_frame {e : ManagedEnum} {ref : EnumRef}
    (defined : g.defineEnum e = .ok (ref, next)) :
    ∃ enums enumNames, next = { g with enums, enumNames } := by
  unfold defineEnum at defined
  split at defined
  · cases defined
    exact ⟨_, _, rfl⟩
  · exact ⟨_, _, (add_enum_ok defined).2.2⟩

theorem define_enum_change {e : ManagedEnum} {ref : EnumRef}
    (defined : g.defineEnum e = .ok (ref, next)) : Change g next := by
  unfold defineEnum at defined
  split at defined
  · cases defined
    exact .setEnumReferences g _ e.references
  · exact .addEnum defined

theorem generate_unbound {e : GraphError} (resolved : g.parentFor? d = some parent)
    (placed : g.placeClass d.name parent = .ok (ref, next)) (named : d.blueprint = some owner)
    (unbound : next.bind owner ref = .error e) : g.generate d = (.error e, next) := by
  simp [generate, resolved, placed, named, unbound]

/-- A definition that fails changes the graph exactly when it is left halfway. -/
theorem halfway_iff : g.Halfway d next ↔ (∃ e, g.generate d = (.error e, next)) ∧ next ≠ g := by
  constructor
  · intro halfway
    cases halfway with
    | @added parent owner resolved free live named unbound =>
        obtain ⟨e, unbound⟩ := bind_error_iff.mpr unbound.symm
        exact ⟨⟨e, generate_unbound resolved (place_class_free free live) named unbound⟩,
          g.with_class_ne d.name parent⟩
    | @moved ref parent owner resolved registered live parentLive apart elsewhere named gone =>
        have placed := place_class_registered registered live parentLive apart
        obtain ⟨e, unbound⟩ : ∃ e, (g.withSuper ref parent).bind owner ref = .error e :=
          bind_error_iff.mpr (.inr gone)
        exact ⟨⟨e, generate_unbound resolved placed named unbound⟩,
          with_super_ne live elsewhere⟩
  · rintro ⟨⟨e, failed⟩, changed⟩
    rcases generate_error failed with same | ⟨parent, ref, owner, resolved, placed, named, unbound⟩
    · exact absurd same changed
    -- The class was placed, so placing it is what changed the graph.
    have unbindable := bind_error_iff.mp ⟨e, unbound⟩
    rcases place_class_ok placed with
      ⟨free, live, same⟩ | ⟨registered, live, parentLive, apart, rfl⟩
    · cases same
      exact .added resolved free live named unbindable.symm
    · have elsewhere : g.parent? ref ≠ some parent := fun same => changed (with_super_same same)
      have stillLive : (g.withSuper ref parent).classes.contains ref = true := by
        rw [withSuper, SlotTable.contains_modify]
        exact live
      rw [stillLive] at unbindable
      have gone := unbindable.resolve_left (by decide)
      exact .moved resolved registered live parentLive apart elsewhere named gone

end BlueprintBridge.TypeGraph
