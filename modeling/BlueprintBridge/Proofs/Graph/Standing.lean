import BlueprintBridge.Proofs.Graph.Ancestry
import BlueprintBridge.Proofs.Graph.Generation
import BlueprintBridge.Proofs.Host.Trials

/-!
# What makes a class a component

A class counts as a component by what is above it, so one move carries every class below across the
boundary with it. Between two graphs a class changes sides only if a class on its way up, itself
counted, was moved across. Definitions keep graphs rooted, whether they succeed, fail or wait.
-/

namespace BlueprintBridge.TypeGraph

set_option autoImplicit false

variable {g next : TypeGraph} {ref : ClassRef}

def place? (g : TypeGraph) (ref : ClassRef) : Option (Option ClassRef) :=
  (g.class? ref).map (·.superClass)

theorem parent_eq_place (g : TypeGraph) (ref : ClassRef) :
    g.parent? ref = (g.place? ref).bind id := by
  rw [place?, Option.bind_map]
  rfl

theorem contains_eq_place (g : TypeGraph) (ref : ClassRef) :
    g.classes.contains ref = (g.place? ref).isSome := by
  rw [place?, Option.isSome_map]
  rfl

theorem Rooted.component_iff (rooted : g.Rooted) (ref : ClassRef) :
    g.isComponent ref = true ↔ g.classes.contains ref = true ∧ g.Ascends ref g.componentClass := by
  rw [isComponent, Bool.and_eq_true, rooted.derives_iff]

theorem Rooted.component_iff_ascends (rooted : g.Rooted) (apart : ref ≠ g.componentClass) :
    g.isComponent ref = true ↔ g.Ascends ref g.componentClass := by
  rw [rooted.component_iff]
  refine ⟨And.right, fun path => ⟨?_, path⟩⟩
  rcases path.cases_head with same | ⟨above, link, _⟩
  · exact absurd same apart
  · exact link.live

/-- Where a class is on different sides in two graphs, a class on its way up in both was moved
across. -/
theorem moved_of_component_ne (rooted : g.Rooted) (after : next.Rooted)
    (base : next.componentClass = g.componentClass)
    (differs : g.isComponent ref ≠ next.isComponent ref) :
    ∃ moved, g.Ascends ref moved ∧ next.Ascends ref moved ∧ g.place? moved ≠ next.place? moved ∧
      g.isComponent moved ≠ next.isComponent moved := by
  obtain ⟨visited, -, search⟩ := rooted.search ref g.componentClass
  generalize g.derivesFrom ref g.componentClass = answer at search
  -- The climb is followed through links that both graphs have: the sides stay different.
  induction search with
  | found =>
      refine ⟨g.componentClass, .refl, .refl, fun stays => differs ?_, differs⟩
      rw [Bool.eq_iff_iff, rooted.component_iff, after.component_iff, base, contains_eq_place,
        contains_eq_place, stays]
      exact and_congr_right fun _ => ⟨fun _ => .refl, fun _ => .refl⟩
  | @lost ref apart top =>
      refine ⟨ref, .refl, .refl, fun stays => differs ?_, differs⟩
      have below : next.parent? ref = none := by
        rw [parent_eq_place, ← stays, ← parent_eq_place, top]
      rw [Bool.eq_iff_iff, rooted.component_iff_ascends apart,
        after.component_iff_ascends (base ▸ apart), base]
      exact iff_of_false (not_ascends_top top apart) (not_ascends_top below apart)
  | @up ref parent visited answer apart link later ih =>
      by_cases stays : g.place? ref = next.place? ref
      · have same : next.parent? ref = some parent := by
          rw [parent_eq_place, ← stays, ← parent_eq_place, link]
        have above : g.isComponent parent ≠ next.isComponent parent := by
          intro equal
          apply differs
          rw [Bool.eq_iff_iff, rooted.component_iff_ascends apart,
            after.component_iff_ascends (base ▸ apart), base, ascends_parent link apart,
            ascends_parent same apart]
          by_cases top : parent = g.componentClass
          · rw [top]
            exact ⟨fun _ => .refl, fun _ => .refl⟩
          · rw [← rooted.component_iff_ascends top, equal,
              after.component_iff_ascends (base ▸ top), base]
        obtain ⟨moved, first, second, elsewhere, across⟩ := ih above
        exact ⟨moved, .head (link_iff.mpr link) first, .head (link_iff.mpr same) second, elsewhere,
          across⟩
      · exact ⟨ref, .refl, .refl, stays, differs⟩

structure Based (base : ClassRef) (g : TypeGraph) : Prop where
  rooted : g.Rooted
  component : g.componentClass = base

variable {base : ClassRef}

theorem Change.component (change : Change g next) : next.componentClass = g.componentClass := by
  cases change with
  | addPackage | addBlueprint | removeBlueprint | setEnumReferences => rfl
  | addClass added =>
      obtain ⟨_, _, _, rfl⟩ := add_class_ok added
      rfl
  | removeClass ref =>
      obtain ⟨classNames, same⟩ := g.remove_class_frame ref
      rw [same]
  | setSuper moved =>
      obtain ⟨_, _, _, rfl⟩ := set_super_ok moved
      rfl
  | bind bound =>
      obtain ⟨_, _, rfl⟩ := bind_ok bound
      rfl
  | addStruct added =>
      obtain ⟨_, _, rfl⟩ := add_struct_ok added
      rfl
  | setStructReferences changed =>
      obtain ⟨_, rfl⟩ := set_struct_references_ok changed
      rfl
  | addEnum added =>
      obtain ⟨_, _, rfl⟩ := add_enum_ok added
      rfl

theorem Based.change (based : g.Based base) (change : Change g next) : next.Based base :=
  ⟨change.rooted based.rooted, change.component.trans based.component⟩

theorem Based.of_classes (based : g.Based base) (classes : next.classes = g.classes)
    (component : next.componentClass = g.componentClass) : next.Based base :=
  ⟨based.rooted.of_classes classes, component.trans based.component⟩

theorem Based.changes (based : g.Based base) (changes : Relation.ReflTransGen Change g next) :
    next.Based base := by
  induction changes with
  | refl => exact based
  | tail _ change ih => exact ih.change change

theorem Based.generate (based : g.Based base) (d : ClassDefinition) :
    (g.generate d).2.Based base :=
  based.changes (g.generate_changes d)

theorem Based.successive {trials : List Trial} (based : g.Based base)
    (successive : Trial.Successive g trials next) : next.Based base := by
  induction trials generalizing g with
  | nil => exact successive ▸ based
  | cons trial rest ih =>
      obtain ⟨_, run, later⟩ := successive
      have first := based.generate trial.definition
      rw [run] at first
      exact ih first later

theorem Based.before_trial {trials : List Trial} (based : g.Based base)
    (successive : Trial.Successive g trials next) {trial : Trial} (member : trial ∈ trials) :
    trial.before.Based base := by
  induction trials generalizing g with
  | nil => cases member
  | cons first rest ih =>
      obtain ⟨same, run, later⟩ := successive
      rcases List.mem_cons.mp member with rfl | further
      · exact same ▸ based
      · have generated := based.generate first.definition
        rw [run] at generated
        exact ih generated later further

theorem Based.settle (based : g.Based base) (ds : List ClassDefinition) :
    (g.settle ds).value.graph.Based base :=
  based.successive (g.settle_account ds).successive

end BlueprintBridge.TypeGraph
