import BlueprintBridge.Proofs.Graph.Generation
import BlueprintBridge.Proofs.Graph.Names
import BlueprintBridge.Proofs.Host.Trials
import BlueprintBridge.Session.Queries

/-!
# Requests

A request is an edit of a type graph or a definition. It leaves a graph however it ends, and what
it does is a chain of single operations. Retrying parked definitions is a series of requests. After
any list of requests the names on file are those of the live classes, structs and enums, as long as
their slots can be numbered.
-/

namespace BlueprintBridge.TypeGraph

set_option autoImplicit false

inductive Request where
  | edit (edit : Session.GraphEdit)
  | generate (d : ClassDefinition)
  | defineStruct (s : ManagedStruct)
  | defineEnum (e : ManagedEnum)

variable {g next : TypeGraph}

def attempted {ε α : Type} (g : TypeGraph) : Except ε (α × TypeGraph) → TypeGraph
  | .ok (_, next) => next
  | .error _ => g

def perform (g : TypeGraph) : Request → TypeGraph
  | .edit edit => (edit.apply g).2
  | .generate d => (g.generate d).2
  | .defineStruct s => g.attempted (g.defineStruct s)
  | .defineEnum e => g.attempted (g.defineEnum e)

def performAll (g : TypeGraph) (requests : List Request) : TypeGraph := requests.foldl perform g

theorem perform_all_append (g : TypeGraph) (first second : List Request) :
    g.performAll (first ++ second) = (g.performAll first).performAll second :=
  List.foldl_append

abbrev Operations : TypeGraph → TypeGraph → Prop := Relation.ReflTransGen Edited

theorem attempted_operations {ε α : Type} {result : Except ε (α × TypeGraph)}
    (made : ∀ answer next, result = .ok (answer, next) → Change g next) :
    Operations g (g.attempted result) := by
  cases result with
  | error e => exact .refl
  | ok pair => exact .single (.change (made pair.1 pair.2 rfl))

theorem edit_or_graph {α : Type} (g : TypeGraph) (reply : α → Session.Reply)
    (result : Except GraphError (α × TypeGraph)) :
    (Session.editOr g reply result).2 = g.attempted result := by
  cases result <;> rfl

theorem edit_operations (g : TypeGraph) (edit : Session.GraphEdit) :
    Operations g (edit.apply g).2 := by
  cases edit with
  | ensurePackage name =>
      simp only [Session.GraphEdit.apply, ensurePackage]
      split
      · exact .refl
      · exact .single (.change (.addPackage g ⟨name, true⟩))
  | createBlueprint package name =>
      simp only [Session.GraphEdit.apply, createBlueprint]
      cases g.package? package with
      | none => exact .refl
      | some _ => exact .single (.change (.addBlueprint g ⟨name, .managed, some package, none⟩))
  | destroyBlueprint ref | removeBlueprint ref => exact .single (.removeBlueprint g ref)
  | removeClass ref => exact .single (.removeClass g ref)
  | editClass ref superClass generatedBy => exact .single (.editClass g ref superClass generatedBy)
  | addPackage package => exact .single (.change (.addPackage g package))
  | addBlueprint blueprint => exact .single (.change (.addBlueprint g blueprint))
  | setEnumReferences ref refs => exact .single (.change (.setEnumReferences g ref refs))
  | addClass c =>
      simp only [Session.GraphEdit.apply, edit_or_graph]
      exact attempted_operations fun _ _ added => .addClass added
  | addStruct s =>
      simp only [Session.GraphEdit.apply, edit_or_graph]
      exact attempted_operations fun _ _ added => .addStruct added
  | addEnum e =>
      simp only [Session.GraphEdit.apply, edit_or_graph]
      exact attempted_operations fun _ _ added => .addEnum added
  | setSuper ref parent =>
      simp only [Session.GraphEdit.apply, edit_or_graph]
      apply attempted_operations
      intro _ _ changed
      obtain ⟨_, moved, same⟩ := map_eq_ok changed
      cases same
      exact .setSuper moved
  | bind owner ref =>
      simp only [Session.GraphEdit.apply, edit_or_graph]
      apply attempted_operations
      intro _ _ changed
      obtain ⟨_, bound, same⟩ := map_eq_ok changed
      cases same
      exact .bind bound
  | setStructReferences ref refs =>
      simp only [Session.GraphEdit.apply, edit_or_graph]
      apply attempted_operations
      intro _ _ changed
      obtain ⟨_, replaced, same⟩ := map_eq_ok changed
      cases same
      exact .setStructReferences replaced

theorem perform_operations (g : TypeGraph) (request : Request) :
    Operations g (g.perform request) := by
  cases request with
  | edit edit => exact g.edit_operations edit
  | generate d =>
      apply Relation.ReflTransGen.mono (fun _ _ => Edited.change)
      exact g.generate_changes d
  | defineStruct s => exact attempted_operations fun _ _ defined => define_struct_change defined
  | defineEnum e => exact attempted_operations fun _ _ defined => define_enum_change defined

theorem perform_all_operations (g : TypeGraph) (requests : List Request) :
    Operations g (g.performAll requests) := by
  induction requests generalizing g with
  | nil => exact .refl
  | cons request rest ih => exact (g.perform_operations request).trans (ih (g.perform request))

theorem perform_trials {trials : List Trial} (successive : Trial.Successive g trials next) :
    g.performAll (trials.map fun trial => .generate trial.definition) = next := by
  induction trials generalizing g with
  | nil => exact successive
  | cons trial rest ih =>
      obtain ⟨_, run, later⟩ := successive
      have first : g.perform (.generate trial.definition) = trial.after := by
        rw [perform, run]
      calc
        _ = (g.perform (.generate trial.definition)).performAll
            (rest.map fun trial => .generate trial.definition) := rfl
        _ = next := by rw [first, ih later]

theorem settle_eq_perform_all (g : TypeGraph) (ds : List ClassDefinition) :
    (g.settle ds).value.graph =
      g.performAll ((g.allTrials ds).map fun trial => .generate trial.definition) :=
  (perform_trials (g.settle_account ds).successive).symm

theorem Change.struct_refiling (change : Change g next) :
    SlotTable.Refiling ManagedStruct.name g.structs g.structNames next.structs
      next.structNames := by
  cases change with
  | addPackage | addBlueprint | removeBlueprint | setEnumReferences => exact .kept
  | addClass added =>
      obtain ⟨_, _, _, rfl⟩ := add_class_ok added
      exact .kept
  | removeClass ref =>
      obtain ⟨classNames, same⟩ := g.remove_class_frame ref
      rw [same]
      exact .kept
  | setSuper moved =>
      obtain ⟨_, _, _, rfl⟩ := set_super_ok moved
      exact .kept
  | bind bound =>
      obtain ⟨_, _, rfl⟩ := bind_ok bound
      exact .kept
  | @addStruct _ s _ added =>
      obtain ⟨free, rfl, rfl⟩ := add_struct_ok added
      exact .added s free
  | @setStructReferences _ ref _ changed =>
      obtain ⟨_, rfl⟩ := set_struct_references_ok changed
      exact .changed ref _ fun _ => rfl
  | addEnum added =>
      obtain ⟨_, _, rfl⟩ := add_enum_ok added
      exact .kept

theorem Change.enum_refiling (change : Change g next) :
    SlotTable.Refiling ManagedEnum.name g.enums g.enumNames next.enums next.enumNames := by
  cases change with
  | addPackage | addBlueprint | removeBlueprint => exact .kept
  | addClass added =>
      obtain ⟨_, _, _, rfl⟩ := add_class_ok added
      exact .kept
  | removeClass ref =>
      obtain ⟨classNames, same⟩ := g.remove_class_frame ref
      rw [same]
      exact .kept
  | setSuper moved =>
      obtain ⟨_, _, _, rfl⟩ := set_super_ok moved
      exact .kept
  | bind bound =>
      obtain ⟨_, _, rfl⟩ := bind_ok bound
      exact .kept
  | addStruct added =>
      obtain ⟨_, _, rfl⟩ := add_struct_ok added
      exact .kept
  | setStructReferences changed =>
      obtain ⟨_, rfl⟩ := set_struct_references_ok changed
      exact .kept
  | @addEnum _ e _ added =>
      obtain ⟨free, rfl, rfl⟩ := add_enum_ok added
      exact .added e free
  | setEnumReferences ref => exact .changed ref _ fun _ => rfl

theorem Edited.struct_refiling (edited : Edited g next) :
    SlotTable.Refiling ManagedStruct.name g.structs g.structNames next.structs
      next.structNames := by
  cases edited with
  | change change => exact change.struct_refiling
  | removeBlueprint | editClass => exact .kept
  | removeClass ref =>
      obtain ⟨classNames, same⟩ := g.remove_class_frame ref
      rw [same]
      exact .kept

theorem Edited.enum_refiling (edited : Edited g next) :
    SlotTable.Refiling ManagedEnum.name g.enums g.enumNames next.enums next.enumNames := by
  cases edited with
  | change change => exact change.enum_refiling
  | removeBlueprint | editClass => exact .kept
  | removeClass ref =>
      obtain ⟨classNames, same⟩ := g.remove_class_frame ref
      rw [same]
      exact .kept

structure Catalogued (g : TypeGraph) : Prop where
  classes : g.classes.Filed g.classNames ManagedClass.name
  structs : g.structs.Filed g.structNames ManagedStruct.name
  enums : g.enums.Filed g.enumNames ManagedEnum.name

theorem catalogued_after (requests : List Request)
    (classes : (initial.performAll requests).classes.slots.length < UInt32.size)
    (structs : (initial.performAll requests).structs.slots.length < UInt32.size)
    (enums : (initial.performAll requests).enums.slots.length < UInt32.size) :
    (initial.performAll requests).Catalogued where
  classes := indexed_iff.mp
    (Attainable.indexed (initial.perform_all_operations requests) classes)
  structs := SlotTable.filed_of_operations (fun _ _ edited => edited.struct_refiling)
    (initial.perform_all_operations requests) SlotTable.filed_empty structs
  enums := SlotTable.filed_of_operations (fun _ _ edited => edited.enum_refiling)
    (initial.perform_all_operations requests) SlotTable.filed_empty enums

end BlueprintBridge.TypeGraph
