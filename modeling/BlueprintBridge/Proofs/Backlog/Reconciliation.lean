import BlueprintBridge.Proofs.Backlog.History
import BlueprintBridge.Proofs.Graph.Packages
import BlueprintBridge.Proofs.Graph.Reparenting
import BlueprintBridge.Proofs.Orders
import Mathlib.Data.Set.Card

/-!
# The backlog after a reconciliation

A reconciliation visits each live blueprint of a managed package once, package by package and slot
by slot. Where the class that a blueprint generated names it as its owner, the blueprints visited
that have a live class are those that wait afterwards, each once and in the order of the visits, in
the lane of their class. Another reconciliation finds all of them waiting.
-/

namespace BlueprintBridge

set_option autoImplicit false

namespace TypeGraph

variable {g : TypeGraph} {owner : BlueprintRef} {package other : PackageRef}

def LiesIn (g : TypeGraph) (owner : BlueprintRef) (package : PackageRef) : Prop :=
  ∃ blueprint, g.blueprint? owner = some blueprint ∧ blueprint.package = some package

def IsManaged (g : TypeGraph) (package : PackageRef) : Prop :=
  ∃ content, g.package? package = some content ∧ content.isManaged = true

def IsVisited (g : TypeGraph) (owner : BlueprintRef) : Prop :=
  ∃ package, g.LiesIn owner package ∧ g.IsManaged package

def Precedes (g : TypeGraph) (first second : BlueprintRef) : Prop :=
  ∃ package other, g.LiesIn first package ∧ g.LiesIn second other ∧
    (package.index < other.index ∨ package = other ∧ first.index < second.index)

/-- The live class that a live blueprint names as its own names the blueprint. -/
def Faithful (g : TypeGraph) : Prop :=
  ∀ owner ref, g.generatedClass? owner = some ref → g.ownerOf? ref = some owner

/-- It is enough to ask the blueprints that are listed. -/
theorem faithful_of_listed (listed : ∀ pair ∈ g.blueprints.toList,
    (g.generatedClass? pair.1).all fun ref => g.ownerOf? ref = some pair.1) : g.Faithful := by
  intro owner ref generated
  have live : ∃ blueprint, g.blueprints.get? owner = some blueprint := by
    cases found : g.blueprints.get? owner with
    | some blueprint => exact ⟨blueprint, rfl⟩
    | none => simp [generatedClass?, blueprint?, found] at generated
  obtain ⟨blueprint, found⟩ := live
  simpa [generated] using listed _ (SlotTable.mem_to_list found)

theorem lies_in_unique (here : g.LiesIn owner package) (there : g.LiesIn owner other) :
    package = other := by
  obtain ⟨blueprint, found, lies⟩ := here
  obtain ⟨again, foundToo, liesToo⟩ := there
  rw [found] at foundToo
  cases foundToo
  rw [lies] at liesToo
  exact Option.some.inj liesToo

theorem not_precedes_self (g : TypeGraph) (owner : BlueprintRef) : ¬ g.Precedes owner owner := by
  rintro ⟨package, other, here, there, before | ⟨_, before⟩⟩
  · rw [lies_in_unique here there] at before
    exact UInt32.lt_irrefl _ before
  · exact UInt32.lt_irrefl _ before

theorem nodup_of_precedes {owners : List BlueprintRef} (ordered : owners.Pairwise g.Precedes) :
    owners.Nodup := by
  apply ordered.imp
  rintro first second before rfl
  exact g.not_precedes_self first before

theorem mem_managed_packages (numbered : g.Numbered) :
    package ∈ g.managedPackages ↔ g.IsManaged package :=
  SlotTable.mem_listed_iff numbered.packages Package.isManaged package

theorem mem_blueprints_in (numbered : g.Numbered) :
    owner ∈ g.blueprintsIn package ↔ g.LiesIn owner package := by
  have listed := SlotTable.mem_listed_iff numbered.blueprints
    (fun blueprint => blueprint.package = some package) owner
  simp only [decide_eq_true_eq] at listed
  exact listed

theorem mem_managed_blueprints (numbered : g.Numbered) :
    owner ∈ Intake.managedBlueprints g ↔ g.IsVisited owner := by
  simp only [Intake.managedBlueprints, List.mem_flatMap, mem_managed_packages numbered,
    mem_blueprints_in numbered, IsVisited, and_comm]

theorem managed_blueprints_ordered (numbered : g.Numbered) :
    (Intake.managedBlueprints g).Pairwise g.Precedes := by
  rw [Intake.managedBlueprints, List.pairwise_flatMap]
  constructor
  · intro package _
    have ordered := SlotTable.listed_ordered numbered.blueprints
      fun blueprint => blueprint.package = some package
    refine ordered.imp_of_mem fun first second before => ?_
    exact ⟨package, package, (mem_blueprints_in numbered).mp first,
      (mem_blueprints_in numbered).mp second, .inr ⟨rfl, before⟩⟩
  · refine (SlotTable.listed_ordered numbered.packages Package.isManaged).imp ?_
    intro package other before first here second there
    exact ⟨package, other, (mem_blueprints_in numbered).mp here,
      (mem_blueprints_in numbered).mp there, .inl before⟩

theorem length_managed_blueprints (numbered : g.Numbered) :
    (Intake.managedBlueprints g).length = {owner | g.IsVisited owner}.ncard := by
  have nodup := nodup_of_precedes (managed_blueprints_ordered numbered)
  have same : {owner | g.IsVisited owner} =
      ((Intake.managedBlueprints g).toFinset : Set BlueprintRef) := by
    ext owner
    simp [mem_managed_blueprints numbered]
  rw [same, Set.ncard_coe_finset, List.toFinset_card_of_nodup nodup]

end TypeGraph

namespace Intake

variable {g : TypeGraph} {b : Backlog} {owner : BlueprintRef} {ref : ClassRef}

/-- The lane of the class that a blueprint generated, if it has a live one. -/
def laneFor? (g : TypeGraph) (owner : BlueprintRef) : Option Lane :=
  (g.generatedClass? owner).map (laneOf g)

theorem queue_class_of_owner (b : Backlog) (owned : g.ownerOf? ref = some owner) :
    (queueClass g b ref).value.2 = (b.enqueue (laneOf g ref) owner).2 := by
  unfold queueClass
  rw [owned]

theorem queue_classes_new (faithful : g.Faithful) {owners : List BlueprintRef}
    (nodup : owners.Nodup) (absent : ∀ owner ∈ owners, ∀ lane, owner ∉ (b.lane lane).entries)
    (lane : Lane) :
    ((queueClasses g b (owners.filterMap g.generatedClass?)).value.lane lane).entries =
      (b.lane lane).entries ++ owners.filter fun owner => laneFor? g owner = some lane := by
  induction owners generalizing b with
  | nil => exact (List.append_nil _).symm
  | cons owner rest ih =>
      obtain ⟨fresh, nodup⟩ := List.nodup_cons.mp nodup
      obtain ⟨new, others⟩ := List.forall_mem_cons.mp absent
      cases generated : g.generatedClass? owner with
      | none =>
          have unlisted : laneFor? g owner = none := by rw [laneFor?, generated]; rfl
          rw [List.filterMap_cons_none generated, ih nodup others]
          simp [unlisted]
      | some ref =>
          have lanes : laneFor? g owner = some (laneOf g ref) := by rw [laneFor?, generated]; rfl
          have still : ∀ entry ∈ rest, ∀ lane,
              entry ∉ ((b.enqueue (laneOf g ref) owner).2.lane lane).entries := by
            intro entry member place
            have apart : entry ≠ owner := fun same => fresh (same ▸ member)
            rw [Backlog.mem_enqueue, if_neg apart]
            exact others entry member place
          have queued := queue_class_of_owner b (faithful owner ref generated)
          have later := ih (b := (b.enqueue (laneOf g ref) owner).2) nodup still
          rw [List.filterMap_cons_some generated, List.filter_cons, lanes]
          change ((queueClasses g (queueClass g b ref).value.2 _).value.lane lane).entries = _
          rw [queued, later]
          rcases (laneOf g ref).eq_or_other lane with rfl | rfl
          · rw [(Backlog.enqueue_of_absent b (new _)).2]
            simp
          · rw [Backlog.entries_enqueue_other, List.filter_eq_self.mpr]
            · simp [(laneOf g ref).other_ne.symm]
            · intro entry member
              exact decide_eq_true fun same => new _ (same ▸ member)

/-- What waits in the lane of its class already stays where it is. -/
theorem queue_classes_again (faithful : g.Faithful) (exclusive : b.Exclusive)
    {owners : List BlueprintRef}
    (waiting : ∀ owner ∈ owners, ∀ lane, laneFor? g owner = some lane →
      owner ∈ (b.lane lane).entries) :
    (queueClasses g b (owners.filterMap g.generatedClass?)).value = b := by
  induction owners with
  | nil => rfl
  | cons owner rest ih =>
      obtain ⟨here, others⟩ := List.forall_mem_cons.mp waiting
      cases generated : g.generatedClass? owner with
      | none =>
          rw [List.filterMap_cons_none generated]
          exact ih others
      | some ref =>
          have lanes : laneFor? g owner = some (laneOf g ref) := by rw [laneFor?, generated]; rfl
          have same : (queueClass g b ref).value.2 = b := by
            rw [queue_class_of_owner b (faithful owner ref generated),
              exclusive.enqueue_of_mem (here _ lanes)]
          rw [List.filterMap_cons_some generated]
          change (queueClasses g (queueClass g b ref).value.2 _).value = b
          rw [same]
          exact ih others

theorem reconciled_entries (numbered : g.Numbered) (faithful : g.Faithful) (lane : Lane) :
    ((reconcile g {}).value.2.lane lane).entries =
      (managedBlueprints g).filter fun owner => laneFor? g owner = some lane := by
  have nodup := TypeGraph.nodup_of_precedes (TypeGraph.managed_blueprints_ordered numbered)
  have nobody : ∀ owner ∈ managedBlueprints g, ∀ lane,
      owner ∉ (({} : Backlog).lane lane).entries := by
    intro owner _ lane
    cases lane <;> exact List.not_mem_nil
  have queued := queue_classes_new faithful nodup nobody lane
  cases lane <;> exact queued

theorem mem_reconciled (numbered : g.Numbered) (faithful : g.Faithful) {lane : Lane} :
    owner ∈ ((reconcile g {}).value.2.lane lane).entries ↔
      g.IsVisited owner ∧ laneFor? g owner = some lane := by
  rw [reconciled_entries numbered faithful, List.mem_filter,
    TypeGraph.mem_managed_blueprints numbered, decide_eq_true_eq]

theorem reconciled_exclusive (numbered : g.Numbered) (faithful : g.Faithful) :
    (reconcile g {}).value.2.Exclusive := by
  constructor
  · intro lane
    rw [reconciled_entries numbered faithful]
    exact (TypeGraph.nodup_of_precedes (TypeGraph.managed_blueprints_ordered numbered)).filter _
  · intro owner first second
    have one := ((mem_reconciled numbered faithful).mp first).2
    rw [((mem_reconciled numbered faithful).mp second).2] at one
    cases one

/-- What a reconciliation of an empty backlog answers and leaves. -/
structure Reconciled (g : TypeGraph) (visits : Nat) (b : Backlog) : Prop where
  counted : visits = {owner | g.IsVisited owner}.ncard
  queued_iff : ∀ lane owner, owner ∈ (b.lane lane).entries ↔ g.IsVisited owner ∧
    ∃ ref, g.generatedClass? owner = some ref ∧
      (lane = .components ↔ g.Ascends ref g.componentClass)
  /-- In the order of the packages' slots and then of their own. Since nothing precedes itself, no
  blueprint waits twice. -/
  ordered : ∀ lane, (b.lane lane).entries.Pairwise g.Precedes
  exclusive : b.Exclusive
  left_out : ∀ owner, ¬ g.IsVisited owner ∨ g.generatedClass? owner = none → b.find? owner = none
  again : (reconcile g b).value = (visits, b)

theorem lane_for_eq_some_iff (tended : g.Tended) {lane : Lane} : laneFor? g owner = some lane ↔
    ∃ ref, g.generatedClass? owner = some ref ∧
      (lane = .components ↔ g.Ascends ref g.componentClass) := by
  simp only [laneFor?, Option.map_eq_some_iff, lane_of_eq_iff]
  refine exists_congr fun ref => and_congr_right fun generated => ?_
  rw [tended.component_iff (Option.filter_eq_some_iff.mp generated).2]

/-- In a graph without a cycle, as all that checked operations lead to, a reconciliation queues
exactly the blueprints of managed packages that have a live class, each once and in order, and doing
it again changes nothing. -/
theorem reconciliation_exact (tended : g.Tended) (numbered : g.Numbered) (faithful : g.Faithful) :
    Reconciled g (reconcile g {}).value.1 (reconcile g {}).value.2 := by
  have exclusive := reconciled_exclusive numbered faithful
  constructor
  case counted => exact TypeGraph.length_managed_blueprints numbered
  case queued_iff =>
    intro lane owner
    rw [mem_reconciled numbered faithful, lane_for_eq_some_iff tended]
  case ordered =>
    intro lane
    rw [reconciled_entries numbered faithful]
    exact (TypeGraph.managed_blueprints_ordered numbered).sublist List.filter_sublist
  case exclusive => exact exclusive
  case left_out =>
    intro owner out
    cases found : (reconcile g {}).value.2.find? owner with
    | none => rfl
    | some lane =>
        have waits := (exclusive.mem_iff lane owner).mpr found
        obtain ⟨visited, lanes⟩ := (mem_reconciled numbered faithful).mp waits
        rcases out with unvisited | classless
        · exact absurd visited unvisited
        · rw [laneFor?, classless] at lanes
          cases lanes
  case again =>
    have waiting : ∀ owner ∈ managedBlueprints g, ∀ lane, laneFor? g owner = some lane →
        owner ∈ ((reconcile g {}).value.2.lane lane).entries := by
      intro owner member lane lanes
      rw [reconciled_entries numbered faithful, List.mem_filter]
      exact ⟨member, decide_eq_true lanes⟩
    have same := queue_classes_again faithful exclusive waiting
    exact congrArg (Prod.mk (managedBlueprints g).length) same

/-- A window takes the slot of a blueprint that was destroyed, after the door; a lamp is a component
in a later package; a beam lies in a native package, and nothing was generated for a bench. -/
def furnished : List TypeGraph.Request :=
  [.edit (.addPackage ⟨"/Script/Engine", false⟩), .edit (.addPackage ⟨"/Script/Game", true⟩),
    .edit (.addPackage ⟨"/Script/Late", true⟩),
    .edit (.createBlueprint ⟨2, 0⟩ "BP_Lamp"), .edit (.createBlueprint ⟨1, 0⟩ "BP_Stool"),
    .edit (.createBlueprint ⟨1, 0⟩ "BP_Door"), .edit (.createBlueprint ⟨0, 0⟩ "BP_Beam"),
    .edit (.destroyBlueprint ⟨1, 0⟩), .edit (.createBlueprint ⟨1, 0⟩ "BP_Window"),
    .edit (.createBlueprint ⟨1, 0⟩ "BP_Bench"),
    .generate { name := ⟨"Game", "", "Lamp"⟩, superName := some TypeGraph.componentName,
                blueprint := some ⟨0, 0⟩ },
    .generate { name := ⟨"Game", "", "Door"⟩, blueprint := some ⟨2, 0⟩ },
    .generate { name := ⟨"Game", "", "Beam"⟩, blueprint := some ⟨3, 0⟩ },
    .generate { name := ⟨"Game", "", "Window"⟩, blueprint := some ⟨1, 1⟩ }]

theorem furnished_reconciled :
    (TypeGraph.initial.performAll furnished).Tended ∧
    (TypeGraph.initial.performAll furnished).Numbered ∧
    (TypeGraph.initial.performAll furnished).Faithful ∧
    Reconciled (TypeGraph.initial.performAll furnished)
      (reconcile (TypeGraph.initial.performAll furnished) {}).value.1
      (reconcile (TypeGraph.initial.performAll furnished) {}).value.2 ∧
    (reconcile (TypeGraph.initial.performAll furnished) {}).value =
      (4, ⟨⟨[⟨0, 0⟩]⟩, ⟨[⟨1, 1⟩, ⟨2, 0⟩]⟩⟩) := by
  have tended : (TypeGraph.initial.performAll furnished).Tended :=
    ⟨TypeGraph.initial.perform_all_operations _, TypeGraph.acyclic_of_listed (by decide +kernel)⟩
  have numbered : (TypeGraph.initial.performAll furnished).Numbered :=
    ⟨by decide +kernel, by decide +kernel⟩
  have faithful : (TypeGraph.initial.performAll furnished).Faithful :=
    TypeGraph.faithful_of_listed (by decide +kernel)
  exact ⟨tended, numbered, faithful, reconciliation_exact tended numbered faithful,
    by decide +kernel⟩

end Intake

end BlueprintBridge
