import BlueprintBridge.Compile.Intake
import BlueprintBridge.Host.Announcement
import BlueprintBridge.Proofs.Backlog
import Mathlib.Data.List.Induction

/-!
# What news puts on the backlog

News is about classes: a class itself, or those that a struct or an enum refers to. Each of them
that a live blueprint owns orders that blueprint into the lane of the class. A blueprint then waits
where it was ordered last.
-/

namespace BlueprintBridge

set_option autoImplicit false

structure Order where
  lane : Lane
  blueprint : BlueprintRef
deriving DecidableEq

namespace Backlog

def put (backlog : Backlog) (order : Order) : Backlog :=
  (backlog.enqueue order.lane order.blueprint).2

def putAll (backlog : Backlog) (orders : List Order) : Backlog := orders.foldl put backlog

end Backlog

def latest? (orders : List Order) (blueprint : BlueprintRef) : Option Lane :=
  (orders.reverse.find? fun order => order.blueprint = blueprint).map (·.lane)

namespace Backlog

theorem put_all_snoc (backlog : Backlog) (orders : List Order) (order : Order) :
    backlog.putAll (orders ++ [order]) = (backlog.putAll orders).put order := by
  rw [putAll, List.foldl_append]
  rfl

theorem put_all_append (backlog : Backlog) (first second : List Order) :
    backlog.putAll (first ++ second) = (backlog.putAll first).putAll second :=
  List.foldl_append

theorem Exclusive.put_all {backlog : Backlog} (exclusive : backlog.Exclusive)
    (orders : List Order) : (backlog.putAll orders).Exclusive := by
  induction orders using List.reverseRecOn with
  | nil => exact exclusive
  | append_singleton orders order ih =>
      rw [put_all_snoc]
      exact ih.enqueue order.lane order.blueprint

theorem put_all_exclusive (orders : List Order) : (putAll {} orders).Exclusive :=
  exclusive_initial.put_all orders

/-- What was ordered waits where it was ordered last, and the rest where it waited. -/
theorem mem_put_all_onto (backlog : Backlog) (orders : List Order) (lane : Lane)
    (blueprint : BlueprintRef) :
    blueprint ∈ ((backlog.putAll orders).lane lane).entries ↔
      (latest? orders blueprint).elim (blueprint ∈ (backlog.lane lane).entries) (lane = ·) := by
  induction orders using List.reverseRecOn with
  | nil => rfl
  | append_singleton orders order ih =>
      rw [put_all_snoc, put, mem_enqueue, ih]
      unfold latest?
      by_cases same : blueprint = order.blueprint
      · subst same
        simp
      · simp [same, Ne.symm same]

theorem mem_put_all (orders : List Order) (lane : Lane) (blueprint : BlueprintRef) :
    blueprint ∈ ((putAll {} orders).lane lane).entries ↔ latest? orders blueprint = some lane := by
  rw [mem_put_all_onto]
  cases latest? orders blueprint with
  | none => cases lane <;> simp [Backlog.lane]
  | some last => simp [eq_comm]

end Backlog

namespace Intake

def orderOf? (g : TypeGraph) (ref : ClassRef) : Option Order :=
  (g.ownerOf? ref).map fun owner => ⟨laneOf g ref, owner⟩

def classesOf (g : TypeGraph) : Announcement → List ClassRef
  | .newClass ref => [ref]
  | .newStruct ref => (g.struct? ref).elim [] fun s => s.references.classes
  | .newEnum ref => (g.enum? ref).elim [] fun e => e.references.classes
  | .pendingProcessed _ _ => []
  | .assemblyLoaded _ => []

def ordersOf (g : TypeGraph) (refs : List ClassRef) : List Order := refs.filterMap (orderOf? g)

theorem lane_of_eq_iff {g : TypeGraph} {ref : ClassRef} {lane : Lane} :
    laneOf g ref = lane ↔ (lane = .components ↔ g.isComponent ref = true) := by
  unfold laneOf
  cases lane <;> cases g.isComponent ref <;> simp

theorem queue_class_value (g : TypeGraph) (backlog : Backlog) (ref : ClassRef) :
    (queueClass g backlog ref).value.2 = backlog.putAll (ordersOf g [ref]) := by
  cases owned : g.ownerOf? ref <;>
    simp [queueClass, ordersOf, orderOf?, owned, Backlog.putAll, Backlog.put]

theorem queue_classes_value (g : TypeGraph) (backlog : Backlog) (refs : List ClassRef) :
    (queueClasses g backlog refs).value = backlog.putAll (ordersOf g refs) := by
  induction refs generalizing backlog with
  | nil => rfl
  | cons ref rest ih =>
      have both : ([ref] ++ rest).filterMap (orderOf? g) = ordersOf g [ref] ++ ordersOf g rest :=
        List.filterMap_append
      have first := queue_class_value g backlog ref
      calc
        (queueClasses g backlog (ref :: rest)).value =
            (queueClasses g (queueClass g backlog ref).value.2 rest).value := rfl
        _ = (backlog.putAll (ordersOf g [ref])).putAll (ordersOf g rest) := by rw [ih, first]
        _ = backlog.putAll (ordersOf g (ref :: rest)) := by
            rw [← Backlog.put_all_append, ← both]
            rfl

theorem queue_struct_value (g : TypeGraph) (backlog : Backlog) (ref : StructRef) :
    (queueStruct g backlog ref).value =
      backlog.putAll (ordersOf g (classesOf g (.newStruct ref))) := by
  cases found : g.struct? ref with
  | none => simp [queueStruct, classesOf, found, ordersOf, Backlog.putAll]
  | some s =>
      have value := queue_classes_value g backlog s.references.classes
      simpa [queueStruct, queueReferences, classesOf, found] using value

theorem queue_enum_value (g : TypeGraph) (backlog : Backlog) (ref : EnumRef) :
    (queueEnum g backlog ref).value =
      backlog.putAll (ordersOf g (classesOf g (.newEnum ref))) := by
  cases found : g.enum? ref with
  | none => simp [queueEnum, classesOf, found, ordersOf, Backlog.putAll]
  | some e =>
      have value := queue_classes_value g backlog e.references.classes
      simpa [queueEnum, queueReferences, classesOf, found] using value

end Intake

/-- A class that was announced, and the graph it was announced from. -/
structure Mention where
  graph : TypeGraph
  ref : ClassRef

namespace Mention

def owner? (m : Mention) : Option BlueprintRef := m.graph.ownerOf? m.ref

def lane (m : Mention) : Lane := Intake.laneOf m.graph m.ref

def order? (m : Mention) : Option Order := Intake.orderOf? m.graph m.ref

theorem order_eq (m : Mention) : m.order? = m.owner?.map fun owner => ⟨m.lane, owner⟩ := rfl

end Mention

def lastMention? (mentions : List Mention) (blueprint : BlueprintRef) : Option Mention :=
  mentions.reverse.find? fun m => m.owner? = some blueprint

theorem latest_orders (mentions : List Mention) (blueprint : BlueprintRef) :
    latest? (mentions.filterMap Mention.order?) blueprint =
      (lastMention? mentions blueprint).map Mention.lane := by
  induction mentions using List.reverseRecOn with
  | nil => rfl
  | append_singleton mentions m ih =>
      unfold latest? lastMention? at ih ⊢
      rw [List.filterMap_append]
      cases owned : m.owner? with
      | none => simpa [m.order_eq, owned] using ih
      | some owner =>
          by_cases same : owner = blueprint
          · simp [m.order_eq, owned, same]
          · simpa [m.order_eq, owned, same] using ih

theorem orders_of_mentions (g : TypeGraph) (refs : List ClassRef) :
    (refs.map (Mention.mk g)).filterMap Mention.order? = Intake.ordersOf g refs :=
  List.filterMap_map ..

end BlueprintBridge
