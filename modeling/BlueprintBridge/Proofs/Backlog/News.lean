import BlueprintBridge.Proofs.Backlog.History
import BlueprintBridge.Proofs.Graph.Reparenting
import BlueprintBridge.Proofs.Graph.Requests
import BlueprintBridge.Proofs.Orders

/-!
# What news does to a backlog

News of a class puts the blueprint that owns it on the side of the class, and on that side only;
news of any other class does nothing. News of a struct or of an enum is news of the classes that it
refers to, each where it first occurs. So where two classes of one blueprint lie on different sides
the later of them decides.
-/

namespace BlueprintBridge

set_option autoImplicit false

namespace TypeGraph

variable {g : TypeGraph} {owner : BlueprintRef} {ref : ClassRef}

/-- A live class names this blueprint, which is live, as its owner. -/
def Owns (g : TypeGraph) (owner : BlueprintRef) (ref : ClassRef) : Prop :=
  ∃ c, g.class? ref = some c ∧ c.generatedBy = some owner ∧ g.blueprints.contains owner = true

theorem owner_eq_some_iff : g.ownerOf? ref = some owner ↔ g.Owns owner ref := by
  simp only [ownerOf?, Option.filter_eq_some_iff, Option.bind_eq_some_iff, exists_and_right,
    Owns, ← and_assoc]

theorem owner_eq_none_iff : g.ownerOf? ref = none ↔ ∀ owner, ¬ g.Owns owner ref := by
  simp only [← owner_eq_some_iff, Option.eq_none_iff_forall_ne_some]

theorem Owns.live (owns : g.Owns owner ref) : g.classes.contains ref = true := by
  obtain ⟨c, found, _⟩ := owns
  exact SlotTable.contains_iff.mpr ⟨c, found⟩

end TypeGraph

namespace ReferenceSet

theorem of_list_snoc (refs : List ManagedReference) (ref : ManagedReference) :
    ofList (refs ++ [ref]) = ((ofList refs).add ref).2 :=
  List.foldl_append

theorem mem_of_list (refs : List ManagedReference) (ref : ManagedReference) :
    ref ∈ (ofList refs).entries ↔ ref ∈ refs := by
  induction refs using List.reverseRecOn with
  | nil => rfl
  | append_singleton refs last ih => rw [of_list_snoc, mem_add, ih, List.mem_append, List.mem_singleton]

theorem class_eq_some_iff {reference : ManagedReference} {ref : ClassRef} :
    reference.class? = some ref ↔ reference = .toClass ref := by
  cases reference <;> simp [ManagedReference.class?]

theorem erase_dups_snoc (refs : List ClassRef) (last : ClassRef) :
    (refs ++ [last]).eraseDups = refs.eraseDups ++ if last ∈ refs then [] else [last] := by
  rw [List.eraseDups_append, List.removeAll]
  split
  · next again => simp [again]
  · next new => simp [new, List.eraseDups_cons]

theorem classes_of_list (refs : List ManagedReference) :
    (ofList refs).classes = (refs.filterMap (·.class?)).eraseDups := by
  induction refs using List.reverseRecOn with
  | nil => rfl
  | append_singleton refs last ih =>
      rw [of_list_snoc, List.filterMap_append]
      unfold add
      cases last with
      | toStruct ref => split <;> simpa [ManagedReference.class?, classes] using ih
      | toClass ref =>
          have known : ManagedReference.toClass ref ∈ (ofList refs).entries ↔
              ref ∈ refs.filterMap (·.class?) := by
            simp only [mem_of_list, List.mem_filterMap, class_eq_some_iff]
            exact ⟨fun member => ⟨_, member, rfl⟩, fun ⟨_, member, same⟩ => same ▸ member⟩
          change _ = (refs.filterMap (·.class?) ++ [ref]).eraseDups
          rw [erase_dups_snoc, ← ih]
          split
          · next again => rw [if_pos (known.mp again), List.append_nil]
          · next new =>
              rw [if_neg (known.not.mp new)]
              exact List.filterMap_append

end ReferenceSet

namespace Backlog

/-- What is not ordered keeps its place and its order. -/
theorem others_put_all (backlog : Backlog) {orders : List Order} {spared : BlueprintRef → Bool}
    (apart : ∀ order ∈ orders, spared order.blueprint = false) (lane : Lane) :
    ((backlog.putAll orders).lane lane).entries.filter spared =
      (backlog.lane lane).entries.filter spared := by
  induction orders using List.reverseRecOn with
  | nil => rfl
  | append_singleton orders order ih =>
      have ordered := apart order (by simp)
      have within (entries : List BlueprintRef) :
          (entries.filter (· ≠ order.blueprint)).filter spared = entries.filter spared := by
        rw [List.filter_filter]
        apply List.filter_congr
        intro entry _
        by_cases same : entry = order.blueprint
        · simp [same, ordered]
        · simp [same]
      rw [put_all_snoc, put, ← within, others_enqueue, within]
      exact ih fun other member => apart other (List.mem_append_left _ member)

end Backlog

theorem latest_of_split (before after : List Order) (order : Order)
    (last : ∀ other ∈ after, other.blueprint ≠ order.blueprint) :
    latest? (before ++ order :: after) order.blueprint = some order.lane := by
  have later : after.reverse.find? (fun other => other.blueprint = order.blueprint) = none := by
    simpa using last
  simp [latest?, List.reverse_append, List.find?_append, later]

namespace Intake

variable {g : TypeGraph} {b next : Backlog} {owner : BlueprintRef} {ref : ClassRef}

def SidesWith (g : TypeGraph) (b : Backlog) (owner : BlueprintRef) (ref : ClassRef) : Prop :=
  ∀ lane, owner ∈ (b.lane lane).entries ↔ (lane = .components ↔ g.Ascends ref g.componentClass)

theorem eq_lane_of_iff (tended : g.Tended) (owns : g.Owns owner ref) (lane : Lane) :
    lane = laneOf g ref ↔ (lane = .components ↔ g.Ascends ref g.componentClass) := by
  rw [← tended.component_iff owns.live, eq_comm, lane_of_eq_iff]

structure Queued (g : TypeGraph) (b : Backlog) (ref : ClassRef) (owner : BlueprintRef)
    (answer : Lane) (next : Backlog) : Prop where
  answered : answer = .components ↔ g.Ascends ref g.componentClass
  placed : SidesWith g next owner ref
  exclusive : next.Exclusive
  others : ∀ lane, (next.lane lane).entries.filter (· ≠ owner) =
    (b.lane lane).entries.filter (· ≠ owner)
  again : (queueClass g next ref).value = (some answer, next)

theorem queue_class_unowned (unowned : ∀ owner, ¬ g.Owns owner ref) :
    (queueClass g b ref).value = (none, b) := by
  unfold queueClass
  rw [TypeGraph.owner_eq_none_iff.mpr unowned]

theorem queue_class_owned (owns : g.Owns owner ref) :
    (queueClass g b ref).value = (some (laneOf g ref), (b.enqueue (laneOf g ref) owner).2) := by
  unfold queueClass
  rw [TypeGraph.owner_eq_some_iff.mpr owns]

theorem queued (tended : g.Tended) (exclusive : b.Exclusive) (owns : g.Owns owner ref) :
    Queued g b ref owner (laneOf g ref) (b.enqueue (laneOf g ref) owner).2 where
  answered := (eq_lane_of_iff tended owns _).mp rfl
  placed lane := by
    rw [Backlog.mem_enqueue, if_pos rfl]
    exact eq_lane_of_iff tended owns lane
  exclusive := exclusive.enqueue _ owner
  others lane := b.others_enqueue _ lane owner
  again := by
    have waits : owner ∈ ((b.enqueue (laneOf g ref) owner).2.lane (laneOf g ref)).entries := by
      rw [Backlog.mem_enqueue, if_pos rfl]
    rw [queue_class_owned owns, (exclusive.enqueue _ owner).enqueue_of_mem waits]

/-- What one piece of news after the other, about these classes, makes of the backlog. -/
structure Fed (g : TypeGraph) (b : Backlog) (classes : List ClassRef) (news : Logged Backlog) :
    Prop where
  /-- The records are those of the single pieces, too. -/
  folded : news = classes.foldlM (fun b ref => Prod.snd <$> queueClass g b ref) b
  /-- The last class of a blueprint decides. -/
  decided : ∀ before ref after owner, classes = before ++ ref :: after → g.Owns owner ref →
    (∀ other ∈ after, ¬ g.Owns owner other) → SidesWith g news.value owner ref
  /-- What owns none of the classes stays. -/
  others : ∀ lane, (news.value.lane lane).entries.filter
      (fun entry => classes.all fun ref => g.ownerOf? ref ≠ some entry) =
    (b.lane lane).entries.filter fun entry => classes.all fun ref => g.ownerOf? ref ≠ some entry
  exclusive : news.value.Exclusive

theorem queue_classes_eq_fold (g : TypeGraph) (b : Backlog) (refs : List ClassRef) :
    queueClasses g b refs = refs.foldlM (fun b ref => Prod.snd <$> queueClass g b ref) b := by
  induction refs generalizing b with
  | nil => rfl
  | cons ref rest ih =>
      rw [List.foldlM_cons, bind_map_left]
      unfold queueClasses
      simp only [ih]

theorem order_eq_some_iff {order : Order} :
    orderOf? g ref = some order ↔ g.Owns order.blueprint ref ∧ laneOf g ref = order.lane := by
  obtain ⟨lane, owner⟩ := order
  simp only [orderOf?, Option.map_eq_some_iff, TypeGraph.owner_eq_some_iff, Order.mk.injEq]
  constructor
  · rintro ⟨_, owns, side, rfl⟩
    exact ⟨owns, side⟩
  · rintro ⟨owns, side⟩
    exact ⟨owner, owns, side, rfl⟩

theorem mem_orders_of {refs : List ClassRef} {order : Order} :
    order ∈ ordersOf g refs ↔
      ∃ ref ∈ refs, g.Owns order.blueprint ref ∧ laneOf g ref = order.lane := by
  simp only [ordersOf, List.mem_filterMap, order_eq_some_iff]

theorem queue_classes_fed (tended : g.Tended) (exclusive : b.Exclusive) (refs : List ClassRef) :
    Fed g b refs (queueClasses g b refs) where
  folded := queue_classes_eq_fold g b refs
  decided before ref after owner split owns last := by
    intro lane
    have orders : ordersOf g refs =
        ordersOf g before ++ ⟨laneOf g ref, owner⟩ :: ordersOf g after := by
      have own : orderOf? g ref = some ⟨laneOf g ref, owner⟩ := order_eq_some_iff.mpr ⟨owns, rfl⟩
      rw [split, ordersOf, List.filterMap_append, List.filterMap_cons_some own]
      rfl
    have later : ∀ other ∈ ordersOf g after, other.blueprint ≠ owner := by
      rintro other member rfl
      obtain ⟨again, listed, ownsToo, _⟩ := mem_orders_of.mp member
      exact last again listed ownsToo
    have latest := latest_of_split (ordersOf g before) (ordersOf g after) ⟨laneOf g ref, owner⟩ later
    rw [queue_classes_value, Backlog.mem_put_all_onto, orders, latest]
    exact eq_lane_of_iff tended owns lane
  others lane := by
    rw [queue_classes_value]
    apply Backlog.others_put_all
    intro order member
    obtain ⟨ref, listed, owns, _⟩ := mem_orders_of.mp member
    have owned := TypeGraph.owner_eq_some_iff.mpr owns
    exact List.all_eq_false.mpr ⟨ref, listed, by simp [owned]⟩
  exclusive := by
    rw [queue_classes_value]
    exact exclusive.put_all _

def firstClasses (refs : List ManagedReference) : List ClassRef :=
  (refs.filterMap (·.class?)).eraseDups

theorem queue_references_fed (tended : g.Tended) (exclusive : b.Exclusive)
    (refs : List ManagedReference) :
    Fed g b (firstClasses refs) (queueReferences g b (.ofList refs)) := by
  rw [queueReferences, ReferenceSet.classes_of_list]
  exact queue_classes_fed tended exclusive (firstClasses refs)

/-- In a graph without a cycle, as all that checked operations lead to, news puts the owner of a
class on the side of the class, news of a struct or an enum does so class by class, and news of what
is not live or not owned does nothing. -/
theorem news_places_owners (tended : g.Tended) (exclusive : b.Exclusive) :
    (∀ ref, (∀ owner, ¬ g.Owns owner ref) → (queueClass g b ref).value = (none, b)) ∧
    (∀ ref owner, g.Owns owner ref → ∃ answer next,
      (queueClass g b ref).value = (some answer, next) ∧ Queued g b ref owner answer next) ∧
    (∀ ref s refs, g.struct? ref = some s → s.references = .ofList refs →
      Fed g b (firstClasses refs) (queueStruct g b ref)) ∧
    (∀ ref e refs, g.enum? ref = some e → e.references = .ofList refs →
      Fed g b (firstClasses refs) (queueEnum g b ref)) ∧
    (∀ ref, g.struct? ref = none → queueStruct g b ref = pure b) ∧
    ∀ ref, g.enum? ref = none → queueEnum g b ref = pure b := by
  refine ⟨fun ref => queue_class_unowned, ?_, ?_, ?_, ?_, ?_⟩
  · intro ref owner owns
    exact ⟨_, _, queue_class_owned owns, queued tended exclusive owns⟩
  · intro ref s refs found made
    simp only [queueStruct, found, made]
    exact queue_references_fed tended exclusive refs
  · intro ref e refs found made
    simp only [queueEnum, found, made]
    exact queue_references_fed tended exclusive refs
  · intro ref gone
    rw [queueStruct, gone]
  · intro ref gone
    rw [queueEnum, gone]

def outfitted : List TypeGraph.Request :=
  [.edit (.addBlueprint { name := "BP_Door", kind := .managed }),
    .edit (.addBlueprint { name := "BP_Lamp", kind := .managed }),
    .generate { name := ⟨"Game", "", "Door"⟩, blueprint := some ⟨0, 0⟩ },
    .generate { name := ⟨"Game", "", "Shutter"⟩, superName := some TypeGraph.componentName,
                blueprint := some ⟨0, 0⟩ },
    .generate { name := ⟨"Game", "", "Lamp"⟩, blueprint := some ⟨1, 0⟩ },
    .generate { name := ⟨"Game", "", "Bench"⟩ }, .generate { name := ⟨"Game", "", "Rug"⟩ },
    .edit (.removeClass ⟨6, 0⟩)]

def roomReferences : List ManagedReference :=
  [.toClass ⟨6, 0⟩, .toClass ⟨2, 0⟩, .toStruct ⟨0, 0⟩, .toClass ⟨4, 0⟩, .toClass ⟨3, 0⟩,
    .toClass ⟨5, 0⟩, .toClass ⟨2, 0⟩]

def withRoom : TypeGraph :=
  TypeGraph.initial.performAll (outfitted ++
    [.defineStruct { name := ⟨"Game", "", "Room"⟩, references := .ofList roomReferences }])

/-- The blueprint of door and shutter waited on the side of the door, and goes to that of the
shutter. -/
theorem room_news_placed :
    withRoom.Tended ∧
    (⟨{}, ⟨[⟨0, 0⟩, ⟨7, 0⟩]⟩⟩ : Backlog).Exclusive ∧
    withRoom.Owns ⟨0, 0⟩ ⟨3, 0⟩ ∧
    Fed withRoom ⟨{}, ⟨[⟨0, 0⟩, ⟨7, 0⟩]⟩⟩ [⟨6, 0⟩, ⟨2, 0⟩, ⟨4, 0⟩, ⟨3, 0⟩, ⟨5, 0⟩]
      (queueStruct withRoom ⟨{}, ⟨[⟨0, 0⟩, ⟨7, 0⟩]⟩⟩ ⟨0, 0⟩) ∧
    (queueStruct withRoom ⟨{}, ⟨[⟨0, 0⟩, ⟨7, 0⟩]⟩⟩ ⟨0, 0⟩).value =
      ⟨⟨[⟨0, 0⟩]⟩, ⟨[⟨7, 0⟩, ⟨1, 0⟩]⟩⟩ := by
  have tended : withRoom.Tended :=
    ⟨TypeGraph.initial.perform_all_operations _, TypeGraph.acyclic_of_listed (by decide +kernel)⟩
  have exclusive : (⟨{}, ⟨[⟨0, 0⟩, ⟨7, 0⟩]⟩⟩ : Backlog).Exclusive :=
    ⟨fun lane => by cases lane <;> decide, fun _ member => by cases member⟩
  have owns : withRoom.Owns ⟨0, 0⟩ ⟨3, 0⟩ := TypeGraph.owner_eq_some_iff.mp (by decide +kernel)
  have room : withRoom.struct? ⟨0, 0⟩ =
      some { name := ⟨"Game", "", "Room"⟩, references := .ofList roomReferences } := by
    decide +kernel
  obtain ⟨_, _, structs, _⟩ := news_places_owners tended exclusive
  exact ⟨tended, exclusive, owns, structs _ _ roomReferences room rfl, by decide +kernel⟩

end Intake

end BlueprintBridge
