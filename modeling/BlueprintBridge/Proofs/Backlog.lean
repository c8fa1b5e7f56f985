import BlueprintBridge.Compile.Backlog

/-!
# The two lanes as exclusive sets

Queueing a blueprint puts it into one lane and out of the other, and leaves every other entry
where it is. So no blueprint ever waits twice, in one lane or in both.
-/

namespace BlueprintBridge.Backlog

set_option autoImplicit false

theorem lane_enqueue (backlog : Backlog) (lane other : Lane) (blueprint : BlueprintRef) :
    (backlog.enqueue lane blueprint).2.lane other =
      if other = lane then ((backlog.lane lane).push blueprint).2
      else ((backlog.lane other).remove blueprint).2 := by
  cases lane <;> cases other <;> rfl

theorem lane_take (backlog : Backlog) (lane other : Lane) :
    (backlog.take lane).2.lane other = if other = lane then {} else backlog.lane other := by
  cases lane <;> cases other <;> rfl

/-- What waits where after a blueprint was queued. -/
theorem mem_enqueue (backlog : Backlog) (lane other : Lane) (blueprint entry : BlueprintRef) :
    entry ∈ ((backlog.enqueue lane blueprint).2.lane other).entries ↔
      if entry = blueprint then other = lane else entry ∈ (backlog.lane other).entries := by
  rw [lane_enqueue]
  by_cases target : other = lane
  · subst target
    rw [if_pos rfl, WaitList.mem_push]
    split <;> simp_all
  · rw [if_neg target, WaitList.mem_remove]
    split <;> simp_all

/-- No blueprint waits twice in a lane or in both lanes. -/
structure Exclusive (backlog : Backlog) : Prop where
  nodup : ∀ lane, (backlog.lane lane).entries.Nodup
  apart : ∀ blueprint, blueprint ∈ (backlog.lane .components).entries →
    blueprint ∉ (backlog.lane .classes).entries

theorem exclusive_initial : Exclusive {} where
  nodup lane := by cases lane <;> exact List.nodup_nil
  apart _ member := by cases member

theorem Exclusive.enqueue {backlog : Backlog} (exclusive : backlog.Exclusive) (lane : Lane)
    (blueprint : BlueprintRef) : (backlog.enqueue lane blueprint).2.Exclusive where
  nodup other := by
    rw [lane_enqueue]
    split
    · exact WaitList.nodup_push (exclusive.nodup lane) blueprint
    · exact WaitList.nodup_remove (exclusive.nodup other) blueprint
  apart entry inComponents inClasses := by
    rw [mem_enqueue] at inComponents inClasses
    split at inComponents
    · next same =>
        rw [if_pos same, ← inComponents] at inClasses
        cases inClasses
    · next different =>
        rw [if_neg different] at inClasses
        exact exclusive.apart entry inComponents inClasses

theorem Exclusive.take {backlog : Backlog} (exclusive : backlog.Exclusive) (lane : Lane) :
    (backlog.take lane).2.Exclusive where
  nodup other := by
    rw [lane_take]
    split
    · exact List.nodup_nil
    · exact exclusive.nodup other
  apart entry inComponents inClasses := by
    cases lane with
    | components => cases inComponents
    | classes => cases inClasses

theorem find_enqueue {backlog : Backlog} (lane : Lane) (blueprint entry : BlueprintRef) :
    (backlog.enqueue lane blueprint).2.find? entry =
      if entry = blueprint then some lane else backlog.find? entry := by
  have components := mem_enqueue backlog lane .components blueprint entry
  have classes := mem_enqueue backlog lane .classes blueprint entry
  simp only [find?, Lane.order, contains, WaitList.contains, List.find?_cons, List.find?_nil]
  by_cases same : entry = blueprint
  · rw [if_pos same] at components classes ⊢
    cases lane <;> simp [components, classes]
  · rw [if_neg same] at components classes ⊢
    simp only [components, classes]

theorem find_is_some (backlog : Backlog) (entry : BlueprintRef) :
    (backlog.find? entry).isSome = true ↔
      entry ∈ (backlog.lane .components).entries ∨ entry ∈ (backlog.lane .classes).entries := by
  simp [find?, Lane.order, contains, WaitList.contains]

def waiting (backlog : Backlog) (entry : BlueprintRef) : Nat :=
  (backlog.lane .components).entries.count entry + (backlog.lane .classes).entries.count entry

theorem Exclusive.waiting_eq {backlog : Backlog} (exclusive : backlog.Exclusive)
    (entry : BlueprintRef) :
    backlog.waiting entry = if (backlog.find? entry).isSome then 1 else 0 := by
  have apart := exclusive.apart entry
  rw [waiting, (exclusive.nodup .components).count, (exclusive.nodup .classes).count]
  simp only [find_is_some]
  by_cases inComponents : entry ∈ (backlog.lane .components).entries
  · simp [inComponents, apart inComponents]
  · simp [inComponents]

theorem Exclusive.waiting_enqueue {backlog : Backlog} (exclusive : backlog.Exclusive) (lane : Lane)
    (blueprint entry : BlueprintRef) :
    (backlog.enqueue lane blueprint).2.waiting entry =
      if entry = blueprint then 1 else backlog.waiting entry := by
  rw [(exclusive.enqueue lane blueprint).waiting_eq, find_enqueue, exclusive.waiting_eq]
  split <;> rfl

theorem waiting_take (backlog : Backlog) (lane : Lane) (entry : BlueprintRef) :
    (backlog.take lane).1.count entry + (backlog.take lane).2.waiting entry =
      backlog.waiting entry := by
  simp only [waiting, lane_take]
  cases lane with
  | components => simp [take]
  | classes => simp [take, Nat.add_comm]

end BlueprintBridge.Backlog
