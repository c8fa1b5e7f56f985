import BlueprintBridge.Proofs.Drain.Journal

/-!
# The order of a drain

A drain that answers with the blueprints it compiled has called the engine for exactly these, in
this order, and then for one collection. The components begin with the ones that waited at first;
none waits at the turn, where the classes are taken as they wait there.
-/

namespace BlueprintBridge

set_option autoImplicit false

open Workshop

/-- What a drain that began at `start` has behind it and still ahead: `calls` are its calls of the
engine, those for the rest of the batch included, and whatever was put among the components is
compiled, moved, waiting, or in the rest of the batch. -/
def Underway.Since (start : Workshop) (calls : List EngineCall) (u : Underway) : Prop :=
  ∃ events, u.workshop.journal = start.journal ++ events ∧
    engineCalls events ++ u.batch.map .compile = calls ∧
    Followed (fun blueprint => blueprint ∈ u.workshop.lane .components ∨ blueprint ∈ u.batch) events

namespace Underway

variable {start : Workshop} {calls : List EngineCall}

theorem mem_lane_queue (w : Workshop) (lane other : Lane) (blueprint entry : BlueprintRef) :
    entry ∈ (w.queue lane blueprint).2.lane other ↔
      if entry = blueprint then other = lane else entry ∈ w.lane other :=
  Backlog.mem_enqueue w.recompiler.backlog lane other blueprint entry

theorem Since.recorded {batch : List BlueprintRef} {w next : Workshop} (event : Event)
    (since : Since start calls ⟨batch, w⟩) (journal : next.journal = w.journal ++ [event])
    (lanes : next.lane .components = w.lane .components) (noCall : event.call? = none)
    (notQueued : ∀ lane blueprint fresh, event ≠ .queued lane blueprint fresh) :
    Since start calls ⟨batch, next⟩ := by
  obtain ⟨events, split, called, followed⟩ := since
  refine ⟨events ++ [event], ?_, ?_, ?_⟩
  · rw [journal, split, List.append_assoc]
  · rw [engine_calls_snoc, noCall]
    simpa using called
  · apply followed.snoc
    · intro blueprint waits
      rw [lanes]
      exact .inr (.inr waits)
    · intro blueprint fresh same
      exact absurd same (notQueued _ _ _)

theorem Since.queued {batch : List BlueprintRef} {w : Workshop}
    (since : Since start calls ⟨batch, w⟩) (lane : Lane) (blueprint : BlueprintRef) :
    Since start calls ⟨batch, (w.queue lane blueprint).2⟩ := by
  obtain ⟨events, split, called, followed⟩ := since
  let fresh := (w.recompiler.backlog.find? blueprint).isNone
  refine ⟨events ++ [.queued lane blueprint fresh], ?_, ?_, ?_⟩
  · change w.journal ++ _ = _
    rw [split, List.append_assoc]
  · rw [engine_calls_snoc]
    simpa [Event.call?] using called
  · apply followed.snoc
    · intro entry waits
      rw [mem_lane_queue]
      -- Queueing moves only the blueprint itself: away from the components only to the classes.
      by_cases same : entry = blueprint
      · cases lane with
        | components => simp [same]
        | classes => exact .inr (.inl ⟨fresh, by simp [same]⟩)
      · rw [if_neg same]
        exact .inr (.inr waits)
    · intro entry other same
      injection same with target moved
      rw [mem_lane_queue, if_pos moved.symm]
      exact .inl target.symm

theorem Since.act {batch : List BlueprintRef} {w next : Workshop}
    (since : Since start calls ⟨batch, w⟩) (act : Act w next) : Since start calls ⟨batch, next⟩ := by
  cases act with
  | queue lane blueprint => exact since.queued lane blueprint
  | beginLoad assembly => exact since.recorded _ rfl rfl rfl (by simp)
  | finishLoad assembly => exact since.recorded _ rfl rfl rfl (by simp)
  | refused =>
      have entered : Since start calls ⟨batch, w.record .triggered⟩ :=
        since.recorded .triggered rfl rfl rfl (by simp)
      exact entered.recorded (.answered .reentrant) rfl rfl rfl (by simp)

theorem Since.step {before after : Underway} (since : before.Since start calls)
    (step : Step before after) : after.Since start calls := by
  cases step with
  | act batch act => exact since.act act
  | called blueprint options batch w =>
      obtain ⟨events, split, called, followed⟩ := since
      refine ⟨events ++ [.compileCalled blueprint options], ?_, ?_, ?_⟩
      · change w.journal ++ _ = _
        rw [split, List.append_assoc]
      · rw [engine_calls_snoc]
        simpa [Event.call?] using called
      · apply followed.snoc
        -- The blueprint that is called leaves the batch, and is compiled from here on.
        · rintro entry (waits | ahead)
          · exact .inr (.inr (.inl waits))
          · rcases List.mem_cons.mp ahead with rfl | later
            · exact .inl rfl
            · exact .inr (.inr (.inr later))
        · intro entry fresh same
          cases same
  | returned blueprint log batch w => exact since.recorded _ rfl rfl rfl (by simp)

theorem Since.steps {before after : Underway} (since : before.Since start calls)
    (steps : Steps before after) : after.Since start calls := by
  induction steps with
  | refl => exact since
  | tail _ step ih => exact ih.step step

theorem Since.taken {w : Workshop} (since : Since start calls ⟨[], w⟩) (lane : Lane) :
    Since start (calls ++ (w.lane lane).map .compile) ⟨w.lane lane, w.emptied lane⟩ := by
  obtain ⟨events, split, called, followed⟩ := since
  refine ⟨events, split, ?_, ?_⟩
  · rw [← called]
    simp
  · apply followed.mono
    rintro blueprint (waits | ahead)
    · rw [lane_emptied]
      cases lane with
      | components => exact .inr waits
      | classes => exact .inl waits
    · cases ahead

theorem Since.collected {w : Workshop} (since : Since start calls ⟨[], w⟩) (keep : ObjectFlags)
    (fullPurge : Bool) :
    Since start (calls ++ [.collect]) ⟨[], w.record (.collectCalled keep fullPurge)⟩ := by
  obtain ⟨events, split, called, followed⟩ := since
  refine ⟨events ++ [.collectCalled keep fullPurge], ?_, ?_, ?_⟩
  · change w.journal ++ _ = _
    rw [split, List.append_assoc]
  · rw [engine_calls_snoc, ← called]
    simp [Event.call?]
  · apply followed.snoc
    · intro blueprint waits
      exact .inr (.inr waits)
    · intro blueprint fresh same
      cases same

theorem Since.refl (w : Workshop) : Since w [] ⟨[], w⟩ := ⟨[], by simp, rfl, trivial⟩

theorem Since.entered (w : Workshop) : Since w [] ⟨[], w.entered⟩ :=
  (Since.refl w).recorded .triggered rfl rfl rfl (by simp)

end Underway

open Underway

namespace Engine

variable {engine : Engine} {fuel depth : Nat}

/-- The component phase calls the engine for its components, beginning with those that waited,
and ends with none waiting. -/
theorem component_phase_order {start w turn : Workshop} {calls : List EngineCall}
    {components : List BlueprintRef} (phase : ComponentPhase w components turn)
    (since : Since start calls ⟨[], w⟩) :
    Since start (calls ++ components.map .compile) ⟨[], turn⟩ ∧
      w.lane .components <+: components ∧ turn.lane .components = [] := by
  induction phase generalizing calls with
  | @ended w none =>
      have taken := since.taken .components
      rw [none] at taken
      refine ⟨taken, ?_, ?_⟩
      · simp [none]
      · rw [lane_emptied, if_pos rfl]
  | @batch w middle turn more some steps later ih =>
      obtain ⟨finished, _, ended⟩ := ih ((since.taken .components).steps steps)
      refine ⟨?_, List.prefix_append _ _, ended⟩
      rw [List.map_append, ← List.append_assoc]
      exact finished

theorem component_phase_nil {w turn : Workshop} (phase : ComponentPhase w [] turn) :
    w.lane .components = [] ∧ turn.lane .classes = w.lane .classes := by
  generalize components : ([] : List BlueprintRef) = none at phase
  cases phase with
  | ended empty => exact ⟨empty, by rw [lane_emptied, if_neg (by decide)]⟩
  | batch some =>
      have empty := (List.append_eq_nil_iff.mp components.symm).1
      exact absurd empty some

theorem collecting_order {turn worked middle : Workshop} {keep : ObjectFlags} {fullPurge : Bool}
    (steps : Steps ⟨turn.lane .classes, turn.emptied .classes⟩ ⟨[], worked⟩)
    (acts : Interlude (worked.record (.collectCalled keep fullPurge)) middle) :
    Since turn ((turn.lane .classes).map .compile ++ [.collect]) ⟨[], middle⟩ := by
  have begun : Since turn ((turn.lane .classes).map .compile)
      ⟨turn.lane .classes, turn.emptied .classes⟩ := (Since.refl turn).taken .classes
  have called := (begun.steps steps).collected keep fullPurge
  exact called.steps (Steps.of_interlude [] acts)

/-- After the turn a drain calls the engine for the classes taken there and for one collection. -/
theorem class_phase_order {turn finish : Workshop} (outcome : Outcome)
    (phase : ClassPhase turn finish) :
    Since turn ((turn.lane .classes).map .compile ++ [.collect]) ⟨[], finish.left outcome⟩ := by
  cases phase with
  | @collected worked middle keep fullPurge steps acts =>
      have returned : Since turn _ ⟨[], middle.record .collectReturned⟩ :=
        (collecting_order steps acts).recorded .collectReturned rfl rfl rfl (by simp)
      exact returned.recorded (.answered outcome) rfl rfl rfl (by simp)

theorem waiting_of_not_empty {w : Workshop} (some : w.recompiler.backlog.isEmpty = false) :
    w.lane .components ≠ [] ∨ w.lane .classes ≠ [] := by
  by_cases none : w.lane .components = []
  · right
    intro noClasses
    have components : w.recompiler.backlog.components.entries = [] := none
    have classes : w.recompiler.backlog.classes.entries = [] := noClasses
    simp [Backlog.isEmpty, Backlog.totalSize, Backlog.size, WaitList.size, Backlog.lane,
      components, classes] at some
  · exact .inl none

variable (engine fuel depth) in
/-- The order of a drain from `start` to `finish`: `early` happens before the turn, where the
classes are taken, and `late` after it. -/
structure DrainOrder (start finish : Workshop) (components classes : List BlueprintRef)
    (turn worked : Workshop) (early late : List Event) : Prop where
  component_phase :
    (engine.site (engine.trigger fuel depth)).drainComponents fuel start.entered =
      .ok components turn
  class_phase :
    (engine.site (engine.trigger fuel depth)).compileLane .classes turn = .ok classes worked
  journal_early : turn.journal = start.journal ++ early
  journal_late : finish.journal = turn.journal ++ late
  calls_early : engineCalls early = components.map .compile
  /-- After the classes the one collection of the drain. -/
  calls_late : engineCalls late = classes.map .compile ++ [.collect]
  waiting_first : start.lane .components <+: components
  none_at_turn : turn.lane .components = []
  /-- What was put among the components before the turn was compiled before it, unless it was
  moved to the classes. -/
  followed : Followed (fun _ => False) early
  classes_at_turn : classes = turn.lane .classes
  something : components ++ classes ≠ []

/-- A drain compiles its components, then its classes, then collects garbage once. The components
begin with those that waited, and at the turn, where the classes are taken as they wait, no
component waits any more. -/
theorem drain_compiles_components_then_classes (engine : Engine) (fuel depth : Nat)
    (start finish : Workshop) (components classes : List BlueprintRef)
    (answer : engine.trigger fuel (depth + 1) start =
      .ok (.compiled components classes) finish) :
    ∃ turn worked early late,
      engine.DrainOrder fuel depth start finish components classes turn worked early late := by
  cases trigger_answers answer with
  | @compiled components turn worked last idle loaded some drain =>
      obtain ⟨phase, classPhase⟩ := drain.phases rfl
      obtain ⟨⟨early, earlyJournal, earlyCalls, followed⟩, first, ended⟩ :=
        component_phase_order phase (Since.entered start)
      obtain ⟨late, lateJournal, lateCalls, _⟩ :=
        class_phase_order (.compiled components (turn.lane .classes)) classPhase
      exact ⟨turn, worked, early, late,
        { component_phase := drain.components_run
          class_phase := drain.classes_run
          journal_early := earlyJournal
          journal_late := lateJournal
          calls_early := by simpa using earlyCalls
          calls_late := by simpa using lateCalls
          waiting_first := first
          none_at_turn := ended
          -- At the turn nothing waits among the components, and no batch is left.
          followed := by
            apply followed.mono
            rintro blueprint (waits | ahead)
            · rw [ended] at waits
              cases waits
            · cases ahead
          classes_at_turn := rfl
          something := by
            intro nothing
            obtain ⟨noComponents, noClasses⟩ := List.append_eq_nil_iff.mp nothing
            subst noComponents
            obtain ⟨none, same⟩ := component_phase_nil phase
            rcases waiting_of_not_empty some with waits | waits
            · exact waits none
            · exact waits (same.symm.trans noClasses) }⟩

/-- An engine whose first compilation queues a component and a class, moves a class to the
components and triggers again; so does its collection. -/
def growingEngine : Engine where
  compile blueprint _ :=
    if blueprint = ⟨0, 0⟩ then
      .queue .components ⟨1, 0⟩ fun _ => .queue .classes ⟨2, 0⟩ fun _ =>
        .queue .components ⟨3, 0⟩ fun _ => .trigger fun _ => .done {}
    else .done {}
  collect _ _ := .queue .components ⟨5, 0⟩ fun _ => .trigger fun _ => .done ()

def growingStart : Workshop :=
  { recompiler := { backlog := ⟨⟨[⟨0, 0⟩]⟩, ⟨[⟨3, 0⟩, ⟨4, 0⟩]⟩⟩ } }

theorem growing_drain_in_order :
    ∃ finish turn worked early late,
      growingEngine.trigger 3 2 growingStart =
          .ok (.compiled [⟨0, 0⟩, ⟨1, 0⟩, ⟨3, 0⟩] [⟨4, 0⟩, ⟨2, 0⟩]) finish ∧
        growingEngine.DrainOrder 3 1 growingStart finish [⟨0, 0⟩, ⟨1, 0⟩, ⟨3, 0⟩]
          [⟨4, 0⟩, ⟨2, 0⟩] turn worked early late := by
  have answer : growingEngine.trigger 3 2 growingStart =
      .ok (.compiled [⟨0, 0⟩, ⟨1, 0⟩, ⟨3, 0⟩] [⟨4, 0⟩, ⟨2, 0⟩])
        (stateAfter (growingEngine.trigger 3 2 growingStart)) :=
    eq_ok_of_value (by decide +kernel)
  obtain ⟨turn, worked, early, late, order⟩ :=
    drain_compiles_components_then_classes growingEngine 3 1 growingStart _ _ _ answer
  exact ⟨_, turn, worked, early, late, answer, order⟩

end Engine

end BlueprintBridge
