import BlueprintBridge.Proofs.Drain.Order

/-!
# No blueprint is lost

A blueprint is owed a compilation from the moment it is queued while it waits nowhere. The debts
made so far are the compilations called so far, the blueprints that wait, and, inside a drain, the
rest of the batch. Every step of a drain keeps that sum; between drains nothing is in a batch.
-/

namespace BlueprintBridge

set_option autoImplicit false

open Workshop

def Event.queuesAnew (blueprint : BlueprintRef) : Event → Bool
  | queued _ entry fresh => fresh && entry = blueprint
  | _ => false

def Event.isAside : Event → Bool
  | queued _ _ _ => false
  | compileCalled _ _ => false
  | _ => true

/-- How often a blueprint was queued while it waited in neither lane. -/
def queuedAnew (blueprint : BlueprintRef) (events : List Event) : Nat :=
  events.countP (Event.queuesAnew blueprint)

/-- Every debt is compiled, in the rest of the batch, or waiting. -/
structure Underway.Balanced (u : Underway) : Prop where
  exclusive : u.workshop.recompiler.backlog.Exclusive
  balance : ∀ blueprint, queuedAnew blueprint u.workshop.journal =
    (engineCalls u.workshop.journal).count (.compile blueprint) + u.batch.count blueprint +
      u.workshop.recompiler.backlog.waiting blueprint

theorem Event.compiles_nothing {event : Event} {blueprint : BlueprintRef}
    (aside : event.isAside = true) : event.call?.toList.count (.compile blueprint) = 0 := by
  cases event <;> first | rfl | cases aside

theorem queued_anew_snoc (blueprint : BlueprintRef) (events : List Event) (event : Event) :
    queuedAnew blueprint (events ++ [event]) =
      queuedAnew blueprint events + if event.queuesAnew blueprint then 1 else 0 := by
  simp [queuedAnew, List.countP_append, List.countP_singleton]

namespace Underway

variable {batch : List BlueprintRef} {w next : Workshop}

theorem Balanced.recorded (balanced : Balanced ⟨batch, w⟩) (event : Event)
    (journal : next.journal = w.journal ++ [event])
    (backlog : next.recompiler.backlog = w.recompiler.backlog) (aside : event.isAside = true) :
    Balanced ⟨batch, next⟩ where
  exclusive := by
    change next.recompiler.backlog.Exclusive
    rw [backlog]
    exact balanced.exclusive
  balance blueprint := by
    have notQueued : event.queuesAnew blueprint = false := by
      cases event <;> first | rfl | cases aside
    change queuedAnew blueprint next.journal =
      (engineCalls next.journal).count (.compile blueprint) + batch.count blueprint +
        next.recompiler.backlog.waiting blueprint
    rw [journal, backlog, queued_anew_snoc, engine_calls_snoc, List.count_append,
      Event.compiles_nothing aside, notQueued]
    exact balanced.balance blueprint

theorem Balanced.queued (balanced : Balanced ⟨batch, w⟩) (lane : Lane) (blueprint : BlueprintRef) :
    Balanced ⟨batch, (w.queue lane blueprint).2⟩ where
  exclusive := balanced.exclusive.enqueue lane blueprint
  balance entry := by
    have before := balanced.balance entry
    have waiting := balanced.exclusive.waiting_eq entry
    have after := balanced.exclusive.waiting_enqueue lane blueprint entry
    change queuedAnew entry (w.journal ++ [.queued lane blueprint
        (w.recompiler.backlog.find? blueprint).isNone]) =
      (engineCalls (w.journal ++ [.queued lane blueprint _])).count (.compile entry) +
        batch.count entry + (w.recompiler.backlog.enqueue lane blueprint).2.waiting entry
    rw [after, queued_anew_snoc, engine_calls_snoc]
    -- The debt grows by one exactly when the blueprint did not wait before.
    by_cases same : blueprint = entry
    · subst same
      cases found : w.recompiler.backlog.find? blueprint <;>
        simp_all [Event.queuesAnew, Event.call?]
    · have other : ¬ entry = blueprint := fun equal => same equal.symm
      simpa [Event.queuesAnew, Event.call?, same, other] using before

theorem Balanced.act (balanced : Balanced ⟨batch, w⟩) (act : Act w next) :
    Balanced ⟨batch, next⟩ := by
  cases act with
  | queue lane blueprint => exact balanced.queued lane blueprint
  | beginLoad assembly => exact balanced.recorded _ rfl rfl rfl
  | finishLoad assembly => exact balanced.recorded _ rfl rfl rfl
  | refused =>
      have triggered : Balanced ⟨batch, w.record .triggered⟩ :=
        balanced.recorded .triggered rfl rfl rfl
      exact triggered.recorded (.answered .reentrant) rfl rfl rfl

theorem Balanced.step {before after : Underway} (balanced : before.Balanced)
    (step : Step before after) : after.Balanced := by
  cases step with
  | act batch act => exact balanced.act act
  | called blueprint options batch w =>
      refine ⟨balanced.exclusive, fun entry => ?_⟩
      have before := balanced.balance entry
      change queuedAnew entry (w.journal ++ [.compileCalled blueprint options]) =
        (engineCalls (w.journal ++ [.compileCalled blueprint options])).count (.compile entry) +
          batch.count entry + w.recompiler.backlog.waiting entry
      rw [queued_anew_snoc, engine_calls_snoc]
      by_cases same : blueprint = entry
      · subst same
        simp [Event.queuesAnew, Event.call?, List.count_append] at before ⊢
        omega
      · simpa [Event.queuesAnew, Event.call?, List.count_append, List.count_cons, same] using before
  | returned blueprint log batch w => exact balanced.recorded _ rfl rfl rfl

theorem Balanced.steps {before after : Underway} (balanced : before.Balanced)
    (steps : Steps before after) : after.Balanced := by
  induction steps with
  | refl => exact balanced
  | tail _ step ih => exact ih.step step

theorem Balanced.taken (balanced : Balanced ⟨[], w⟩) (lane : Lane) :
    Balanced ⟨w.lane lane, w.emptied lane⟩ where
  exclusive := balanced.exclusive.take lane
  balance blueprint := by
    have before := balanced.balance blueprint
    have moved := Backlog.waiting_take w.recompiler.backlog lane blueprint
    change queuedAnew blueprint w.journal =
      (engineCalls w.journal).count (.compile blueprint) + (w.lane lane).count blueprint +
        (w.recompiler.backlog.take lane).2.waiting blueprint
    change (w.lane lane).count blueprint + _ = _ at moved
    simp only [List.count_nil] at before
    omega

end Underway

open Underway

namespace Engine

variable {engine : Engine} {fuel depth : Nat} {w next turn : Workshop}

theorem component_phase_balanced {components : List BlueprintRef}
    (phase : ComponentPhase w components turn) (balanced : Balanced ⟨[], w⟩) :
    Balanced ⟨[], turn⟩ := by
  induction phase with
  | @ended w none =>
      have taken := balanced.taken .components
      rw [none] at taken
      exact taken
  | batch _ steps _ ih => exact ih ((balanced.taken .components).steps steps)

theorem class_phase_balanced {finish : Workshop} (outcome : Outcome)
    (phase : ClassPhase turn finish) (balanced : Balanced ⟨[], turn⟩) :
    Balanced ⟨[], finish.left outcome⟩ := by
  cases phase with
  | @collected worked middle keep fullPurge steps acts =>
      have compiled : Balanced ⟨[], worked⟩ := (balanced.taken .classes).steps steps
      have called : Balanced ⟨[], worked.record (.collectCalled keep fullPurge)⟩ :=
        compiled.recorded _ rfl rfl rfl
      have acted := called.steps (Steps.of_interlude [] acts)
      have returned : Balanced ⟨[], middle.record .collectReturned⟩ :=
        acted.recorded .collectReturned rfl rfl rfl
      exact returned.recorded (.answered outcome) rfl rfl rfl

theorem Answers.balanced {outcome : Outcome} (answers : engine.Answers fuel depth w outcome next)
    (balanced : Balanced ⟨[], w⟩) : Balanced ⟨[], next⟩ := by
  have triggered : Balanced ⟨[], w.record .triggered⟩ :=
    balanced.recorded .triggered rfl rfl rfl
  cases answers with
  | reentrant =>
      exact triggered.recorded (.answered .reentrant) rfl rfl rfl
  | deferred =>
      exact triggered.recorded (.answered .deferred) rfl rfl rfl
  | empty =>
      exact triggered.recorded (.answered .empty) rfl rfl rfl
  | @compiled components turn worked finish idle loaded some drain =>
      obtain ⟨phase, classPhase⟩ := drain.phases rfl
      have entered : Balanced ⟨[], w.entered⟩ := balanced.recorded .triggered rfl rfl rfl
      exact class_phase_balanced _ classPhase (component_phase_balanced phase entered)

theorem Answers.journal_prefix {outcome : Outcome}
    (answers : engine.Answers fuel depth w outcome next) : w.journal <+: next.journal := by
  cases answers with
  | reentrant | deferred | empty => exact ⟨[_, _], (List.append_assoc _ [_] [_]).symm⟩
  | @compiled components turn worked finish idle loaded some drain =>
      obtain ⟨phase, classPhase⟩ := drain.phases rfl
      obtain ⟨⟨early, earlyJournal, _⟩, _⟩ := component_phase_order phase (Since.refl w.entered)
      obtain ⟨late, lateJournal, _⟩ := class_phase_order (.compiled components _) classPhase
      have begun : w.journal <+: w.entered.journal := List.prefix_append _ _
      have turned : w.entered.journal <+: turn.journal := ⟨early, earlyJournal.symm⟩
      exact (begun.trans turned).trans ⟨late, lateJournal.symm⟩

theorem cut_short_of_unwound {message : String}
    (run : engine.trigger fuel depth w = .error (.unwound message) next) :
    .cutShort ∈ next.journal := by
  cases depth with
  | zero => cases run
  | succ depth =>
      simp only [trigger, triggerWith] at run
      split at run
      · cases run
      · cases run
        exact List.mem_append_right _ (List.mem_singleton_self _)

theorem trigger_answered {outcome : Outcome} (run : engine.trigger fuel depth w = .ok outcome next) :
    ∃ below, engine.Answers fuel below w outcome next := by
  cases depth with
  | zero => cases run
  | succ depth => exact ⟨depth, trigger_answers run⟩

/-- As long as no trigger was cut short, the balance holds between all moves from outside. -/
theorem Reachable.balanced {settings : Settings} (reachable : engine.Reachable settings w)
    (smooth : .cutShort ∉ w.journal) : Balanced ⟨[], w⟩ := by
  induction reachable with
  | start => exact ⟨Backlog.exclusive_initial, fun _ => rfl⟩
  | @queue w earlier lane blueprint ih =>
      have before : .cutShort ∉ w.journal := fun cut => smooth (List.mem_append_left _ cut)
      exact (ih before).queued lane blueprint
  | @beginLoad w earlier assembly ih =>
      have before : .cutShort ∉ w.journal := fun cut => smooth (List.mem_append_left _ cut)
      exact (ih before).act (.beginLoad assembly w)
  | @finishLoad w earlier assembly ih =>
      have before : .cutShort ∉ w.journal := fun cut => smooth (List.mem_append_left _ cut)
      exact (ih before).act (.finishLoad assembly w)
  | answered earlier run ih =>
      obtain ⟨_, answers⟩ := trigger_answered run
      have before := fun cut => smooth (answers.journal_prefix.subset cut)
      exact answers.balanced (ih before)
  -- An unwound trigger would have left its mark in the journal.
  | unwound earlier run ih => exact absurd (cut_short_of_unwound run) smooth

/-- Between two moves from outside, as long as no trigger was cut short, a blueprint was queued
anew once for each time it was compiled, and once more if it waits now. -/
theorem queued_anew_eq_compiled_add_waiting (engine : Engine) (settings : Settings) (w : Workshop)
    (reachable : engine.Reachable settings w) (smooth : .cutShort ∉ w.journal)
    (blueprint : BlueprintRef) :
    queuedAnew blueprint w.journal = (engineCalls w.journal).count (.compile blueprint) +
      if (w.recompiler.backlog.find? blueprint).isSome then 1 else 0 := by
  have balanced := reachable.balanced smooth
  have balance := balanced.balance blueprint
  rw [balanced.exclusive.waiting_eq] at balance
  exact balance

def growingLoad : Workshop :=
  (((((({} : Workshop).queue .classes ⟨0, 0⟩).2.queue .components ⟨0, 0⟩).2.beginLoad
    "Game").queue .classes ⟨3, 0⟩).2)

def growingLoaded : Workshop :=
  ((stateAfter (growingEngine.trigger 3 2 growingLoad)).finishLoad "Game").2

/-- After the drain whose collection queues a component too late for it. -/
theorem growing_run_balanced :
    ∃ w : Workshop, growingEngine.Reachable {} w ∧ .cutShort ∉ w.journal ∧
      engineCalls w.journal = [.compile ⟨0, 0⟩, .compile ⟨1, 0⟩, .compile ⟨3, 0⟩,
        .compile ⟨2, 0⟩, .collect] ∧
      w.lane .components = [⟨5, 0⟩] ∧
      ∀ blueprint, queuedAnew blueprint w.journal =
        (engineCalls w.journal).count (.compile blueprint) +
          if (w.recompiler.backlog.find? blueprint).isSome then 1 else 0 := by
  have held : growingEngine.trigger 3 2 growingLoad =
      .ok .deferred (stateAfter (growingEngine.trigger 3 2 growingLoad)) :=
    eq_ok_of_value (by decide +kernel)
  have drain : growingEngine.trigger 3 2 growingLoaded =
      .ok (.compiled [⟨0, 0⟩, ⟨1, 0⟩, ⟨3, 0⟩] [⟨2, 0⟩])
        (stateAfter (growingEngine.trigger 3 2 growingLoaded)) :=
    eq_ok_of_value (by decide +kernel)
  have begun : growingEngine.Reachable {} {} := .start
  have queued := begun.queue .classes ⟨0, 0⟩
  have moved := queued.queue .components ⟨0, 0⟩
  have waiting := (moved.beginLoad "Game").queue .classes ⟨3, 0⟩
  have reachable := ((waiting.answered held).finishLoad "Game").answered drain
  have smooth : .cutShort ∉ (stateAfter (growingEngine.trigger 3 2 growingLoaded)).journal := by
    decide +kernel
  exact ⟨_, reachable, smooth, by decide +kernel, by decide +kernel,
    queued_anew_eq_compiled_add_waiting growingEngine {} _ reachable smooth⟩

end Engine

end BlueprintBridge
