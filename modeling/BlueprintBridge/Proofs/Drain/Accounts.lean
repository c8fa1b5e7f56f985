import BlueprintBridge.Proofs.Drain.Conservation

/-!
# Accounts of a drain

An account relates what happened since a moment to what is still to come: the rest of the batch and
what waits. Four things touch it: an event aside, a blueprint that is queued, one whose compilation
is called, and a lane that is taken. What these four keep, a whole drain keeps, up to the point
where an exception cuts it short.
-/

namespace BlueprintBridge

set_option autoImplicit false

open Workshop

/-- Between two batches a drain takes a lane, or asks for the collection. -/
inductive Underway.Move : Underway → Underway → Prop where
  | step {before after : Underway} (step : Underway.Step before after) : Move before after
  | taken (lane : Lane) (w : Workshop) : Move ⟨[], w⟩ ⟨w.lane lane, w.emptied lane⟩
  | collecting (keep : ObjectFlags) (fullPurge : Bool) (w : Workshop) :
      Move ⟨[], w⟩ ⟨[], w.record (.collectCalled keep fullPurge)⟩

abbrev Underway.Moves : Underway → Underway → Prop := Relation.ReflTransGen Underway.Move

open Underway

theorem Underway.Moves.of_steps {before after : Underway} (steps : Steps before after) :
    Moves before after := by
  induction steps with
  | refl => exact .refl
  | tail _ step ih => exact ih.tail (.step step)

theorem Underway.Moves.of_interlude (batch : List BlueprintRef) {w next : Workshop}
    (acts : Interlude w next) : Moves ⟨batch, w⟩ ⟨batch, next⟩ :=
  Moves.of_steps (Steps.of_interlude batch acts)

theorem Underway.Moves.of_taken (lane : Lane) {w : Workshop} {after : Underway}
    (steps : Steps ⟨w.lane lane, w.emptied lane⟩ after) : Moves ⟨[], w⟩ after :=
  .head (.taken lane w) (Moves.of_steps steps)

/-- A drain that a call of the engine threw out of, with the rest of the batch still ahead. -/
inductive Underway.Thrown (before : Underway) : List BlueprintRef → Workshop → Prop where
  | compilation {middle next : Workshop} {rest : List BlueprintRef} (thrower : BlueprintRef)
      (options : CompileOptions) (moves : Moves before ⟨thrower :: rest, middle⟩)
      (acts : Interlude (middle.record (.compileCalled thrower options)) next) :
      Thrown before rest next
  | collection {middle next : Workshop} (keep : ObjectFlags) (fullPurge : Bool)
      (moves : Moves before ⟨[], middle⟩)
      (acts : Interlude (middle.record (.collectCalled keep fullPurge)) next) :
      Thrown before [] next

theorem Underway.Thrown.moves {before : Underway} {rest : List BlueprintRef} {next : Workshop}
    (thrown : Thrown before rest next) : Moves before ⟨rest, next⟩ := by
  cases thrown with
  | compilation thrower options moves acts =>
      exact (moves.tail (.step (.called thrower options _ _))).trans (Moves.of_interlude _ acts)
  | collection keep fullPurge moves acts =>
      exact (moves.tail (.collecting keep fullPurge _)).trans (Moves.of_interlude _ acts)

theorem Underway.Thrown.after {before middle : Underway} {rest : List BlueprintRef}
    {next : Workshop} (thrown : Thrown middle rest next) (earlier : Moves before middle) :
    Thrown before rest next := by
  cases thrown with
  | compilation thrower options moves acts =>
      exact .compilation thrower options (earlier.trans moves) acts
  | collection keep fullPurge moves acts =>
      exact .collection keep fullPurge (earlier.trans moves) acts

namespace Engine

variable {engine : Engine} {fuel depth : Nat} {w next turn : Workshop} {interruption : Interruption}

theorem routine_interrupted {α : Type} {routine : Routine α}
    (running : w.recompiler.compiling = true)
    (run : routine.run (engine.trigger fuel depth) w = .error interruption next) :
    Interlude w next := by
  have acts := engine.routine_interlude routine fuel depth w running
  rw [run] at acts
  exact acts

theorem compile_interrupted {blueprint : BlueprintRef} {options : CompileOptions}
    (running : w.recompiler.compiling = true)
    (run : (engine.site (engine.trigger fuel depth)).compile blueprint options w =
      .error interruption next) :
    Interlude (w.record (.compileCalled blueprint options)) next := by
  simp only [site] at run
  split at run
  · cases run
  · next thrown =>
      cases run
      exact routine_interrupted (by exact running) thrown

theorem collect_interrupted {keep : ObjectFlags} {fullPurge : Bool}
    (running : w.recompiler.compiling = true)
    (run : (engine.site (engine.trigger fuel depth)).collect keep fullPurge w =
      .error interruption next) :
    Interlude (w.record (.collectCalled keep fullPurge)) next := by
  simp only [site] at run
  split at run
  · cases run
  · next thrown =>
      cases run
      exact routine_interrupted (by exact running) thrown

theorem compile_batch_thrown {lane : Lane} {options : CompileOptions}
    {batch : List BlueprintRef} (running : w.recompiler.compiling = true)
    (run : (engine.site (engine.trigger fuel depth)).compileBatch lane options batch w =
      .error interruption next) :
    ∃ rest, Thrown ⟨batch, w⟩ rest next := by
  induction batch generalizing w with
  | nil => cases run
  | cons blueprint rest ih =>
      simp only [Recompiler.Site.compileBatch] at run
      rcases Action.bind_eq_error.mp run with thrown | ⟨log, _, returned, run⟩
      · exact ⟨rest, .compilation blueprint options .refl (compile_interrupted running thrown)⟩
      · obtain ⟨middle, acts, rfl⟩ := compile_returned running returned
        have called : Steps ⟨blueprint :: rest, w⟩
            ⟨rest, w.record (.compileCalled blueprint options)⟩ :=
          .single (.called blueprint options rest w)
        have counted : Steps ⟨rest, middle⟩
            ⟨rest, (middle.record (.compileReturned blueprint log)).counted log.hasErrors⟩ :=
          .single (.returned blueprint log rest middle)
        have before : Steps ⟨blueprint :: rest, w⟩ _ :=
          (called.trans (Steps.of_interlude rest acts)).trans counted
        obtain ⟨later, thrown⟩ := ih ((Steps.compiling before).trans running) run
        exact ⟨later, thrown.after (Moves.of_steps before)⟩

theorem compile_lane_thrown {lane : Lane} (running : w.recompiler.compiling = true)
    (run : (engine.site (engine.trigger fuel depth)).compileLane lane w =
      .error interruption next) :
    ∃ rest, Thrown ⟨[], w⟩ rest next := by
  simp only [Recompiler.Site.compileLane] at run
  rcases Action.bind_eq_error.mp run with taken | ⟨_, _, taken, run⟩
  · cases taken
  cases taken
  rcases Action.bind_eq_error.mp run with read | ⟨_, _, read, run⟩
  · cases read
  cases read
  rcases Action.bind_eq_error.mp run with thrown | ⟨_, _, _, run⟩
  · obtain ⟨rest, thrown⟩ := compile_batch_thrown (by exact running) thrown
    exact ⟨rest, thrown.after (.single (.taken lane w))⟩
  · cases run

theorem ComponentPhase.moves {components : List BlueprintRef}
    (phase : ComponentPhase w components turn) : Moves ⟨[], w⟩ ⟨[], turn⟩ := by
  induction phase with
  | @ended w none =>
      have taken := Move.taken .components w
      rw [none] at taken
      exact .single taken
  | batch _ steps _ ih => exact (Moves.of_taken .components steps).trans ih

theorem drain_components_thrown {bound : Nat} {message : String}
    (running : w.recompiler.compiling = true)
    (run : (engine.site (engine.trigger fuel depth)).drainComponents bound w =
      .error (.unwound message) next) :
    ∃ rest, Thrown ⟨[], w⟩ rest next := by
  induction bound generalizing w with
  | zero => cases run
  | succ bound ih =>
      simp only [Recompiler.Site.drainComponents] at run
      rcases Action.bind_eq_error.mp run with thrown | ⟨batch, middle, first, run⟩
      · exact compile_lane_thrown running thrown
      obtain ⟨rfl, steps⟩ := compile_lane_steps running first
      split at run
      · cases run
      · rcases Action.bind_eq_error.mp run with thrown | ⟨_, _, _, run⟩
        · obtain ⟨rest, thrown⟩ := ih (steps.compiling.trans running) thrown
          exact ⟨rest, thrown.after (Moves.of_taken .components steps)⟩
        · cases run

theorem drain_thrown {bound : Nat} {message : String} (running : w.recompiler.compiling = true)
    (run : (engine.site (engine.trigger fuel depth)).drain bound w =
      .error (.unwound message) next) :
    ∃ rest, Thrown ⟨[], w⟩ rest next := by
  simp only [Recompiler.Site.drain] at run
  rcases Action.bind_eq_error.mp run with thrown | ⟨components, turn, first, run⟩
  · exact drain_components_thrown running thrown
  have phase := drain_components_phase running first
  have turnRunning := phase.compiling.trans running
  rcases Action.bind_eq_error.mp run with thrown | ⟨classes, worked, second, run⟩
  · obtain ⟨rest, thrown⟩ := compile_lane_thrown turnRunning thrown
    exact ⟨rest, thrown.after phase.moves⟩
  obtain ⟨rfl, steps⟩ := compile_lane_steps turnRunning second
  have worked := phase.moves.trans (Moves.of_taken .classes steps)
  rcases Action.bind_eq_error.mp run with read | ⟨_, _, read, run⟩
  · cases read
  cases read
  rcases Action.bind_eq_error.mp run with thrown | ⟨_, _, _, run⟩
  · have acts := collect_interrupted (steps.compiling.trans turnRunning) thrown
    exact ⟨[], .collection _ _ worked acts⟩
  -- Nothing throws after the collection.
  · rcases Action.bind_eq_error.mp run with counted | ⟨_, _, counted, run⟩
    · cases counted
    cases counted
    rcases Action.bind_eq_error.mp run with written | ⟨_, _, _, run⟩
    · cases written
    · cases run

theorem trigger_unwound {message : String}
    (run : engine.trigger fuel depth w = .error (.unwound message) next) :
    ∃ rest last, w.recompiler.compiling = false ∧ w.loads.isLoadingAny = false ∧
      w.recompiler.backlog.isEmpty = false ∧ Thrown ⟨[], w.entered⟩ rest last ∧
      next = (last.mark false).record .cutShort := by
  cases depth with
  | zero => cases run
  | succ depth =>
      by_cases running : w.recompiler.compiling = true
      · rw [trigger, engine.trigger_with_running _ fuel running] at run
        cases run
      have idle : w.recompiler.compiling = false := (Bool.not_eq_true _).mp running
      rw [trigger, trigger_with_idle _ idle] at run
      split at run
      · cases run
      · next attempt =>
          cases run
          simp only [Recompiler.Site.attempt] at attempt
          split at attempt
          · cases attempt
          · next loaded =>
              split at attempt
              · cases attempt
              · next some =>
                  obtain ⟨rest, thrown⟩ := drain_thrown (by rfl) attempt
                  exact ⟨rest, _, idle, (Bool.not_eq_true _).mp loaded,
                    (Bool.not_eq_true _).mp some, thrown, rfl⟩

end Engine

structure Steady (account : List Event → List BlueprintRef → Backlog → Prop) : Prop where
  /-- An event that neither queues a blueprint nor has one compiled. The collection is called
  between batches only. -/
  aside : ∀ {events batch backlog} (event : Event), event.isAside = true →
    event.call? = none ∨ batch = [] → account events batch backlog →
      account (events ++ [event]) batch backlog
  queued : ∀ {events batch backlog} (lane : Lane) (blueprint : BlueprintRef),
    account events batch backlog →
      account (events ++ [.queued lane blueprint (backlog.find? blueprint).isNone]) batch
        (backlog.enqueue lane blueprint).2
  called : ∀ {events batch backlog} (blueprint : BlueprintRef) (options : CompileOptions),
    account events (blueprint :: batch) backlog →
      account (events ++ [.compileCalled blueprint options]) batch backlog
  taken : ∀ {events backlog} (lane : Lane), account events [] backlog →
    account events (backlog.lane lane).entries (backlog.take lane).2

namespace Underway

def Keeps (past : List Event) (account : List Event → List BlueprintRef → Backlog → Prop)
    (u : Underway) : Prop :=
  ∃ events, u.workshop.journal = past ++ events ∧
    account events u.batch u.workshop.recompiler.backlog

variable {past : List Event} {account : List Event → List BlueprintRef → Backlog → Prop}
  {batch : List BlueprintRef} {w next : Workshop} {before after : Underway}

theorem Keeps.aside (keeps : Keeps past account ⟨batch, w⟩) (steady : Steady account)
    (event : Event) (journal : next.journal = w.journal ++ [event])
    (backlog : next.recompiler.backlog = w.recompiler.backlog) (aside : event.isAside = true)
    (quiet : event.call? = none ∨ batch = []) : Keeps past account ⟨batch, next⟩ := by
  obtain ⟨events, split, held⟩ := keeps
  refine ⟨events ++ [event], ?_, ?_⟩
  · rw [journal, split, List.append_assoc]
  · change account (events ++ [event]) batch next.recompiler.backlog
    rw [backlog]
    exact steady.aside event aside quiet held

theorem Keeps.act (keeps : Keeps past account ⟨batch, w⟩) (steady : Steady account)
    (act : Act w next) : Keeps past account ⟨batch, next⟩ := by
  cases act with
  | queue lane blueprint =>
      obtain ⟨events, split, held⟩ := keeps
      refine ⟨events ++ [.queued lane blueprint (w.recompiler.backlog.find? blueprint).isNone], ?_,
        steady.queued lane blueprint held⟩
      change w.journal ++ _ = _
      rw [split, List.append_assoc]
  | beginLoad assembly => exact keeps.aside steady _ rfl rfl rfl (.inl rfl)
  | finishLoad assembly => exact keeps.aside steady _ rfl rfl rfl (.inl rfl)
  | refused =>
      have triggered : Keeps past account ⟨batch, w.record .triggered⟩ :=
        keeps.aside steady .triggered rfl rfl rfl (.inl rfl)
      exact triggered.aside steady (.answered .reentrant) rfl rfl rfl (.inl rfl)

theorem Keeps.move (keeps : before.Keeps past account) (steady : Steady account)
    (move : Move before after) : after.Keeps past account := by
  cases move with
  | step step =>
      cases step with
      | act batch act => exact keeps.act steady act
      | called blueprint options batch w =>
          obtain ⟨events, split, held⟩ := keeps
          refine ⟨events ++ [.compileCalled blueprint options], ?_,
            steady.called blueprint options held⟩
          change w.journal ++ _ = _
          rw [split, List.append_assoc]
      | returned blueprint log batch w => exact keeps.aside steady _ rfl rfl rfl (.inl rfl)
  | taken lane w =>
      obtain ⟨events, split, held⟩ := keeps
      exact ⟨events, split, steady.taken lane held⟩
  | collecting keep fullPurge w => exact keeps.aside steady _ rfl rfl rfl (.inr rfl)

theorem Keeps.moves (keeps : before.Keeps past account) (steady : Steady account)
    (moves : Moves before after) : after.Keeps past account := by
  induction moves with
  | refl => exact keeps
  | tail _ move ih => exact ih.move steady move

theorem Keeps.entered {start : Workshop} (steady : Steady account)
    (begun : account [] [] start.recompiler.backlog) :
    Keeps start.journal account ⟨[], start.entered⟩ := by
  have started : Keeps start.journal account ⟨[], start⟩ :=
    ⟨[], (List.append_nil _).symm, begun⟩
  exact started.aside steady .triggered rfl rfl rfl (.inl rfl)

end Underway

end BlueprintBridge
