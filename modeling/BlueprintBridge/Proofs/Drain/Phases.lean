import BlueprintBridge.Proofs.Drain.Interlude

/-!
# The phases of a drain

A drain takes a batch and works it off: it calls the engine for the next blueprint, the routine of
that call acts, and the call comes back. `Underway.Step` lists these steps with the part of the
batch that is still ahead. A drain that comes to its end is batches of components up to an empty
one, one batch of classes, and one collection.
-/

namespace BlueprintBridge

set_option autoImplicit false

namespace Workshop

def lane (w : Workshop) (lane : Lane) : List BlueprintRef := (w.recompiler.backlog.lane lane).entries

def emptied (lane : Lane) (w : Workshop) : Workshop :=
  { w with recompiler := (w.recompiler.takeLane lane).2 }

def counted (failed : Bool) (w : Workshop) : Workshop :=
  { w with recompiler := w.recompiler.countCompilation failed }

def drained (w : Workshop) : Workshop :=
  { w with recompiler := w.recompiler.count fun s =>
      { s with cycles := s.cycles + 1, collections := s.collections + 1 } }

theorem lane_emptied (w : Workshop) (taken other : Lane) :
    (w.emptied taken).lane other = if other = taken then [] else w.lane other := by
  cases taken <;> cases other <;> rfl

end Workshop

/-- A drain in the middle of a batch: the blueprints still to be compiled, and the workshop. -/
structure Underway where
  batch : List BlueprintRef
  workshop : Workshop

namespace Underway

open Workshop

inductive Step : Underway → Underway → Prop where
  | act {w next : Workshop} (batch : List BlueprintRef) (act : Act w next) :
      Step ⟨batch, w⟩ ⟨batch, next⟩
  | called (blueprint : BlueprintRef) (options : CompileOptions) (batch : List BlueprintRef)
      (w : Workshop) :
      Step ⟨blueprint :: batch, w⟩ ⟨batch, w.record (.compileCalled blueprint options)⟩
  | returned (blueprint : BlueprintRef) (log : MessageLog) (batch : List BlueprintRef)
      (w : Workshop) :
      Step ⟨batch, w⟩ ⟨batch, (w.record (.compileReturned blueprint log)).counted log.hasErrors⟩

abbrev Steps : Underway → Underway → Prop := Relation.ReflTransGen Step

theorem Steps.of_interlude (batch : List BlueprintRef) {w next : Workshop}
    (acts : Interlude w next) : Steps ⟨batch, w⟩ ⟨batch, next⟩ := by
  induction acts with
  | refl => exact .refl
  | tail _ act ih => exact ih.tail (.act batch act)

theorem Step.compiling {before after : Underway} (step : Step before after) :
    after.workshop.recompiler.compiling = before.workshop.recompiler.compiling := by
  cases step with
  | act _ act => exact act.compiling
  | called => rfl
  | returned => rfl

theorem Steps.compiling {before after : Underway} (steps : Steps before after) :
    after.workshop.recompiler.compiling = before.workshop.recompiler.compiling := by
  induction steps with
  | refl => rfl
  | tail _ step ih => exact step.compiling.trans ih

end Underway

namespace Engine

open Workshop

variable {engine : Engine} {fuel depth : Nat} {w next : Workshop}

theorem compile_returned {blueprint : BlueprintRef} {options : CompileOptions} {log : MessageLog}
    (running : w.recompiler.compiling = true)
    (run : (engine.site (engine.trigger fuel depth)).compile blueprint options w = .ok log next) :
    ∃ middle, Interlude (w.record (.compileCalled blueprint options)) middle ∧
      next = middle.record (.compileReturned blueprint log) := by
  simp only [site] at run
  split at run
  · next returned =>
      cases run
      exact ⟨_, engine.routine_returned (by exact running) returned, rfl⟩
  · cases run

theorem collect_returned {keep : ObjectFlags} {fullPurge : Bool}
    (running : w.recompiler.compiling = true)
    (run : (engine.site (engine.trigger fuel depth)).collect keep fullPurge w = .ok () next) :
    ∃ middle, Interlude (w.record (.collectCalled keep fullPurge)) middle ∧
      next = middle.record .collectReturned := by
  simp only [site] at run
  split at run
  · next returned =>
      cases run
      exact ⟨_, engine.routine_returned (by exact running) returned, rfl⟩
  · cases run

theorem compile_batch_steps {lane : Lane} {options : CompileOptions} {batch : List BlueprintRef}
    (running : w.recompiler.compiling = true)
    (run : (engine.site (engine.trigger fuel depth)).compileBatch lane options batch w = .ok () next) :
    Underway.Steps ⟨batch, w⟩ ⟨[], next⟩ := by
  induction batch generalizing w with
  | nil =>
      cases run
      exact .refl
  | cons blueprint rest ih =>
      simp only [Recompiler.Site.compileBatch] at run
      obtain ⟨log, compiled, first, run⟩ := Action.bind_eq_ok.mp run
      obtain ⟨middle, acts, rfl⟩ := compile_returned running first
      obtain ⟨_, counted, count, run⟩ := Action.bind_eq_ok.mp run
      cases count
      obtain ⟨_, written, write, run⟩ := Action.bind_eq_ok.mp run
      cases write
      have stillRunning : middle.recompiler.compiling = true := acts.compiling.trans running
      calc
        Underway.Steps ⟨blueprint :: rest, w⟩ ⟨rest, w.record (.compileCalled blueprint options)⟩ :=
          .single (.called blueprint options rest w)
        Underway.Steps _ ⟨rest, middle⟩ := Underway.Steps.of_interlude rest acts
        Underway.Steps _ ⟨rest, (middle.record (.compileReturned blueprint log)).counted log.hasErrors⟩ :=
          .single (.returned blueprint log rest middle)
        Underway.Steps _ ⟨[], next⟩ := ih stillRunning run

/-- Compiling a lane takes what waits in it, in order, and works it off. -/
theorem compile_lane_steps {lane : Lane} {batch : List BlueprintRef}
    (running : w.recompiler.compiling = true)
    (run : (engine.site (engine.trigger fuel depth)).compileLane lane w = .ok batch next) :
    batch = w.lane lane ∧ Underway.Steps ⟨batch, w.emptied lane⟩ ⟨[], next⟩ := by
  simp only [Recompiler.Site.compileLane] at run
  obtain ⟨taken, emptied, take, run⟩ := Action.bind_eq_ok.mp run
  cases take
  obtain ⟨_, _, read, run⟩ := Action.bind_eq_ok.mp run
  cases read
  obtain ⟨_, _, work, run⟩ := Action.bind_eq_ok.mp run
  cases run
  exact ⟨rfl, compile_batch_steps running work⟩

theorem compile_lane_eq (nested : Action Workshop Outcome) (lane : Lane) (w : Workshop) :
    (engine.site nested).compileLane lane w =
      ((engine.site nested).compileBatch lane w.recompiler.settings.compileOptions (w.lane lane) >>=
        fun _ => pure (w.lane lane)) (w.emptied lane) := rfl

theorem compile_lane_empty {nested : Action Workshop Outcome} {lane : Lane}
    (none : w.lane lane = []) :
    (engine.site nested).compileLane lane w = .ok [] (w.emptied lane) := by
  rw [compile_lane_eq, none]
  rfl

/-- Batches of components one after the other, from `w` on, until none waits any more. -/
inductive ComponentPhase : Workshop → List BlueprintRef → Workshop → Prop where
  | ended {w : Workshop} (none : w.lane .components = []) :
      ComponentPhase w [] (w.emptied .components)
  | batch {w middle turn : Workshop} {more : List BlueprintRef} (some : w.lane .components ≠ [])
      (steps : Underway.Steps ⟨w.lane .components, w.emptied .components⟩ ⟨[], middle⟩)
      (later : ComponentPhase middle more turn) :
      ComponentPhase w (w.lane .components ++ more) turn

theorem ComponentPhase.compiling {components : List BlueprintRef} {turn : Workshop}
    (phase : ComponentPhase w components turn) :
    turn.recompiler.compiling = w.recompiler.compiling := by
  induction phase with
  | ended => rfl
  | batch _ steps _ ih => exact ih.trans steps.compiling

theorem drain_components_phase {bound : Nat} {components : List BlueprintRef}
    (running : w.recompiler.compiling = true)
    (run : (engine.site (engine.trigger fuel depth)).drainComponents bound w = .ok components next) :
    ComponentPhase w components next := by
  induction bound generalizing w components with
  | zero => cases run
  | succ bound ih =>
      simp only [Recompiler.Site.drainComponents] at run
      obtain ⟨batch, middle, first, run⟩ := Action.bind_eq_ok.mp run
      obtain ⟨rfl, steps⟩ := compile_lane_steps running first
      -- An empty batch ends the phase, and compiling it leaves the state known exactly.
      by_cases none : w.lane .components = []
      · rw [compile_lane_empty none] at first
        injection first with _ same
        subst same
        simp only [none, List.isEmpty_nil, if_true] at run
        cases run
        exact .ended none
      · have some : (w.lane .components).isEmpty = false := by simpa using none
        simp only [some] at run
        obtain ⟨more, _, rest, run⟩ := Action.bind_eq_ok.mp run
        cases run
        exact .batch none steps (ih (steps.compiling.trans running) rest)

variable (engine fuel depth) in
/-- A drain from `w` in its three parts: the components up to the turn, where the classes are
taken, then the classes, then the collection. -/
structure Drain (w : Workshop) (components : List BlueprintRef) (turn worked finish : Workshop) :
    Prop where
  components_run :
    (engine.site (engine.trigger fuel depth)).drainComponents fuel w = .ok components turn
  classes_run :
    (engine.site (engine.trigger fuel depth)).compileLane .classes turn =
      .ok (turn.lane .classes) worked
  collection_run :
    (engine.site (engine.trigger fuel depth)).collect worked.recompiler.settings.keepFlags
      worked.recompiler.settings.fullPurge worked = .ok () finish

inductive ClassPhase : Workshop → Workshop → Prop where
  | collected {turn worked middle : Workshop} (keep : ObjectFlags) (fullPurge : Bool)
      (steps : Underway.Steps ⟨turn.lane .classes, turn.emptied .classes⟩ ⟨[], worked⟩)
      (acts : Interlude (worked.record (.collectCalled keep fullPurge)) middle) :
      ClassPhase turn (middle.record .collectReturned)

theorem Drain.phases {components : List BlueprintRef} {turn worked finish : Workshop}
    (drain : engine.Drain fuel depth w components turn worked finish)
    (running : w.recompiler.compiling = true) :
    ComponentPhase w components turn ∧ ClassPhase turn finish := by
  have phase := drain_components_phase running drain.components_run
  have turnRunning := phase.compiling.trans running
  obtain ⟨_, steps⟩ := compile_lane_steps turnRunning drain.classes_run
  obtain ⟨middle, acts, rfl⟩ :=
    collect_returned (steps.compiling.trans turnRunning) drain.collection_run
  exact ⟨phase, .collected _ _ steps acts⟩

theorem drain_parts {outcome : Outcome} (running : w.recompiler.compiling = true)
    (run : (engine.site (engine.trigger fuel depth)).drain fuel w = .ok outcome next) :
    ∃ components turn worked finish, engine.Drain fuel depth w components turn worked finish ∧
      outcome = .compiled components (turn.lane .classes) ∧ next = finish.drained := by
  simp only [Recompiler.Site.drain] at run
  obtain ⟨components, turn, first, run⟩ := Action.bind_eq_ok.mp run
  obtain ⟨classes, worked, second, run⟩ := Action.bind_eq_ok.mp run
  obtain ⟨_, _, read, run⟩ := Action.bind_eq_ok.mp run
  cases read
  obtain ⟨_, finish, third, run⟩ := Action.bind_eq_ok.mp run
  obtain ⟨_, _, count, run⟩ := Action.bind_eq_ok.mp run
  cases count
  obtain ⟨_, _, write, run⟩ := Action.bind_eq_ok.mp run
  cases write
  cases run
  have stillRunning := (drain_components_phase running first).compiling.trans running
  obtain ⟨rfl, _⟩ := compile_lane_steps stillRunning second
  exact ⟨components, turn, worked, finish, ⟨first, second, third⟩, rfl, rfl⟩

end Engine

end BlueprintBridge
