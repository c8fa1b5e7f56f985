import BlueprintBridge.Proofs.Action
import BlueprintBridge.Proofs.Drain.Workshop
import Mathlib.Logic.Relation

/-!
# Routines inside a drain

While a drain runs, every trigger is refused. So the acts of a routine of the engine are of four
kinds only: queueing a blueprint, beginning a load, finishing one, and a refused trigger. What each
of these keeps, a whole routine keeps, however it ends.
-/

namespace BlueprintBridge

set_option autoImplicit false

namespace Workshop

inductive Act : Workshop → Workshop → Prop where
  | queue (lane : Lane) (blueprint : BlueprintRef) (w : Workshop) : Act w (w.queue lane blueprint).2
  | beginLoad (assembly : String) (w : Workshop) : Act w (w.beginLoad assembly)
  | finishLoad (assembly : String) (w : Workshop) : Act w (w.finishLoad assembly).2
  | refused (w : Workshop) : Act w w.refused

abbrev Interlude : Workshop → Workshop → Prop := Relation.ReflTransGen Act

theorem Act.compiling {w next : Workshop} (act : Act w next) :
    next.recompiler.compiling = w.recompiler.compiling := by
  cases act <;> rfl

theorem Interlude.compiling {w next : Workshop} (acts : Interlude w next) :
    next.recompiler.compiling = w.recompiler.compiling := by
  induction acts with
  | refl => rfl
  | tail _ act ih => exact act.compiling.trans ih

end Workshop

namespace Engine

open Workshop

variable (engine : Engine)

theorem trigger_with_running (nested : Action Workshop Outcome) (fuel : Nat) {w : Workshop}
    (running : w.recompiler.compiling = true) :
    engine.triggerWith nested fuel w = .ok .reentrant w.refused := by
  have marked : ((engine.site nested).recompiler.read (w.record .triggered)).compiling = true :=
    running
  simp only [triggerWith, Recompiler.Site.trigger, marked]
  rfl

theorem trigger_running (fuel depth : Nat) {w : Workshop}
    (running : w.recompiler.compiling = true) :
    engine.trigger fuel depth w = .ok .reentrant w.refused ∨
      engine.trigger fuel depth w = .error .outOfFuel w := by
  cases depth with
  | zero => exact .inr rfl
  | succ depth => exact .inl (engine.trigger_with_running _ fuel running)

/-- A routine run inside a drain is a sequence of acts, also when it is interrupted. -/
theorem routine_interlude {α : Type} (routine : Routine α) (fuel depth : Nat) (w : Workshop)
    (running : w.recompiler.compiling = true) :
    Interlude w (stateAfter (routine.run (engine.trigger fuel depth) w)) := by
  induction routine generalizing w with
  | done answer => exact .refl
  | raise message => exact .refl
  | look next ih => exact ih w w running
  | queue lane blueprint next ih =>
      exact .head (.queue lane blueprint w) (ih _ _ running)
  | beginLoad assembly next ih => exact .head (.beginLoad assembly w) (ih _ running)
  | finishLoad assembly next ih => exact .head (.finishLoad assembly w) (ih _ _ running)
  | trigger next ih =>
      rcases engine.trigger_running fuel depth running with refused | exhausted
      · simp only [Routine.run, refused]
        exact .head (.refused w) (ih _ _ running)
      · simp only [Routine.run, exhausted]
        exact .refl

theorem routine_returned {α : Type} {routine : Routine α} {fuel depth : Nat} {w next : Workshop}
    {answer : α} (running : w.recompiler.compiling = true)
    (run : routine.run (engine.trigger fuel depth) w = .ok answer next) : Interlude w next := by
  have acts := engine.routine_interlude routine fuel depth w running
  rw [run] at acts
  exact acts

end Engine

end BlueprintBridge
