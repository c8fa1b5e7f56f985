import BlueprintBridge.Proofs.Drain.Phases

/-!
# The answers of a trigger

A trigger that comes back gives one of four answers, each in one situation and with one effect:
refused while a drain runs, held back while an assembly is being loaded, empty, or a whole drain.
-/

namespace BlueprintBridge

set_option autoImplicit false

namespace Workshop

def heldBack (w : Workshop) : Workshop :=
  { w.record .triggered with
    recompiler := w.recompiler.count fun s => { s with deferred := s.deferred + 1 } }.record
      (.answered .deferred)

def unmoved (w : Workshop) : Workshop := (w.record .triggered).record (.answered .empty)

def entered (w : Workshop) : Workshop := (w.record .triggered).mark true

def left (outcome : Outcome) (w : Workshop) : Workshop :=
  (w.drained.mark false).record (.answered outcome)

theorem mark_of_compiling {w : Workshop} {running : Bool}
    (same : w.recompiler.compiling = running) : w.mark running = w := by
  subst same
  rfl

end Workshop

namespace Engine

open Workshop

variable (engine : Engine) (fuel depth : Nat)

inductive Answers (w : Workshop) : Outcome → Workshop → Prop where
  | reentrant (running : w.recompiler.compiling = true) : Answers w .reentrant w.refused
  | deferred (idle : w.recompiler.compiling = false) (loading : w.loads.isLoadingAny = true) :
      Answers w .deferred w.heldBack
  | empty (idle : w.recompiler.compiling = false) (loaded : w.loads.isLoadingAny = false)
      (none : w.recompiler.backlog.isEmpty = true) : Answers w .empty w.unmoved
  | compiled {components : List BlueprintRef} {turn worked finish : Workshop}
      (idle : w.recompiler.compiling = false) (loaded : w.loads.isLoadingAny = false)
      (some : w.recompiler.backlog.isEmpty = false)
      (drain : engine.Drain fuel depth w.entered components turn worked finish) :
      Answers w (.compiled components (turn.lane .classes))
        (finish.left (.compiled components (turn.lane .classes)))

variable {engine fuel depth}

/-- Outside of a drain a trigger makes its attempt under the mark, which it takes away again. -/
theorem trigger_with_idle (nested : Action Workshop Outcome) {w : Workshop}
    (idle : w.recompiler.compiling = false) :
    engine.triggerWith nested fuel w =
      match (engine.site nested).attempt fuel w.entered with
      | .ok outcome next => .ok outcome ((next.mark false).record (.answered outcome))
      | .error interruption next => .error interruption ((next.mark false).record .cutShort) := by
  have unmarked : ((engine.site nested).recompiler.read (w.record .triggered)).compiling = false :=
    idle
  simp only [triggerWith, Recompiler.Site.trigger, unmarked, Bool.false_eq_true, if_false,
    Action.ensuring]
  have entered : (engine.site nested).recompiler.update (fun r => { r with compiling := true })
      (w.record .triggered) = w.entered := rfl
  rw [entered]
  cases (engine.site nested).attempt fuel w.entered <;> rfl

theorem trigger_answers {w next : Workshop} {outcome : Outcome}
    (run : engine.trigger fuel (depth + 1) w = .ok outcome next) :
    engine.Answers fuel depth w outcome next := by
  by_cases running : w.recompiler.compiling = true
  · have refused := engine.trigger_with_running (engine.trigger fuel depth) fuel running
    rw [trigger, refused] at run
    cases run
    exact .reentrant running
  · have idle : w.recompiler.compiling = false := by simpa using running
    have unmarked : w.mark false = w := mark_of_compiling idle
    rw [trigger, trigger_with_idle _ idle] at run
    split at run
    · next answer attempted attempt =>
        cases run
        simp only [Recompiler.Site.attempt] at attempt
        split at attempt
        · next loading =>
            cases attempt
            change engine.Answers fuel depth w .deferred (w.mark false).heldBack
            rw [unmarked]
            exact .deferred idle loading
        · next loaded =>
            have loaded : w.loads.isLoadingAny = false := (Bool.not_eq_true _).mp loaded
            split at attempt
            · next none =>
                cases attempt
                change engine.Answers fuel depth w .empty (w.mark false).unmoved
                rw [unmarked]
                exact .empty idle loaded none
            · next some =>
                have some : w.recompiler.backlog.isEmpty = false :=
                  (Bool.not_eq_true _).mp some
                obtain ⟨components, turn, worked, finish, drain, rfl, rfl⟩ :=
                  drain_parts (by rfl) attempt
                exact .compiled idle loaded some drain
    · cases run

end Engine

end BlueprintBridge
