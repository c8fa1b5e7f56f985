import BlueprintBridge.Proofs.Drain.Agreement
import BlueprintBridge.Proofs.Drain.Answers
import BlueprintBridge.Proofs.Splits

/-!
# The guard of a drain

A trigger is refused exactly while another one is open, and then that one is a drain and the only
one. A vigilant engine sees to this itself: before each act it looks whether the state shows a drain
and one trigger is open, and it looks at what each trigger of its own leaves. Its drains are the
drains of the engine it stands for, so it never finds anything amiss. Between drains the state shows
only whether something waits.
-/

namespace BlueprintBridge

set_option autoImplicit false

open Workshop

def Event.opening (opened : Nat) : Event → Nat
  | triggered => opened + 1
  | answered _ => opened - 1
  | cutShort => opened - 1
  | _ => opened

def openTriggers (events : List Event) : Nat := events.foldl Event.opening 0

/-- A trigger is called with one other trigger open at most, and refused exactly if there is one. -/
def RefusedInside (events : List Event) : Prop :=
  ∀ before after, events = before ++ .triggered :: after →
    openTriggers before ≤ 1 ∧
      (after.head? = some (.answered .reentrant) ↔ openTriggers before = 1)

theorem open_triggers_snoc (events : List Event) (event : Event) :
    openTriggers (events ++ [event]) = event.opening (openTriggers events) := by
  simp [openTriggers, List.foldl_append]

theorem head_snoc_ne {events : List Event} {event other : Event} (different : event ≠ other) :
    (events ++ [event]).head? = some other ↔ events.head? = some other := by
  cases events <;> simp [different]

theorem RefusedInside.snoc {events : List Event} {event : Event} (held : RefusedInside events)
    (other : event ≠ .answered .reentrant)
    (outermost : event = .triggered → openTriggers events = 0) :
    RefusedInside (events ++ [event]) := by
  intro before after split
  rcases snoc_eq_split.mp split with ⟨rfl, same, rfl⟩ | ⟨between, rfl, rfl⟩
  · have none := outermost same
    simp [none]
  · rw [head_snoc_ne other]
    exact held before between rfl

theorem RefusedInside.refused {events : List Event} (held : RefusedInside events)
    (one : openTriggers events = 1) :
    RefusedInside (events ++ [.triggered] ++ [.answered .reentrant]) := by
  intro before after split
  -- The trigger in question is the new one, or an old one with both new events behind it.
  rcases snoc_eq_split.mp split with ⟨_, same, _⟩ | ⟨between, rfl, inner⟩
  · cases same
  rcases snoc_eq_split.mp inner with ⟨rfl, _, rfl⟩ | ⟨earlier, rfl, rfl⟩
  · simp [one]
  · have old := held before earlier rfl
    cases earlier with
    | nil => simpa using old
    | cons => exact old

namespace Workshop

def InDrain (w : Workshop) : Prop :=
  w.recompiler.state = .compiling ∧ openTriggers w.journal = 1

instance (w : Workshop) : Decidable w.InDrain := inferInstanceAs (Decidable (_ ∧ _))

structure AnsweredAtOnce (w : Workshop) (outcome : Outcome) (next : Workshop) : Prop where
  journal : next.journal = w.journal ++ [.triggered, .answered outcome]
  backlog : next.recompiler.backlog = w.recompiler.backlog
  loads : next.loads = w.loads
  state : next.recompiler.state = w.recompiler.state

instance (w next : Workshop) (outcome : Outcome) : Decidable (AnsweredAtOnce w outcome next) :=
  decidable_of_iff
    (next.journal = w.journal ++ [.triggered, .answered outcome] ∧
      next.recompiler.backlog = w.recompiler.backlog ∧ next.loads = w.loads ∧
      next.recompiler.state = w.recompiler.state)
    ⟨fun ⟨journal, backlog, loads, state⟩ => ⟨journal, backlog, loads, state⟩,
      fun ⟨journal, backlog, loads, state⟩ => ⟨journal, backlog, loads, state⟩⟩

structure Draining (w : Workshop) : Prop where
  inDrain : w.InDrain
  refused_inside : RefusedInside w.journal

structure Resting (w : Workshop) : Prop where
  idle : w.recompiler.compiling = false
  none_open : openTriggers w.journal = 0
  refused_inside : RefusedInside w.journal

theorem state_compiling_iff (r : Recompiler) : r.state = .compiling ↔ r.compiling = true := by
  rw [Recompiler.state]
  cases r.compiling
  · cases r.backlog.isEmpty <;> simp
  · simp

theorem refused_at_once (w : Workshop) : AnsweredAtOnce w .reentrant w.refused where
  journal := List.append_assoc w.journal [_] [_]
  backlog := rfl
  loads := rfl
  state := rfl

variable {w next : Workshop}

theorem Draining.running (draining : Draining w) : w.recompiler.compiling = true :=
  (state_compiling_iff _).mp draining.inDrain.1

theorem Draining.recorded (draining : Draining w) (event : Event)
    (journal : next.journal = w.journal ++ [event])
    (running : next.recompiler.compiling = w.recompiler.compiling)
    (aside : ∀ opened, event.opening opened = opened) : Draining next where
  inDrain := by
    refine ⟨(state_compiling_iff _).mpr (running.trans draining.running), ?_⟩
    rw [journal, open_triggers_snoc, aside]
    exact draining.inDrain.2
  refused_inside := by
    rw [journal]
    have impossible : event ≠ .answered .reentrant ∧ event ≠ .triggered := by
      constructor <;> rintro rfl <;> exact absurd (aside 1) (by decide)
    exact draining.refused_inside.snoc impossible.1 fun same => absurd same impossible.2

theorem Draining.unrecorded (draining : Draining w) (journal : next.journal = w.journal)
    (running : next.recompiler.compiling = w.recompiler.compiling) : Draining next where
  inDrain := by
    refine ⟨(state_compiling_iff _).mpr (running.trans draining.running), ?_⟩
    rw [journal]
    exact draining.inDrain.2
  refused_inside := journal ▸ draining.refused_inside

theorem Draining.refused (draining : Draining w) : Draining w.refused where
  inDrain := by
    refine ⟨draining.inDrain.1, ?_⟩
    change openTriggers (w.journal ++ [.triggered] ++ [.answered .reentrant]) = 1
    rw [open_triggers_snoc, open_triggers_snoc, draining.inDrain.2]
    rfl
  refused_inside := draining.refused_inside.refused draining.inDrain.2

theorem Draining.left (draining : Draining w) (event : Event) (closes : event.opening 1 = 0)
    (other : event ≠ .answered .reentrant) : Resting ((w.mark false).record event) where
  idle := rfl
  none_open := by
    change openTriggers (w.journal ++ [event]) = 0
    rw [open_triggers_snoc, draining.inDrain.2, closes]
  refused_inside := by
    refine draining.refused_inside.snoc other ?_
    rintro rfl
    cases closes

theorem Resting.entered (resting : Resting w) : Draining w.entered where
  inDrain := by
    refine ⟨(state_compiling_iff _).mpr rfl, ?_⟩
    change openTriggers (w.journal ++ [.triggered]) = 1
    rw [open_triggers_snoc, resting.none_open]
    rfl
  refused_inside := resting.refused_inside.snoc (by simp) fun _ => resting.none_open

theorem Resting.recorded (resting : Resting w) (event : Event)
    (journal : next.journal = w.journal ++ [event])
    (idle : next.recompiler.compiling = w.recompiler.compiling)
    (aside : ∀ opened, event.opening opened = opened) : Resting next where
  idle := idle.trans resting.idle
  none_open := by rw [journal, open_triggers_snoc, aside, resting.none_open]
  refused_inside := by
    rw [journal]
    refine resting.refused_inside.snoc ?_ fun _ => resting.none_open
    rintro rfl
    exact absurd (aside 1) (by decide)

theorem Resting.state (resting : Resting w) :
    w.recompiler.state = if w.recompiler.backlog.isEmpty then .idle else .pending := by
  rw [Recompiler.state, resting.idle]
  rfl

end Workshop

namespace Routine

variable {α : Type}

def watched (alarm : String) (routine : Routine α) : Routine α :=
  .look fun w => if w.InDrain then routine else .raise alarm

/-- The routine with a look around before each act, and another one after each trigger. -/
def vigilant (alarm : String) : Routine α → Routine α
  | .done answer => watched alarm (.done answer)
  | .raise message => watched alarm (.raise message)
  | .look next => watched alarm (.look fun w => (next w).vigilant alarm)
  | .queue lane blueprint next =>
      watched alarm (.queue lane blueprint fun added => (next added).vigilant alarm)
  | .beginLoad assembly next => watched alarm (.beginLoad assembly (next.vigilant alarm))
  | .finishLoad assembly next =>
      watched alarm (.finishLoad assembly fun found => (next found).vigilant alarm)
  | .trigger next =>
      watched alarm (.look fun before => .trigger fun outcome => .look fun after =>
        if outcome = .reentrant ∧ AnsweredAtOnce before outcome after then
          (next outcome).vigilant alarm
        else .raise alarm)

theorem run_watched (alarm : String) (routine : Routine α) (trigger : Action Workshop Outcome)
    {w : Workshop} (inDrain : w.InDrain) :
    (watched alarm routine).run trigger w = routine.run trigger w := by
  change (if w.InDrain then routine else .raise alarm).run trigger w = _
  rw [if_pos inDrain]

theorem vigilant_agree (alarm : String) (routine : Routine α)
    {first second : Action Workshop Outcome}
    (refusing : ∀ w, Draining w → first w = second w ∧
      (second w = .ok .reentrant w.refused ∨ second w = .error .outOfFuel w)) :
    Action.Agree Draining ((routine.vigilant alarm).run first) (routine.run second) := by
  intro w draining
  induction routine generalizing w with
  | done answer => exact ⟨run_watched alarm _ first draining.inDrain, draining⟩
  | raise message => exact ⟨run_watched alarm _ first draining.inDrain, draining⟩
  | look next ih =>
      rw [vigilant, run_watched alarm _ first draining.inDrain]
      exact ih w w draining
  | queue lane blueprint next ih =>
      rw [vigilant, run_watched alarm _ first draining.inDrain]
      exact ih _ _ (draining.recorded _ rfl rfl fun _ => rfl)
  | beginLoad assembly next ih =>
      rw [vigilant, run_watched alarm _ first draining.inDrain]
      exact ih _ (draining.recorded _ rfl rfl fun _ => rfl)
  | finishLoad assembly next ih =>
      rw [vigilant, run_watched alarm _ first draining.inDrain]
      exact ih _ _ (draining.recorded _ rfl rfl fun _ => rfl)
  | trigger next ih =>
      rw [vigilant, run_watched alarm _ first draining.inDrain]
      -- A refused trigger passes the second look; an exhausted one never comes to it.
      obtain ⟨same, refused | exhausted⟩ := refusing w draining
      · rw [refused] at same
        simp only [run, same, refused, refused_at_once, and_self, if_true]
        exact ih _ _ draining.refused
      · rw [exhausted] at same
        simp only [run, same, exhausted]
        exact ⟨trivial, draining⟩

end Routine

namespace Engine

def vigilant (engine : Engine) (alarm : String) : Engine where
  compile blueprint options := (engine.compile blueprint options).vigilant alarm
  collect keep fullPurge := (engine.collect keep fullPurge).vigilant alarm

variable (engine : Engine) (alarm : String) (fuel : Nat)

theorem vigilant_refusing (depth : Nat) {w : Workshop} (draining : Draining w) :
    (engine.vigilant alarm).trigger fuel depth w = engine.trigger fuel depth w ∧
      (engine.trigger fuel depth w = .ok .reentrant w.refused ∨
        engine.trigger fuel depth w = .error .outOfFuel w) := by
  refine ⟨?_, engine.trigger_running fuel depth draining.running⟩
  cases depth with
  | zero => rfl
  | succ depth =>
      rw [trigger, trigger, trigger_with_running _ _ fuel draining.running,
        trigger_with_running _ _ fuel draining.running]

theorem vigilant_site_agree (depth : Nat) :
    Recompiler.Site.Agree Draining
      ((engine.vigilant alarm).site ((engine.vigilant alarm).trigger fuel depth))
      (engine.site (engine.trigger fuel depth)) :=
  sites_agree
    (fun blueprint options => (engine.compile blueprint options).vigilant_agree alarm fun _ =>
      engine.vigilant_refusing alarm fuel depth)
    (fun keep fullPurge => (engine.collect keep fullPurge).vigilant_agree alarm fun _ =>
      engine.vigilant_refusing alarm fuel depth)
    (fun event _ ofCall draining => draining.recorded event rfl rfl fun _ => by
      cases event <;> first | rfl | cases ofCall)
    (fun _ _ under draining => draining.unrecorded rfl (under _))

variable {engine fuel} in
theorem attempt_not_reentrant {depth : Nat} {w next : Workshop} {outcome : Outcome}
    (idle : w.recompiler.compiling = false)
    (run : (engine.site (engine.trigger fuel depth)).attempt fuel w.entered = .ok outcome next) :
    outcome ≠ .reentrant := by
  obtain ⟨finish, answered⟩ :
      ∃ finish, engine.trigger fuel (depth + 1) w = .ok outcome finish :=
    ⟨_, by rw [trigger, trigger_with_idle _ idle, run]⟩
  rintro rfl
  cases trigger_answers answered with
  | reentrant running =>
      rw [idle] at running
      cases running

/-- From outside, a trigger of the vigilant engine does what the engine does, and comes back with
no trigger open. -/
theorem vigilant_trigger_agree (depth : Nat) :
    Action.Agree Resting ((engine.vigilant alarm).trigger fuel depth)
      (engine.trigger fuel depth) := by
  intro w resting
  cases depth with
  | zero => exact ⟨rfl, resting⟩
  | succ depth =>
      obtain ⟨same, drained⟩ :=
        (engine.vigilant_site_agree alarm fuel depth).attempt fuel w.entered resting.entered
      rw [trigger, trigger, trigger_with_idle _ resting.idle, trigger_with_idle _ resting.idle,
        same]
      refine ⟨rfl, ?_⟩
      split
      · next outcome next run =>
          rw [run] at drained
          have other := attempt_not_reentrant resting.idle run
          exact drained.left (.answered outcome) rfl (by simpa using other)
      · next interruption next run =>
          rw [run] at drained
          exact drained.left .cutShort rfl (by simp)

variable {engine} in
theorem Reachable.resting {settings : Settings} {w : Workshop}
    (reachable : engine.Reachable settings w) : Resting w := by
  induction reachable with
  | start => exact ⟨rfl, rfl, fun before after split => by simp at split⟩
  | queue earlier lane blueprint ih => exact ih.recorded _ rfl rfl fun _ => rfl
  | beginLoad earlier assembly ih => exact ih.recorded _ rfl rfl fun _ => rfl
  | finishLoad earlier assembly ih => exact ih.recorded _ rfl rfl fun _ => rfl
  | @answered w next outcome fuel depth earlier run ih =>
      have rests := (engine.vigilant_trigger_agree "" fuel depth w ih).2
      rw [run] at rests
      exact rests
  | @unwound w next message fuel depth earlier run ih =>
      have rests := (engine.vigilant_trigger_agree "" fuel depth w ih).2
      rw [run] at rests
      exact rests

variable {engine fuel} in
theorem trigger_of_loading {depth : Nat} {w : Workshop} (idle : w.recompiler.compiling = false)
    (loading : w.loads.isLoadingAny = true) :
    engine.trigger fuel (depth + 1) w = .ok .deferred w.heldBack := by
  have unmarked : w.mark false = w := mark_of_compiling idle
  have held : (engine.site (engine.trigger fuel depth)).isLoading w.entered = true := loading
  rw [trigger, trigger_with_idle _ idle, Recompiler.Site.attempt, if_pos held]
  change EStateM.Result.ok Outcome.deferred (w.mark false).heldBack = _
  rw [unmarked]

variable {engine fuel} in
theorem trigger_of_nothing {depth : Nat} {w : Workshop} (idle : w.recompiler.compiling = false)
    (loaded : w.loads.isLoadingAny = false) (none : w.recompiler.backlog.isEmpty = true) :
    engine.trigger fuel (depth + 1) w = .ok .empty w.unmoved := by
  have unmarked : w.mark false = w := mark_of_compiling idle
  have passed : ¬ (engine.site (engine.trigger fuel depth)).isLoading w.entered = true := by
    change ¬ w.loads.isLoadingAny = true
    simp [loaded]
  have nothing : ((engine.site (engine.trigger fuel depth)).recompiler.read
      w.entered).backlog.isEmpty = true := none
  rw [trigger, trigger_with_idle _ idle, Recompiler.Site.attempt, if_neg passed, if_pos nothing]
  change EStateM.Result.ok Outcome.empty (w.mark false).unmoved = _
  rw [unmarked]

variable {engine fuel} in
theorem trigger_of_waiting {depth : Nat} {w : Workshop} (idle : w.recompiler.compiling = false)
    (loaded : w.loads.isLoadingAny = false) (some : w.recompiler.backlog.isEmpty = false) :
    engine.trigger fuel (depth + 1) w =
      match (engine.site (engine.trigger fuel depth)).drain fuel w.entered with
      | .ok outcome next => .ok outcome ((next.mark false).record (.answered outcome))
      | .error interruption next => .error interruption ((next.mark false).record .cutShort) := by
  have passed : ¬ (engine.site (engine.trigger fuel depth)).isLoading w.entered = true := by
    change ¬ w.loads.isLoadingAny = true
    simp [loaded]
  have waits : ¬ ((engine.site (engine.trigger fuel depth)).recompiler.read
      w.entered).backlog.isEmpty = true := by
    change ¬ w.recompiler.backlog.isEmpty = true
    simp [some]
  have attempted : engine.triggerWith (engine.trigger fuel depth) fuel w = _ :=
    trigger_with_idle _ idle
  rw [Recompiler.Site.attempt, if_neg passed, if_neg waits] at attempted
  exact attempted

/-- What a trigger from outside comes to, where nothing waits or a load is open, and else. -/
structure Guarded (engine : Engine) (w : Workshop) : Prop where
  none_open : openTriggers w.journal = 0
  state : w.recompiler.state = if w.recompiler.backlog.isEmpty then .idle else .pending
  /-- Of all triggers so far, exactly those were refused that were called inside another. -/
  refused_inside : RefusedInside w.journal
  deferred : w.loads.isLoadingAny = true → ∀ fuel depth, ∃ next,
    engine.trigger fuel (depth + 1) w = .ok .deferred next ∧ AnsweredAtOnce w .deferred next
  empty : w.loads.isLoadingAny = false → w.recompiler.backlog.isEmpty = true →
    ∀ fuel depth, ∃ next,
      engine.trigger fuel (depth + 1) w = .ok .empty next ∧ AnsweredAtOnce w .empty next
  /-- Else it is a drain, and has no other answer than what was compiled. -/
  drain : w.loads.isLoadingAny = false → w.recompiler.backlog.isEmpty = false →
    ∀ fuel depth, w.entered.InDrain ∧
      engine.trigger fuel (depth + 1) w =
        match (engine.site (engine.trigger fuel depth)).drain fuel w.entered with
        | .ok outcome next => .ok outcome ((next.mark false).record (.answered outcome))
        | .error interruption next => .error interruption ((next.mark false).record .cutShort)
  compiled : w.loads.isLoadingAny = false → w.recompiler.backlog.isEmpty = false →
    ∀ fuel depth outcome next, engine.trigger fuel (depth + 1) w = .ok outcome next →
      ∃ components classes, outcome = .compiled components classes
  /-- Inside, every act finds the state of a drain and one open trigger, and every further trigger
  is refused at once. -/
  vigilant : ∀ alarm fuel depth,
    (engine.vigilant alarm).trigger fuel depth w = engine.trigger fuel depth w

/-- The guard of a drain is exact: between moves from outside no trigger is open and the state
shows whether something waits, and a trigger is refused exactly inside of a drain, and else held
back by a load, empty, or a drain. -/
theorem trigger_refused_iff_draining (engine : Engine) (settings : Settings) (w : Workshop)
    (reachable : engine.Reachable settings w) : engine.Guarded w := by
  have resting := reachable.resting
  exact
    { none_open := resting.none_open
      state := resting.state
      refused_inside := resting.refused_inside
      deferred := fun loading _ _ =>
        ⟨w.heldBack, trigger_of_loading resting.idle loading,
          { journal := List.append_assoc w.journal [_] [_]
            backlog := rfl
            loads := rfl
            state := rfl }⟩
      empty := fun loaded none _ _ =>
        ⟨w.unmoved, trigger_of_nothing resting.idle loaded none,
          { journal := List.append_assoc w.journal [_] [_]
            backlog := rfl
            loads := rfl
            state := rfl }⟩
      drain := fun loaded some _ _ =>
        ⟨resting.entered.inDrain, trigger_of_waiting resting.idle loaded some⟩
      compiled := by
        intro loaded some fuel depth outcome next answered
        cases trigger_answers answered with
        | reentrant running => rw [resting.idle] at running; cases running
        | deferred _ loading => rw [loaded] at loading; cases loading
        | empty _ _ none => rw [some] at none; cases none
        | compiled => exact ⟨_, _, rfl⟩
      vigilant := fun alarm fuel depth =>
        (engine.vigilant_trigger_agree alarm fuel depth w resting).1 }

/-- An engine that triggers again in every call. Its collection queues a blueprint whose
compilation throws. -/
def insistentEngine : Engine where
  compile blueprint _ :=
    .trigger fun _ => if blueprint = ⟨1, 0⟩ then .raise "boom" else .done {}
  collect _ _ := .queue .classes ⟨1, 0⟩ fun _ => .trigger fun _ => .done ()

def insistentStart : Workshop := (({} : Workshop).queue .classes ⟨0, 0⟩).2

def insistentAgain : Workshop := stateAfter (insistentEngine.trigger 2 2 insistentStart)

def insistentFinish : Workshop := stateAfter (insistentEngine.trigger 2 2 insistentAgain)

theorem insistent_triggers_refused :
    insistentEngine.Reachable {} insistentFinish ∧
      insistentFinish.journal.count (.answered .reentrant) = 3 ∧
      .cutShort ∈ insistentFinish.journal ∧ insistentEngine.Guarded insistentFinish := by
  have drain : insistentEngine.trigger 2 2 insistentStart =
      .ok (.compiled [] [⟨0, 0⟩]) insistentAgain := eq_ok_of_value (by decide +kernel)
  have cut : insistentEngine.trigger 2 2 insistentAgain =
      .error (.unwound "boom") insistentFinish := eq_error_of_thrown (by decide +kernel)
  have begun : insistentEngine.Reachable {} {} := .start
  have reachable := ((begun.queue .classes ⟨0, 0⟩).answered drain).unwound cut
  exact ⟨reachable, by decide +kernel, by decide +kernel,
    trigger_refused_iff_draining insistentEngine {} insistentFinish reachable⟩

end Engine

end BlueprintBridge
