import BlueprintBridge.Proofs.Drain.Repeats

/-!
# Drains that an exception cuts short

A drain takes a whole lane before its first compilation, and an exception that leaves it takes the
mark of a running drain away but puts nothing back. So what was queued and not compiled since waits
afterwards, and is compiled by the next drain, or was in the rest of the batch, behind the blueprint
whose compilation threw: that rest is lost.
-/

namespace BlueprintBridge

set_option autoImplicit false

open Workshop Underway

/-- Whether a blueprint that was owed a compilation or not is owed one after an event: from when it
is queued until its compilation is called. -/
def Event.owing (blueprint : BlueprintRef) (owed : Bool) : Event → Bool
  | queued _ entry _ => owed || entry = blueprint
  | compileCalled entry _ => owed && entry ≠ blueprint
  | _ => owed

def owedAfter (start : Backlog) (blueprint : BlueprintRef) (events : List Event) : Bool :=
  events.foldl (Event.owing blueprint) (start.find? blueprint).isSome

theorem owed_after_snoc (start : Backlog) (blueprint : BlueprintRef) (events : List Event)
    (event : Event) :
    owedAfter start blueprint (events ++ [event]) =
      event.owing blueprint (owedAfter start blueprint events) := by
  simp [owedAfter, List.foldl_append]

/-- What is owed a compilation waits, or is in the rest of the batch. -/
def Owes (start : Backlog) (events : List Event) (batch : List BlueprintRef)
    (backlog : Backlog) : Prop :=
  ∀ blueprint, owedAfter start blueprint events = true →
    (backlog.find? blueprint).isSome = true ∨ blueprint ∈ batch

theorem owes_start (start : Backlog) : Owes start [] [] start := fun _ waits => .inl waits

theorem owes_steady (start : Backlog) : Steady (Owes start) where
  aside event aside _ held := by
    intro blueprint owed
    have same (before : Bool) : event.owing blueprint before = before := by
      cases event <;> first | rfl | cases aside
    rw [owed_after_snoc, same] at owed
    exact held blueprint owed
  queued lane blueprint held := by
    intro entry owed
    rw [owed_after_snoc] at owed
    rw [Backlog.find_enqueue]
    by_cases same : entry = blueprint
    · exact .inl (by rw [if_pos same]; rfl)
    · have other : ¬ blueprint = entry := fun equal => same equal.symm
      rw [if_neg same]
      exact held entry (by simpa [Event.owing, other] using owed)
  called blueprint options held := by
    intro entry owed
    rw [owed_after_snoc] at owed
    obtain ⟨before, other⟩ : owedAfter start entry _ = true ∧ ¬ blueprint = entry := by
      simpa [Event.owing] using owed
    rcases held entry before with waits | ahead
    · exact .inl waits
    · rcases List.mem_cons.mp ahead with same | later
      · exact absurd same.symm other
      · exact .inr later
  taken {events backlog} lane held := by
    intro blueprint owed
    rcases held blueprint owed with waits | none
    · rw [Backlog.find_is_some] at waits ⊢
      rw [Backlog.lane_take, Backlog.lane_take]
      cases lane <;> rcases waits with component | cls <;> simp [*]
    · cases none

theorem Underway.Moves.last_taken {w next : Workshop} {batch : List BlueprintRef}
    (moves : Moves ⟨[], w⟩ ⟨batch, next⟩) :
    batch = [] ∨ ∃ middle lane, Moves ⟨[], w⟩ ⟨[], middle⟩ ∧
      Steps ⟨middle.lane lane, middle.emptied lane⟩ ⟨batch, next⟩ := by
  generalize after : (⟨batch, next⟩ : Underway) = last at moves
  induction moves generalizing batch next with
  | refl => exact .inl (congrArg Underway.batch after)
  | @tail before last earlier move ih =>
      cases move with
      | step step =>
          subst after
          rcases ih rfl with none | ⟨middle, lane, begun, steps⟩
          · -- Without a batch no compilation is called.
            left
            cases step with
            | act | returned => exact none
            | called => cases none
          · exact .inr ⟨middle, lane, begun, steps.tail step⟩
      | taken lane middle =>
          cases after
          exact .inr ⟨middle, lane, earlier, .refl⟩
      | collecting keep fullPurge middle => exact .inl (congrArg Underway.batch after)

theorem Underway.Steps.lane_split {middle next : Workshop} {lane : Lane}
    {batch : List BlueprintRef}
    (steps : Steps ⟨middle.lane lane, middle.emptied lane⟩ ⟨batch, next⟩) :
    ∃ done events, middle.lane lane = done ++ batch ∧
      next.journal = middle.journal ++ events ∧ engineCalls events = done.map .compile := by
  have taken : Since middle ((middle.lane lane).map .compile)
      ⟨middle.lane lane, middle.emptied lane⟩ := (Since.refl middle).taken lane
  obtain ⟨events, journal, calls, _⟩ := taken.steps steps
  obtain ⟨done, rest, split, called, ahead⟩ := List.map_eq_append_iff.mp calls.symm
  obtain rfl : rest = batch :=
    List.map_injective_iff.mpr (fun _ _ => EngineCall.compile.inj) ahead
  exact ⟨done, events, split, journal, called.symm⟩

/-- What is still ahead when a compilation throws is the rest of the lane behind its blueprint. -/
theorem Underway.Thrown.rest_of_lane {w last : Workshop} {rest : List BlueprintRef}
    (thrown : Thrown ⟨[], w⟩ rest last) :
    rest = [] ∨ ∃ middle lane done thrower late, Moves ⟨[], w⟩ ⟨[], middle⟩ ∧
      middle.lane lane = done ++ thrower :: rest ∧
      ((last.mark false).record .cutShort).journal = middle.journal ++ late ∧
      engineCalls late = (done ++ [thrower]).map .compile := by
  cases thrown with
  | collection => exact .inl rfl
  | @compilation called _ _ thrower options moves acts =>
      rcases moves.last_taken with none | ⟨middle, lane, begun, steps⟩
      · cases none
      · obtain ⟨done, _, whole, _, _⟩ := steps.lane_split
        have threw : Steps ⟨middle.lane lane, middle.emptied lane⟩ ⟨rest, last⟩ :=
          (steps.tail (.called thrower options rest called)).trans (Steps.of_interlude rest acts)
        obtain ⟨calledFor, events, split, journal, calls⟩ := threw.lane_split
        have same : calledFor ++ rest = done ++ [thrower] ++ rest := by
          rw [← split, whole, List.append_assoc]
          rfl
        obtain rfl : calledFor = done ++ [thrower] := List.append_cancel_right same
        refine .inr ⟨middle, lane, done, thrower, events ++ [.cutShort], begun, whole, ?_, ?_⟩
        · change last.journal ++ [.cutShort] = _
          rw [journal, List.append_assoc]
        · rw [engine_calls_snoc, calls]
          exact List.append_nil _

/-- What an exception that cut a drain short left behind: `events` happened since the trigger, and
`lost` was taken out of a lane and is neither compiled nor put back. -/
structure Leftovers (start finish : Workshop) (events : List Event) (lost : List BlueprintRef) :
    Prop where
  journal : finish.journal = start.journal ++ events
  idle : finish.recompiler.compiling = false
  exclusive : finish.recompiler.backlog.Exclusive
  /-- Nothing in the collection, and in a compilation the rest of its batch. -/
  rest_of_lane : lost = [] ∨ ∃ middle lane done thrower late,
    Moves ⟨[], start.entered⟩ ⟨[], middle⟩ ∧ middle.lane lane = done ++ thrower :: lost ∧
      finish.journal = middle.journal ++ late ∧
      engineCalls late = (done ++ [thrower]).map .compile
  balance : ∀ blueprint,
    start.recompiler.backlog.waiting blueprint + queuedAnew blueprint events =
      (engineCalls events).count (.compile blueprint) + lost.count blueprint +
        finish.recompiler.backlog.waiting blueprint
  owed_waits_or_lost : ∀ blueprint,
    owedAfter start.recompiler.backlog blueprint events = true →
      (finish.recompiler.backlog.find? blueprint).isSome = true ∨ blueprint ∈ lost
  waiting_compiled_next : ∀ (engine : Engine) (fuel depth : Nat) (outcome : Outcome)
    (next : Workshop), finish.loads.isLoadingAny = false →
      engine.trigger fuel depth finish = .ok outcome next → ∀ blueprint,
        (finish.recompiler.backlog.find? blueprint).isSome = true → blueprint ∈ outcome.blueprints

namespace Engine

theorem waiting_compiled {engine : Engine} {fuel depth : Nat} {w next : Workshop}
    {outcome : Outcome} (exclusive : w.recompiler.backlog.Exclusive)
    (idle : w.recompiler.compiling = false) (loaded : w.loads.isLoadingAny = false)
    (run : engine.trigger fuel depth w = .ok outcome next) {blueprint : BlueprintRef}
    (waits : (w.recompiler.backlog.find? blueprint).isSome = true) :
    blueprint ∈ outcome.blueprints := by
  have once := exclusive.waiting_eq blueprint
  rw [if_pos waits] at once
  obtain ⟨_, answers⟩ := trigger_answered run
  cases answers with
  | reentrant running => rw [idle] at running; cases running
  | deferred _ loading => rw [loaded] at loading; cases loading
  | empty _ _ none =>
      rw [Backlog.find_is_some] at waits
      simp [Backlog.isEmpty, Backlog.totalSize, Backlog.size, WaitList.size, Backlog.lane] at none
      simp [Backlog.lane, none] at waits
  | @compiled components turn worked last _ _ _ drain =>
      obtain ⟨phase, _⟩ := drain.phases rfl
      obtain ⟨early, journal, called, ended⟩ := phase.early
      have often := phase.count exclusive journal called ended blueprint
      have some : 0 < (components ++ turn.lane .classes).count blueprint := by omega
      exact List.count_pos_iff.mp some

/-- A drain that an exception cuts short leaves what it owes waiting for the next drain, but for
the rest of the batch it was in, which is lost. -/
theorem cut_short_loses_rest_of_batch (engine : Engine) (fuel depth : Nat)
    (start finish : Workshop) (message : String)
    (exclusive : start.recompiler.backlog.Exclusive)
    (run : engine.trigger fuel depth start = .error (.unwound message) finish) :
    ∃ events lost, Leftovers start finish events lost := by
  obtain ⟨lost, last, _, _, _, thrown, rfl⟩ := trigger_unwound run
  -- The trigger and the end of the drain are events aside, around the moves of the drain.
  have ends {account : List Event → List BlueprintRef → Backlog → Prop} (steady : Steady account)
      (begun : account [] [] start.recompiler.backlog) :
      Keeps start.journal account ⟨lost, (last.mark false).record .cutShort⟩ := by
    have drained : Keeps start.journal account ⟨lost, last⟩ :=
      (Keeps.entered steady begun).moves steady thrown.moves
    exact drained.aside steady .cutShort rfl rfl rfl (.inl rfl)
  obtain ⟨events, journal, balances⟩ := ends (balances_steady _) (balances_start exclusive)
  obtain ⟨_, split, owes⟩ := ends (owes_steady _) (owes_start _)
  obtain rfl := List.append_cancel_left (journal.symm.trans split)
  have left : ((last.mark false).record .cutShort).recompiler.backlog.Exclusive :=
    balances.exclusive
  refine ⟨events, lost, ?_⟩
  exact
    { journal
      idle := rfl
      exclusive := left
      rest_of_lane := thrown.rest_of_lane
      balance := balances.equal
      owed_waits_or_lost := owes
      waiting_compiled_next := fun _ _ _ _ _ loaded run _ waits =>
        waiting_compiled left rfl loaded run waits }

def throwingEngine : Engine where
  compile blueprint _ := if blueprint = ⟨0, 0⟩ then .raise "boom" else .done {}
  collect _ _ := .done ()

def doorBeforeWindow : Workshop :=
  (((({} : Workshop).queue .classes ⟨0, 0⟩).2.queue .classes ⟨1, 0⟩).2)

/-- The window is in the rest of the batch behind the door that throws. -/
theorem throwing_door_leaves_nothing :
    ∃ finish events lost,
      doorBeforeWindow.recompiler.backlog.Exclusive ∧
      throwingEngine.trigger 3 2 doorBeforeWindow = .error (.unwound "boom") finish ∧
      finish.recompiler.backlog.isEmpty = true ∧
      Leftovers doorBeforeWindow finish events lost := by
  have exclusive : doorBeforeWindow.recompiler.backlog.Exclusive :=
    (Backlog.exclusive_initial.enqueue .classes ⟨0, 0⟩).enqueue .classes ⟨1, 0⟩
  have run : throwingEngine.trigger 3 2 doorBeforeWindow = .error (.unwound "boom")
      (stateAfter (throwingEngine.trigger 3 2 doorBeforeWindow)) :=
    eq_error_of_thrown (by decide +kernel)
  obtain ⟨events, lost, leftovers⟩ :=
    cut_short_loses_rest_of_batch throwingEngine 3 2 doorBeforeWindow _ _ exclusive run
  exact ⟨_, events, lost, exclusive, run, by decide +kernel, leftovers⟩

/-- The window is still owed its compilation and waits nowhere. -/
theorem window_owed_and_not_waiting :
    ∃ finish events,
      doorBeforeWindow.recompiler.backlog.Exclusive ∧
      throwingEngine.trigger 3 2 doorBeforeWindow = .error (.unwound "boom") finish ∧
      finish.journal = doorBeforeWindow.journal ++ events ∧
      owedAfter doorBeforeWindow.recompiler.backlog ⟨1, 0⟩ events = true ∧
      finish.recompiler.backlog.find? ⟨1, 0⟩ = none :=
  ⟨_, (stateAfter (throwingEngine.trigger 3 2 doorBeforeWindow)).journal.drop 2,
    (Backlog.exclusive_initial.enqueue .classes ⟨0, 0⟩).enqueue .classes ⟨1, 0⟩,
    eq_error_of_thrown (by decide +kernel), by decide +kernel, by decide +kernel,
    by decide +kernel⟩

end Engine

end BlueprintBridge
