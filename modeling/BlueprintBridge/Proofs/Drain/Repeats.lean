import BlueprintBridge.Proofs.Drain.Accounts
import Mathlib.Data.List.Count
import Mathlib.Data.List.Nodup

/-!
# How often a drain compiles a blueprint

A drain takes whole lanes out of the backlog, and a lane knows only what waits in it. So a
blueprint that is queued while it is still in the rest of a batch counts as new, and is compiled
once for the batch and once more. Up to the turn, where the classes are taken, each blueprint is
compiled as often as it waited at first and was queued anew since.
-/

namespace BlueprintBridge

set_option autoImplicit false

open Workshop Underway

def Backlog.queueings (backlog : Backlog) : List Event :=
  backlog.components.entries.map (.queued .components · true) ++
    backlog.classes.entries.map (.queued .classes · true)

theorem queued_anew_append (blueprint : BlueprintRef) (first second : List Event) :
    queuedAnew blueprint (first ++ second) =
      queuedAnew blueprint first + queuedAnew blueprint second :=
  List.countP_append

theorem queued_anew_map (blueprint : BlueprintRef) (lane : Lane) (entries : List BlueprintRef) :
    queuedAnew blueprint (entries.map (.queued lane · true)) = entries.count blueprint := by
  induction entries with
  | nil => rfl
  | cons entry rest ih =>
      rw [queuedAnew] at ih
      simp [queuedAnew, List.countP_cons, List.count_cons, Event.queuesAnew, ih]

theorem queued_anew_queueings (backlog : Backlog) (blueprint : BlueprintRef) :
    queuedAnew blueprint backlog.queueings = backlog.waiting blueprint := by
  rw [Backlog.queueings, queued_anew_append, queued_anew_map, queued_anew_map]
  rfl

theorem engine_calls_queueings (backlog : Backlog) : engineCalls backlog.queueings = [] := by
  simp [engineCalls, Backlog.queueings, Event.call?]

/-- The debts of a drain that began with `start`: what waited then counts as queued just before. -/
def Balances (start : Backlog) (events : List Event) (batch : List BlueprintRef)
    (backlog : Backlog) : Prop :=
  Balanced ⟨batch, { recompiler := { backlog }, journal := start.queueings ++ events }⟩

theorem balances_start {start : Backlog} (exclusive : start.Exclusive) :
    Balances start [] [] start where
  exclusive := exclusive
  balance blueprint := by
    change queuedAnew blueprint (start.queueings ++ []) =
      (engineCalls (start.queueings ++ [])).count (.compile blueprint) + 0 + start.waiting blueprint
    rw [List.append_nil, queued_anew_queueings, engine_calls_queueings]
    simp

theorem balances_steady (start : Backlog) : Steady (Balances start) where
  aside event aside _ held := held.recorded event (List.append_assoc ..).symm rfl aside
  queued lane blueprint held := by
    have queued := held.queued lane blueprint
    rw [Balances, ← List.append_assoc]
    exact queued
  called blueprint options held := by
    have called := held.step (.called blueprint options _ _)
    rw [Balances, ← List.append_assoc]
    exact called
  taken lane held := held.taken lane

/-- Whatever was owed at first or queued anew is compiled, in the rest of the batch, or waiting. -/
theorem Balances.equal {start backlog : Backlog} {events : List Event} {batch : List BlueprintRef}
    (balances : Balances start events batch backlog) (blueprint : BlueprintRef) :
    start.waiting blueprint + queuedAnew blueprint events =
      (engineCalls events).count (.compile blueprint) + batch.count blueprint +
        backlog.waiting blueprint := by
  have balance := balances.balance blueprint
  rw [queued_anew_append, queued_anew_queueings, engine_calls_append, engine_calls_queueings,
    List.nil_append] at balance
  exact balance

theorem count_compile_map (blueprint : BlueprintRef) (entries : List BlueprintRef) :
    (entries.map EngineCall.compile).count (.compile blueprint) = entries.count blueprint :=
  List.count_map_of_injective entries EngineCall.compile (fun _ _ => EngineCall.compile.inj)
    blueprint

def Event.queuesStarted : Event → Event → Bool
  | compileCalled blueprint _, queued _ entry _ => blueprint = entry
  | _, _ => false

/-- No blueprint is queued after its compilation was called. -/
def QueuesUnstarted (events : List Event) : Prop :=
  events.Pairwise fun earlier later => earlier.queuesStarted later = false

instance (events : List Event) : Decidable (QueuesUnstarted events) :=
  inferInstanceAs (Decidable (events.Pairwise _))

theorem QueuesUnstarted.of_snoc {events : List Event} {event : Event}
    (unstarted : QueuesUnstarted (events ++ [event])) : QueuesUnstarted events :=
  (List.pairwise_append.mp unstarted).1

theorem QueuesUnstarted.not_called {events : List Event} {lane : Lane} {blueprint : BlueprintRef}
    {fresh : Bool} (unstarted : QueuesUnstarted (events ++ [.queued lane blueprint fresh])) :
    (engineCalls events).count (.compile blueprint) = 0 := by
  rw [List.count_eq_zero]
  intro called
  obtain ⟨event, happened, call⟩ := List.mem_filterMap.mp called
  cases event <;> cases call
  have started := (List.pairwise_append.mp unstarted).2.2 _ happened _ (List.mem_singleton_self _)
  simp [Event.queuesStarted] at started

/-- While only blueprints are queued whose compilation was not called, each is in the batch once at
most and waits once at most, and has at most two compilations, made or to come. -/
def TwiceAtMost (events : List Event) (batch : List BlueprintRef) (backlog : Backlog) : Prop :=
  backlog.Exclusive ∧ batch.Nodup ∧ (QueuesUnstarted events → ∀ blueprint,
    (engineCalls events).count (.compile blueprint) + batch.count blueprint +
      backlog.waiting blueprint ≤ 2)

theorem twice_at_most_steady : Steady TwiceAtMost where
  aside event aside _ held := by
    obtain ⟨exclusive, nodup, bounded⟩ := held
    refine ⟨exclusive, nodup, fun unstarted blueprint => ?_⟩
    rw [engine_calls_snoc, List.count_append, Event.compiles_nothing aside]
    exact bounded unstarted.of_snoc blueprint
  queued {events batch backlog} lane blueprint held := by
    obtain ⟨exclusive, nodup, bounded⟩ := held
    refine ⟨exclusive.enqueue lane blueprint, nodup, fun unstarted entry => ?_⟩
    have before := bounded unstarted.of_snoc entry
    rw [engine_calls_snoc, exclusive.waiting_enqueue lane blueprint entry]
    by_cases same : entry = blueprint
    · subst same
      -- Never called, in the batch once at most, and waiting once from now on.
      have once := List.nodup_iff_count_le_one.mp nodup entry
      have never := unstarted.not_called
      simp [Event.call?, never]
      omega
    · simpa [Event.call?, same] using before
  called {events batch backlog} blueprint options held := by
    obtain ⟨exclusive, nodup, bounded⟩ := held
    refine ⟨exclusive, nodup.of_cons, fun unstarted entry => ?_⟩
    have before := bounded unstarted.of_snoc entry
    rw [engine_calls_snoc]
    by_cases same : blueprint = entry
    · subst same
      simp [Event.call?] at before ⊢
      omega
    · simpa [Event.call?, List.count_cons, same] using before
  taken {events backlog} lane held := by
    obtain ⟨exclusive, _, bounded⟩ := held
    refine ⟨exclusive.take lane, exclusive.nodup lane, fun unstarted blueprint => ?_⟩
    have before := bounded unstarted blueprint
    have moved := Backlog.waiting_take backlog lane blueprint
    change (backlog.lane lane).entries.count blueprint + _ = _ at moved
    rw [List.count_nil] at before
    omega

theorem twice_at_most_start {start : Backlog} (exclusive : start.Exclusive) :
    TwiceAtMost [] [] start := by
  refine ⟨exclusive, List.nodup_nil, fun _ blueprint => ?_⟩
  have waits := exclusive.waiting_eq blueprint
  simp only [engineCalls, List.filterMap_nil, List.count_nil]
  split at waits <;> omega

namespace Engine

theorem ComponentPhase.keeps {account : List Event → List BlueprintRef → Backlog → Prop}
    {start turn : Workshop} {components : List BlueprintRef} {events : List Event}
    (phase : ComponentPhase start.entered components turn)
    (steady : Steady account) (begun : account [] [] start.recompiler.backlog)
    (journal : turn.journal = start.journal ++ events) :
    account events [] turn.recompiler.backlog := by
  obtain ⟨later, split, held⟩ := (Keeps.entered steady begun).moves steady phase.moves
  obtain rfl : events = later := List.append_cancel_left (journal.symm.trans split)
  exact held

theorem ComponentPhase.early {start turn : Workshop} {components : List BlueprintRef}
    (phase : ComponentPhase start.entered components turn) :
    ∃ early, turn.journal = start.journal ++ early ∧
      engineCalls early = components.map .compile ∧ turn.lane .components = [] := by
  obtain ⟨⟨early, journal, called, _⟩, _, ended⟩ :=
    component_phase_order phase (Since.entered start)
  exact ⟨early, journal, by simpa using called, ended⟩

theorem waiting_at_turn {turn : Workshop} (ended : turn.lane .components = [])
    (blueprint : BlueprintRef) :
    turn.recompiler.backlog.waiting blueprint = (turn.lane .classes).count blueprint := by
  have noComponents : (turn.recompiler.backlog.lane .components).entries = [] := ended
  rw [Backlog.waiting, noComponents, List.count_nil, Nat.zero_add]
  rfl

theorem ComponentPhase.count {start turn : Workshop} {components : List BlueprintRef}
    {early : List Event} (phase : ComponentPhase start.entered components turn)
    (exclusive : start.recompiler.backlog.Exclusive)
    (journal : turn.journal = start.journal ++ early)
    (called : engineCalls early = components.map .compile)
    (ended : turn.lane .components = []) (blueprint : BlueprintRef) :
    (components ++ turn.lane .classes).count blueprint =
      start.recompiler.backlog.waiting blueprint + queuedAnew blueprint early := by
  have balances := phase.keeps (balances_steady _) (balances_start exclusive) journal
  have equal := balances.equal blueprint
  rw [called, count_compile_map, waiting_at_turn ended, List.count_nil] at equal
  rw [List.count_append, equal, Nat.add_zero]

/-- Up to the turn a blueprint is compiled as often as it waited at first and was queued anew. So
none is compiled twice exactly if none is queued before the turn after the drain has taken it, be
it compiled already or still in the rest of the batch. If only blueprints are queued whose
compilation was not called, none is compiled more than twice. -/
theorem compiled_as_often_as_queued_anew (engine : Engine) (fuel depth : Nat)
    (start finish : Workshop) (components classes : List BlueprintRef)
    (exclusive : start.recompiler.backlog.Exclusive)
    (answer : engine.trigger fuel (depth + 1) start = .ok (.compiled components classes) finish) :
    ∃ turn early late,
      (engine.site (engine.trigger fuel depth)).drainComponents fuel start.entered =
        .ok components turn ∧
      turn.journal = start.journal ++ early ∧ finish.journal = turn.journal ++ late ∧
      engineCalls early = components.map .compile ∧
      engineCalls late = classes.map .compile ++ [.collect] ∧
      (∀ blueprint, (components ++ classes).count blueprint =
        start.recompiler.backlog.waiting blueprint + queuedAnew blueprint early) ∧
      ((components ++ classes).Nodup ↔ ∀ blueprint,
        start.recompiler.backlog.waiting blueprint + queuedAnew blueprint early ≤ 1) ∧
      (QueuesUnstarted early → ∀ blueprint, (components ++ classes).count blueprint ≤ 2) := by
  cases trigger_answers answer with
  | @compiled components turn worked last idle loaded some drain =>
      obtain ⟨phase, classPhase⟩ := drain.phases rfl
      obtain ⟨early, journal, called, ended⟩ := phase.early
      obtain ⟨late, lateJournal, lateCalls, _⟩ :=
        class_phase_order (.compiled components (turn.lane .classes)) classPhase
      have often := phase.count exclusive journal called ended
      refine ⟨turn, early, late, drain.components_run, journal, lateJournal, called,
        by simpa using lateCalls, often, ?_, fun unstarted blueprint => ?_⟩
      · rw [List.nodup_iff_count_le_one]
        simp only [often]
      · obtain ⟨_, _, bounded⟩ :=
          phase.keeps twice_at_most_steady (twice_at_most_start exclusive) journal
        have twice := bounded unstarted blueprint
        rw [called, count_compile_map, waiting_at_turn ended, List.count_nil] at twice
        rwa [List.count_append]

def announcingEngine : Engine where
  compile blueprint _ :=
    if blueprint = ⟨0, 0⟩ then .queue .components ⟨1, 0⟩ fun _ => .done {} else .done {}
  collect _ _ := .done ()

def doorAndWindow : Workshop :=
  (((({} : Workshop).queue .components ⟨0, 0⟩).2.queue .components ⟨1, 0⟩).2)

/-- The window is queued anew while it is in the rest of the batch, and compiled twice. -/
theorem window_compiled_as_often_as_queued_anew :
    ∃ finish early late,
      doorAndWindow.recompiler.backlog.Exclusive ∧
      announcingEngine.trigger 3 2 doorAndWindow =
        .ok (.compiled [⟨0, 0⟩, ⟨1, 0⟩, ⟨1, 0⟩] []) finish ∧
      finish.journal = doorAndWindow.journal ++ early ++ late ∧
      engineCalls early = [.compile ⟨0, 0⟩, .compile ⟨1, 0⟩, .compile ⟨1, 0⟩] ∧
      engineCalls late = [.collect] ∧
      ∀ blueprint, ([⟨0, 0⟩, ⟨1, 0⟩, ⟨1, 0⟩] : List BlueprintRef).count blueprint =
        doorAndWindow.recompiler.backlog.waiting blueprint + queuedAnew blueprint early := by
  have exclusive : doorAndWindow.recompiler.backlog.Exclusive :=
    (Backlog.exclusive_initial.enqueue .components ⟨0, 0⟩).enqueue .components ⟨1, 0⟩
  have answer : announcingEngine.trigger 3 2 doorAndWindow =
      .ok (.compiled [⟨0, 0⟩, ⟨1, 0⟩, ⟨1, 0⟩] [])
        (stateAfter (announcingEngine.trigger 3 2 doorAndWindow)) :=
    eq_ok_of_value (by decide +kernel)
  obtain ⟨turn, early, late, _, turned, finished, earlyCalls, lateCalls, often, _⟩ :=
    compiled_as_often_as_queued_anew announcingEngine 3 1 doorAndWindow _ _ _ exclusive answer
  rw [turned] at finished
  exact ⟨_, early, late, exclusive, answer, finished, earlyCalls, lateCalls, often⟩

/-- Only a window is queued whose compilation was not called, and it is compiled twice. -/
theorem window_compiled_twice :
    ∃ finish events,
      announcingEngine.trigger 3 2 doorAndWindow =
        .ok (.compiled [⟨0, 0⟩, ⟨1, 0⟩, ⟨1, 0⟩] []) finish ∧
      finish.journal = doorAndWindow.journal ++ events ∧ QueuesUnstarted events ∧
      ¬ ([⟨0, 0⟩, ⟨1, 0⟩, ⟨1, 0⟩] : List BlueprintRef).Nodup := by
  have answer : announcingEngine.trigger 3 2 doorAndWindow =
      .ok (.compiled [⟨0, 0⟩, ⟨1, 0⟩, ⟨1, 0⟩] [])
        (stateAfter (announcingEngine.trigger 3 2 doorAndWindow)) :=
    eq_ok_of_value (by decide +kernel)
  exact ⟨_, (stateAfter (announcingEngine.trigger 3 2 doorAndWindow)).journal.drop 2, answer,
    by decide +kernel, by decide +kernel, by decide +kernel⟩

end Engine

end BlueprintBridge
