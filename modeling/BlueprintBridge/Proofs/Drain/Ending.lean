import BlueprintBridge.Proofs.Drain.Guard
import BlueprintBridge.Proofs.Drain.Repeats
import Mathlib.Algebra.BigOperators.Group.Finset.Basic
import Mathlib.Algebra.Order.BigOperators.Group.Finset

/-!
# Drains that end

The components are taken again and again, and their own compilations queue more of them, so what
waits is no measure of what is left to do. But where no blueprint goes among the components once its
compilation was called, each is compiled there twice at most: from the batch it was in, and from the
next one if it was queued once more in between. So the batches of a drain whose blueprints come from
a finite set run out, whatever its compilations do.
-/

namespace BlueprintBridge

set_option autoImplicit false

open Workshop Underway

/-- Whether a routine ends with an answer, whatever its acts are answered. -/
def Routine.Returns {α : Type} : Routine α → Prop
  | .done _ => True
  | .raise _ => False
  | .look next => ∀ w, (next w).Returns
  | .queue _ _ next => ∀ added, (next added).Returns
  | .beginLoad _ next => next.Returns
  | .finishLoad _ next => ∀ found, (next found).Returns
  | .trigger next => ∀ outcome, (next outcome).Returns

inductive Routine.Ended {α : Type} (routine : Routine α) :
    EStateM.Result Interruption Workshop α → Prop where
  | returned (answer : α) (next : Workshop) : Ended routine (.ok answer next)
  | raised (raises : ¬ routine.Returns) (message : String) (next : Workshop) :
      Ended routine (.error (.unwound message) next)

theorem Routine.Ended.of_rest {α : Type} {routine rest : Routine α}
    {result : EStateM.Result Interruption Workshop α} (ended : rest.Ended result)
    (returns : routine.Returns → rest.Returns) : routine.Ended result := by
  cases ended with
  | returned => exact .returned _ _
  | raised raises => exact .raised (fun all => raises (returns all)) _ _

namespace Engine

variable {engine : Engine} {fuel depth : Nat} {w next : Workshop}

/-- Inside a drain a routine does not run out of fuel, since its triggers are refused at once. -/
theorem routine_ends {α : Type} (engine : Engine) (fuel depth : Nat) (routine : Routine α)
    (w : Workshop)
    (running : w.recompiler.compiling = true) :
    routine.Ended (routine.run (engine.trigger fuel (depth + 1)) w) := by
  induction routine generalizing w with
  | done answer => exact .returned answer w
  | raise message => exact .raised id message w
  | look next ih => exact (ih w w running).of_rest fun all => all w
  | queue lane blueprint next ih =>
      have rest := ih (w.queue lane blueprint).1 (w.queue lane blueprint).2 running
      exact rest.of_rest fun all => all _
  | beginLoad assembly next ih => exact (ih (w.beginLoad assembly) running).of_rest id
  | finishLoad assembly next ih =>
      have rest := ih (w.finishLoad assembly).1 (w.finishLoad assembly).2 running
      exact rest.of_rest fun all => all _
  | trigger next ih =>
      have refused : engine.trigger fuel (depth + 1) w = .ok .reentrant w.refused :=
        engine.trigger_with_running _ fuel running
      simp only [Routine.run, refused]
      exact (ih .reentrant w.refused running).of_rest fun all => all _

theorem compile_ends (fuel depth : Nat) {blueprint : BlueprintRef} {options : CompileOptions}
    (returns : (engine.compile blueprint options).Returns)
    (running : w.recompiler.compiling = true) :
    ∃ log next, (engine.site (engine.trigger fuel (depth + 1))).compile blueprint options w =
      .ok log next := by
  have ended := routine_ends engine fuel depth (engine.compile blueprint options)
    (w.record (.compileCalled blueprint options)) running
  simp only [site]
  generalize (engine.compile blueprint options).run _ _ = result at ended ⊢
  cases ended with
  | returned log next => exact ⟨log, _, rfl⟩
  | raised raises => exact absurd returns raises

theorem collect_ends {keep : ObjectFlags} {fullPurge : Bool}
    (running : w.recompiler.compiling = true) :
    (∃ next, (engine.site (engine.trigger fuel (depth + 1))).collect keep fullPurge w =
      .ok () next) ∨
    ¬ (engine.collect keep fullPurge).Returns ∧ ∃ message next,
      (engine.site (engine.trigger fuel (depth + 1))).collect keep fullPurge w =
        .error (.unwound message) next := by
  have ended := routine_ends engine fuel depth (engine.collect keep fullPurge)
    (w.record (.collectCalled keep fullPurge)) running
  simp only [site]
  generalize (engine.collect keep fullPurge).run _ _ = result at ended ⊢
  cases ended with
  | returned answer next => exact .inl ⟨_, rfl⟩
  | raised raises message next => exact .inr ⟨raises, message, next, rfl⟩

/-- Whether every compilation comes back. -/
def CompilesReturn (engine : Engine) : Prop :=
  ∀ blueprint options, (engine.compile blueprint options).Returns

theorem compile_batch_ends (fuel depth : Nat) (returns : engine.CompilesReturn) (lane : Lane)
    (options : CompileOptions) (batch : List BlueprintRef)
    (running : w.recompiler.compiling = true) :
    ∃ next, (engine.site (engine.trigger fuel (depth + 1))).compileBatch lane options batch w =
      .ok () next := by
  induction batch generalizing w with
  | nil => exact ⟨w, rfl⟩
  | cons blueprint rest ih =>
      obtain ⟨log, compiled, run⟩ := compile_ends fuel depth (returns blueprint options)
        running
      obtain ⟨middle, acts, rfl⟩ := compile_returned running run
      have stillRunning : ((middle.record (.compileReturned blueprint log)).counted
          log.hasErrors).recompiler.compiling = true := acts.compiling.trans running
      obtain ⟨next, later⟩ := ih stillRunning
      refine ⟨next, ?_⟩
      rw [Recompiler.Site.compileBatch, Action.bind_of_ok run]
      exact later

theorem compile_lane_ends (fuel depth : Nat) (returns : engine.CompilesReturn) (lane : Lane)
    (running : w.recompiler.compiling = true) :
    ∃ next, (engine.site (engine.trigger fuel (depth + 1))).compileLane lane w =
      .ok (w.lane lane) next := by
  have emptied : (w.emptied lane).recompiler.compiling = true := running
  obtain ⟨next, run⟩ := compile_batch_ends fuel depth returns lane
    w.recompiler.settings.compileOptions (w.lane lane) emptied
  exact ⟨next, by rw [compile_lane_eq, Action.bind_of_ok run]; rfl⟩

inductive Batches : Nat → Workshop → List BlueprintRef → Workshop → Prop where
  | none (w : Workshop) : Batches 0 w [] w
  | batch {count : Nat} {w middle last : Workshop} {more : List BlueprintRef}
      (some : w.lane .components ≠ [])
      (steps : Underway.Steps ⟨w.lane .components, w.emptied .components⟩ ⟨[], middle⟩)
      (later : Batches count middle more last) :
      Batches (count + 1) w (w.lane .components ++ more) last

theorem Batches.count_le_length {count : Nat} {components : List BlueprintRef} {last : Workshop}
    (batches : Batches count w components last) : count ≤ components.length := by
  induction batches with
  | none => exact Nat.le_refl _
  | batch some _ _ ih =>
      have filled := List.length_pos_iff.mpr some
      rw [List.length_append]
      omega

theorem ComponentPhase.batches {components : List BlueprintRef} {turn : Workshop}
    (phase : ComponentPhase w components turn) :
    ∃ count last, Batches count w components last ∧ turn = last.emptied .components := by
  induction phase with
  | ended => exact ⟨0, _, .none _, rfl⟩
  | batch some steps _ ih =>
      obtain ⟨count, last, batches, same⟩ := ih
      exact ⟨count + 1, last, .batch some steps batches, same⟩

theorem drain_components_ends (fuel depth : Nat) (returns : engine.CompilesReturn) (bound : Nat)
    (running : w.recompiler.compiling = true) :
    (∃ components turn,
      (engine.site (engine.trigger fuel (depth + 1))).drainComponents bound w =
        .ok components turn) ∨
    ∃ components last, Batches bound w components last ∧
      (engine.site (engine.trigger fuel (depth + 1))).drainComponents bound w =
        .error .outOfFuel last := by
  induction bound generalizing w with
  | zero => exact .inr ⟨[], w, .none w, rfl⟩
  | succ bound ih =>
      obtain ⟨middle, run⟩ := compile_lane_ends fuel depth returns
        .components running
      obtain ⟨_, steps⟩ := compile_lane_steps running run
      rw [Recompiler.Site.drainComponents, Action.bind_of_ok run]
      by_cases none : w.lane .components = []
      · rw [none]
        exact .inl ⟨[], middle, rfl⟩
      · have some : (w.lane .components).isEmpty = false := by simpa using none
        rw [some]
        rcases ih (steps.compiling.trans running) with
          ⟨more, turn, later⟩ | ⟨more, last, batches, later⟩
        · exact .inl ⟨_, turn, Action.bind_of_ok later⟩
        · exact .inr ⟨_, last, .batch none steps batches,
            Action.bind_eq_error.mpr (.inl later)⟩

end Engine

def Event.queuesAmong (known : Finset BlueprintRef) : Event → Bool
  | queued _ blueprint _ => blueprint ∈ known
  | _ => true

/-- Whether a blueprint is put among the components after its compilation was called. -/
def Event.requeues : Event → Event → Bool
  | compileCalled blueprint _, queued .components entry _ => blueprint = entry
  | _, _ => false

/-- Only known blueprints are queued, and none goes among the components once its compilation was
called. -/
structure Restrained (known : Finset BlueprintRef) (events : List Event) : Prop where
  among : ∀ event ∈ events, event.queuesAmong known = true
  unstarted : events.Pairwise fun earlier later => earlier.requeues later = false

instance (known : Finset BlueprintRef) (events : List Event) :
    Decidable (Restrained known events) :=
  decidable_of_iff ((∀ event ∈ events, event.queuesAmong known = true) ∧
      events.Pairwise fun earlier later => earlier.requeues later = false)
    ⟨fun ⟨among, unstarted⟩ => ⟨among, unstarted⟩, fun ⟨among, unstarted⟩ => ⟨among, unstarted⟩⟩

namespace Restrained

variable {known : Finset BlueprintRef} {events first second : List Event} {event : Event}

theorem of_prefix (restrained : Restrained known second) (early : first <+: second) :
    Restrained known first where
  among event member := restrained.among event (early.subset member)
  unstarted := restrained.unstarted.sublist early.sublist

theorem of_snoc (restrained : Restrained known (events ++ [event])) : Restrained known events :=
  restrained.of_prefix (List.prefix_append _ _)

theorem queued_known {lane : Lane} {blueprint : BlueprintRef} {fresh : Bool}
    (restrained : Restrained known (events ++ [.queued lane blueprint fresh])) :
    blueprint ∈ known := by
  have among := restrained.among (.queued lane blueprint fresh) (by simp)
  simpa [Event.queuesAmong] using among

theorem not_called {blueprint : BlueprintRef} {fresh : Bool}
    (restrained : Restrained known (events ++ [.queued .components blueprint fresh])) :
    (engineCalls events).count (.compile blueprint) = 0 := by
  rw [List.count_eq_zero]
  intro called
  obtain ⟨event, happened, call⟩ := List.mem_filterMap.mp called
  cases event <;> cases call
  have started := (List.pairwise_append.mp restrained.unstarted).2.2 _ happened _
    (List.mem_singleton_self _)
  simp [Event.requeues] at started

end Restrained

def beforeCollection (events : List Event) : List Event :=
  events.takeWhile fun event => event.call? ≠ some .collect

theorem prefix_before_collection {early : List Event} (late : List Event)
    (none : .collect ∉ engineCalls early) : early <+: beforeCollection (early ++ late) := by
  rw [beforeCollection, List.takeWhile_append_of_pos]
  · exact List.prefix_append _ _
  · intro event member
    exact decide_eq_true fun call => none (List.mem_filterMap.mpr ⟨event, member, call⟩)

/-- As long as the events are restrained, whatever is in the batch or waits is known, and what waits
among the components has at most one compilation behind it or in the batch. -/
structure Limited (known : Finset BlueprintRef) (events : List Event) (batch : List BlueprintRef)
    (backlog : Backlog) : Prop where
  exclusive : backlog.Exclusive
  nodup : batch.Nodup
  ahead : Restrained known events → ∀ blueprint ∈ batch, blueprint ∈ known
  waiting : Restrained known events → ∀ lane, ∀ blueprint ∈ (backlog.lane lane).entries,
    blueprint ∈ known
  once : Restrained known events → ∀ blueprint ∈ (backlog.lane .components).entries,
    (engineCalls events).count (.compile blueprint) + batch.count blueprint ≤ 1

namespace Limited

variable {known : Finset BlueprintRef} {events : List Event} {batch : List BlueprintRef}
  {backlog : Backlog} {blueprint : BlueprintRef}

theorem aside (limited : Limited known events batch backlog) (event : Event)
    (aside : event.isAside = true) : Limited known (events ++ [event]) batch backlog where
  exclusive := limited.exclusive
  nodup := limited.nodup
  ahead restrained := limited.ahead restrained.of_snoc
  waiting restrained := limited.waiting restrained.of_snoc
  once restrained blueprint waits := by
    rw [engine_calls_snoc, List.count_append, Event.compiles_nothing aside]
    exact limited.once restrained.of_snoc blueprint waits

theorem queued (limited : Limited known events batch backlog) (lane : Lane)
    (blueprint : BlueprintRef) {fresh : Bool} :
    Limited known (events ++ [.queued lane blueprint fresh]) batch
      (backlog.enqueue lane blueprint).2 where
  exclusive := limited.exclusive.enqueue lane blueprint
  nodup := limited.nodup
  ahead restrained := limited.ahead restrained.of_snoc
  waiting restrained other entry waits := by
    rw [Backlog.mem_enqueue] at waits
    by_cases same : entry = blueprint
    · exact same ▸ restrained.queued_known
    · rw [if_neg same] at waits
      exact limited.waiting restrained.of_snoc other entry waits
  once restrained entry waits := by
    rw [Backlog.mem_enqueue] at waits
    rw [engine_calls_snoc]
    by_cases same : entry = blueprint
    · subst same
      -- It goes among the components, so it was never called, and the batch has it once.
      obtain rfl : Lane.components = lane := by simpa using waits
      have never := restrained.not_called
      have ahead := List.nodup_iff_count_le_one.mp limited.nodup entry
      simpa [Event.call?, never] using ahead
    · rw [if_neg same] at waits
      simpa [Event.call?] using limited.once restrained.of_snoc entry waits

theorem called (limited : Limited known events (blueprint :: batch) backlog)
    (options : CompileOptions) :
    Limited known (events ++ [.compileCalled blueprint options]) batch backlog where
  exclusive := limited.exclusive
  nodup := limited.nodup.of_cons
  ahead restrained entry member :=
    limited.ahead restrained.of_snoc entry (List.mem_cons_of_mem _ member)
  waiting restrained := limited.waiting restrained.of_snoc
  once restrained entry waits := by
    have before := limited.once restrained.of_snoc entry waits
    rw [engine_calls_snoc]
    by_cases same : blueprint = entry
    · subst same
      simp [Event.call?] at before ⊢
      omega
    · simpa [Event.call?, List.count_cons, same] using before

theorem taken (limited : Limited known events [] backlog) (lane : Lane) :
    Limited known events (backlog.lane lane).entries (backlog.take lane).2 where
  exclusive := limited.exclusive.take lane
  nodup := limited.exclusive.nodup lane
  ahead restrained := limited.waiting restrained lane
  waiting restrained other blueprint waits := by
    rw [Backlog.lane_take] at waits
    split at waits
    · cases waits
    · exact limited.waiting restrained other blueprint waits
  once restrained blueprint waits := by
    rw [Backlog.lane_take] at waits
    split at waits
    · cases waits
    · next other =>
        have before := limited.once restrained blueprint waits
        -- What still waits is in the other lane than what was taken.
        have elsewhere : blueprint ∉ (backlog.lane lane).entries := by
          cases lane with
          | components => exact absurd rfl other
          | classes => exact limited.exclusive.apart blueprint waits
        rw [List.count_eq_zero.mpr elsewhere]
        simpa using before

end Limited

theorem limited_steady (known : Finset BlueprintRef) : Steady (Limited known) where
  aside event aside _ limited := limited.aside event aside
  queued lane blueprint limited := limited.queued lane blueprint
  called _ options limited := limited.called options
  taken lane limited := limited.taken lane

theorem limited_start {known : Finset BlueprintRef} {start : Backlog} (exclusive : start.Exclusive)
    (waiting : ∀ lane, ∀ blueprint ∈ (start.lane lane).entries, blueprint ∈ known) :
    Limited known [] [] start where
  exclusive
  nodup := List.nodup_nil
  ahead _ _ member := by cases member
  waiting _ := waiting
  once _ blueprint _ := by simp [engineCalls]

theorem length_le_of_count_le {known : Finset BlueprintRef} {entries : List BlueprintRef}
    {bound : Nat} (among : ∀ blueprint ∈ entries, blueprint ∈ known)
    (often : ∀ blueprint, entries.count blueprint ≤ bound) :
    entries.length ≤ bound * known.card := by
  have counted := Multiset.sum_count_eq_card (m := (entries : Multiset BlueprintRef)) among
  calc
    entries.length = ∑ blueprint ∈ known, (entries : Multiset BlueprintRef).count blueprint :=
      counted.symm
    _ ≤ known.card • bound := by
      apply Finset.sum_le_card_nsmul
      intro blueprint _
      rw [Multiset.coe_count]
      exact often blueprint
    _ = bound * known.card := Nat.mul_comm known.card bound

namespace Engine

variable {engine : Engine} {fuel depth : Nat} {w last turn : Workshop} {count : Nat}
  {components : List BlueprintRef} {known : Finset BlueprintRef}

theorem Batches.since {start : Workshop} {calls : List EngineCall}
    (batches : Batches count w components last) (since : Since start calls ⟨[], w⟩) :
    Since start (calls ++ components.map .compile) ⟨[], last⟩ := by
  induction batches generalizing calls with
  | none => simpa using since
  | batch _ steps _ ih =>
      have later := ih ((since.taken .components).steps steps)
      rwa [List.append_assoc, ← List.map_append] at later

theorem batch_worked {past early : List Event} {middle : Workshop}
    (steps : Steps ⟨w.lane .components, w.emptied .components⟩ ⟨[], middle⟩)
    (journal : w.journal = past ++ early) (limited : Limited known early [] w.recompiler.backlog) :
    ∃ during, middle.journal = past ++ (early ++ during) ∧
      Limited known (early ++ during) [] middle.recompiler.backlog ∧
      ∀ blueprint, (engineCalls (early ++ during)).count (.compile blueprint) =
        (engineCalls early).count (.compile blueprint) + (w.lane .components).count blueprint := by
  obtain ⟨during, worked, called, _⟩ := ((Since.refl w).taken .components).steps steps
  have batched : engineCalls during = (w.lane .components).map .compile := by simpa using called
  have middleJournal : middle.journal = past ++ (early ++ during) := by
    rw [← List.append_assoc, ← journal]
    exact worked
  have begun : Keeps past (Limited known) ⟨[], w⟩ := ⟨early, journal, limited⟩
  obtain ⟨events, split, left⟩ :=
    begun.moves (limited_steady known) (Moves.of_taken .components steps)
  obtain rfl : early ++ during = events :=
    List.append_cancel_left (middleJournal.symm.trans split)
  refine ⟨during, middleJournal, left, fun blueprint => ?_⟩
  rw [engine_calls_append, List.count_append, batched, count_compile_map]

theorem taken_twice {early : List Event}
    (limited : Limited known early [] w.recompiler.backlog) (restrained : Restrained known early)
    {blueprint : BlueprintRef}
    (before : (engineCalls early).count (.compile blueprint) ≤ 2) :
    (engineCalls early).count (.compile blueprint) + (w.lane .components).count blueprint ≤ 2 := by
  by_cases waits : blueprint ∈ w.lane .components
  · have once := limited.once restrained blueprint waits
    have single : (w.lane .components).count blueprint ≤ 1 :=
      List.nodup_iff_count_le_one.mp (limited.exclusive.nodup .components) blueprint
    rw [List.count_nil] at once
    omega
  · rw [List.count_eq_zero.mpr waits]
    exact before

theorem Batches.restrained_before {past early events : List Event}
    (batches : Batches count w components last) (journal : w.journal = past ++ early)
    (finished : last.journal = past ++ events) (restrained : Restrained known events) :
    Restrained known early := by
  obtain ⟨later, grown, _⟩ := batches.since (Since.refl w)
  rw [finished, journal, List.append_assoc] at grown
  exact restrained.of_prefix ⟨later, (List.append_cancel_left grown).symm⟩

/-- A restrained drain compiles known components only, and none more than twice. -/
theorem Batches.twice {past early events : List Event}
    (batches : Batches count w components last) (journal : w.journal = past ++ early)
    (limited : Limited known early [] w.recompiler.backlog)
    (finished : last.journal = past ++ events) (restrained : Restrained known events)
    (before : ∀ blueprint, (engineCalls early).count (.compile blueprint) ≤ 2) :
    (∀ blueprint ∈ components, blueprint ∈ known) ∧ ∀ blueprint,
      (engineCalls early).count (.compile blueprint) + components.count blueprint ≤ 2 := by
  have begun := batches.restrained_before journal finished restrained
  induction batches generalizing early with
  | none => exact ⟨fun _ => List.not_mem_nil.elim, before⟩
  | @batch count w middle last more some steps later ih =>
      obtain ⟨during, middleJournal, left, calls⟩ := batch_worked steps journal limited
      have still : ∀ blueprint, (engineCalls (early ++ during)).count (.compile blueprint) ≤ 2 :=
        fun blueprint => (calls blueprint).symm ▸ taken_twice limited begun (before blueprint)
      obtain ⟨among, often⟩ := ih middleJournal left finished still
        (later.restrained_before middleJournal finished restrained)
      refine ⟨fun blueprint member => ?_, fun blueprint => ?_⟩
      · rcases List.mem_append.mp member with taken | more
        · exact limited.waiting begun .components blueprint taken
        · exact among blueprint more
      · have twice := often blueprint
        rw [calls] at twice
        rw [List.count_append]
        omega

/-- Of the components of a restrained drain there are twice as many as known blueprints at most. -/
theorem Batches.length_le {start : Workshop} {events : List Event}
    (batches : Batches count start.entered components last)
    (limited : Limited known [] [] start.recompiler.backlog)
    (journal : last.journal = start.journal ++ events) (restrained : Restrained known events) :
    components.length ≤ 2 * known.card := by
  have entered : Limited known [.triggered] [] start.entered.recompiler.backlog :=
    (limited_steady known).aside .triggered rfl (.inl rfl) limited
  have uncalled (blueprint : BlueprintRef) :
      (engineCalls [.triggered]).count (.compile blueprint) = 0 := rfl
  obtain ⟨among, often⟩ := batches.twice rfl entered journal restrained
    fun blueprint => by rw [uncalled]; omega
  exact length_le_of_count_le among fun blueprint => by simpa [uncalled] using often blueprint

/-- The classes of a restrained drain are known ones, each taken once. -/
theorem classes_length_le {start : Workshop} {events : List Event}
    (moves : Moves ⟨[], start.entered⟩ ⟨[], turn⟩)
    (limited : Limited known [] [] start.recompiler.backlog)
    (journal : turn.journal = start.journal ++ events) (restrained : Restrained known events) :
    (turn.lane .classes).length ≤ known.card := by
  obtain ⟨during, split, left⟩ :=
    (Keeps.entered (limited_steady known) limited).moves (limited_steady known) moves
  obtain rfl : events = during := List.append_cancel_left (journal.symm.trans split)
  have once := length_le_of_count_le (left.waiting restrained .classes)
    (List.nodup_iff_count_le_one.mp (left.exclusive.nodup .classes))
  rwa [Nat.one_mul] at once

inductive DrainEnds (engine : Engine) (fuel : Nat) (w : Workshop) :
    EStateM.Result Interruption Workshop Outcome → Prop where
  | exhausted {components : List BlueprintRef} {last : Workshop}
      (batches : Batches fuel w components last) : DrainEnds engine fuel w (.error .outOfFuel last)
  | finished {components : List BlueprintRef} {turn worked middle : Workshop} (keep : ObjectFlags)
      (fullPurge : Bool) (phase : ComponentPhase w components turn)
      (steps : Steps ⟨turn.lane .classes, turn.emptied .classes⟩ ⟨[], worked⟩)
      (acts : Interlude (worked.record (.collectCalled keep fullPurge)) middle) :
      DrainEnds engine fuel w (.ok (.compiled components (turn.lane .classes))
        (middle.record .collectReturned).drained)
  | thrown {components : List BlueprintRef} {turn worked middle : Workshop} (keep : ObjectFlags)
      (fullPurge : Bool) (phase : ComponentPhase w components turn)
      (steps : Steps ⟨turn.lane .classes, turn.emptied .classes⟩ ⟨[], worked⟩)
      (acts : Interlude (worked.record (.collectCalled keep fullPurge)) middle)
      (raises : ¬ (engine.collect keep fullPurge).Returns) (message : String) :
      DrainEnds engine fuel w (.error (.unwound message) middle)

theorem drain_eq {components classes : List BlueprintRef} {turn worked : Workshop}
    {nested : Action Workshop Outcome}
    (first : (engine.site nested).drainComponents fuel w = .ok components turn)
    (second : (engine.site nested).compileLane .classes turn = .ok classes worked) :
    (engine.site nested).drain fuel w =
      match (engine.site nested).collect worked.recompiler.settings.keepFlags
          worked.recompiler.settings.fullPurge worked with
      | .ok () finish => .ok (.compiled components classes) finish.drained
      | .error interruption finish => .error interruption finish := by
  unfold Recompiler.Site.drain
  rw [Action.bind_of_ok first, Action.bind_of_ok second]
  cases third : (engine.site nested).collect worked.recompiler.settings.keepFlags
    worked.recompiler.settings.fullPurge worked with
  | ok _ finish => exact Action.bind_of_ok third
  | error interruption finish =>
      refine Action.bind_eq_error.mpr (.inr ⟨_, worked, rfl, ?_⟩)
      exact Action.bind_eq_error.mpr (.inl third)

theorem drain_ends (fuel depth : Nat) (returns : engine.CompilesReturn)
    (running : w.recompiler.compiling = true) :
    DrainEnds engine fuel w
      ((engine.site (engine.trigger fuel (depth + 1))).drain fuel w) := by
  rcases drain_components_ends fuel depth returns fuel running with
    ⟨components, turn, first⟩ | ⟨components, last, batches, first⟩
  · have phase := drain_components_phase running first
    have turnRunning := phase.compiling.trans running
    obtain ⟨worked, second⟩ := compile_lane_ends fuel depth returns
      .classes turnRunning
    obtain ⟨_, steps⟩ := compile_lane_steps turnRunning second
    have workedRunning := steps.compiling.trans turnRunning
    rw [drain_eq first second]
    rcases collect_ends workedRunning with ⟨finish, third⟩ | ⟨raises, message, finish, third⟩
    · obtain ⟨middle, acts, rfl⟩ := collect_returned workedRunning third
      rw [third]
      exact .finished _ _ phase steps acts
    · have acts := collect_interrupted workedRunning third
      rw [third]
      exact .thrown _ _ phase steps acts raises message
  · rw [Recompiler.Site.drain, Action.bind_eq_error.mpr (.inl first)]
    exact .exhausted batches

inductive Ending (engine : Engine) : List BlueprintRef → List BlueprintRef →
    EStateM.Result Interruption Workshop Outcome → List EngineCall → Prop where
  /-- Refused, held back, or with nothing to do. -/
  | atOnce {outcome : Outcome} (nothing : outcome.blueprints = []) (finish : Workshop) :
      Ending engine [] [] (.ok outcome finish) []
  | drained (components classes : List BlueprintRef) (finish : Workshop) :
      Ending engine components classes (.ok (.compiled components classes) finish)
        ((components ++ classes).map .compile ++ [.collect])
  /-- The collection threw. -/
  | thrown {keep : ObjectFlags} {fullPurge : Bool} (raises : ¬ (engine.collect keep fullPurge).Returns)
      (components classes : List BlueprintRef) (message : String) (finish : Workshop) :
      Ending engine components classes (.error (.unwound message) finish)
        ((components ++ classes).map .compile ++ [.collect])

theorem Batches.restrained {start finish : Workshop}
    (batches : Batches count start.entered components last)
    (limited : Limited known [] [] start.recompiler.backlog) (later : List Event)
    (journal : finish.journal = last.journal ++ later)
    (restrained : ∀ events, finish.journal = start.journal ++ events →
      Restrained known (beforeCollection events)) :
    ∃ early, last.journal = start.journal ++ early ∧
      engineCalls early = components.map .compile ∧ Restrained known early ∧
      components.length ≤ 2 * known.card := by
  obtain ⟨early, begun, called, _⟩ := batches.since (Since.entered start)
  have calls : engineCalls early = components.map .compile := by simpa using called
  have whole := restrained (early ++ later) (by rw [journal, begun, List.append_assoc])
  have early_restrained : Restrained known early :=
    whole.of_prefix (prefix_before_collection later (by simp [calls]))
  exact ⟨early, begun, calls, early_restrained,
    batches.length_le limited begun early_restrained⟩

/-- A trigger that ended, with bounds on the components and the classes that it called for. -/
def EndsWithin (engine : Engine) (known : Finset BlueprintRef) (start : Workshop)
    (result : EStateM.Result Interruption Workshop Outcome) : Prop :=
  ∃ components classes events, (stateAfter result).journal = start.journal ++ events ∧
    engine.Ending components classes result (engineCalls events) ∧
    components.length ≤ 2 * known.card ∧ classes.length ≤ known.card

theorem EndsWithin.at_once {start : Workshop} {outcome : Outcome} {finish : Workshop}
    (nothing : outcome.blueprints = [])
    (journal : finish.journal = start.journal ++ [.triggered] ++ [.answered outcome]) :
    engine.EndsWithin known start (.ok outcome finish) := by
  rw [List.append_assoc] at journal
  exact ⟨[], [], _, journal, .atOnce nothing finish, Nat.zero_le _, Nat.zero_le _⟩

theorem drained_within {start finish : Workshop}
    (phase : ComponentPhase start.entered components turn)
    (since : Since turn ((turn.lane .classes).map .compile ++ [.collect]) ⟨[], finish⟩)
    (limited : Limited known [] [] start.recompiler.backlog)
    (restrained : ∀ events, finish.journal = start.journal ++ events →
      Restrained known (beforeCollection events)) :
    ∃ events, finish.journal = start.journal ++ events ∧
      engineCalls events = (components ++ turn.lane .classes).map .compile ++ [.collect] ∧
      components.length ≤ 2 * known.card ∧ (turn.lane .classes).length ≤ known.card := by
  obtain ⟨count, last, batches, rfl⟩ := phase.batches
  obtain ⟨late, grown, calls, _⟩ := since
  obtain ⟨early, begun, called, begunRestrained, short⟩ :=
    batches.restrained limited late grown restrained
  refine ⟨early ++ late, ?_, ?_, short,
    classes_length_le phase.moves limited begun begunRestrained⟩
  · rw [← List.append_assoc, ← begun]
    exact grown
  · rw [List.map_nil, List.append_nil] at calls
    rw [engine_calls_append, called, calls, List.map_append, List.append_assoc]

/-- A trigger whose compilations come back, and queue only blueprints of a finite set and none of
them among the components once its compilation was called, ends. It calls for at most twice as many
components as the set has blueprints, and for at most as many classes. -/
theorem restrained_trigger_ends (engine : Engine) (fuel depth : Nat) (start : Workshop)
    (known : Finset BlueprintRef) (returns : engine.CompilesReturn)
    (exclusive : start.recompiler.backlog.Exclusive)
    (waiting : ∀ lane, ∀ blueprint ∈ start.lane lane, blueprint ∈ known)
    (enough : 2 * known.card < fuel)
    (restrained : ∀ events,
      (stateAfter (engine.trigger fuel (depth + 2) start)).journal = start.journal ++ events →
        Restrained known (beforeCollection events)) :
    engine.EndsWithin known start (engine.trigger fuel (depth + 2) start) := by
  by_cases running : start.recompiler.compiling = true
  · rw [trigger, engine.trigger_with_running _ fuel running]
    exact .at_once rfl rfl
  have idle : start.recompiler.compiling = false := (Bool.not_eq_true _).mp running
  by_cases loading : start.loads.isLoadingAny = true
  · rw [trigger_of_loading idle loading]
    exact .at_once rfl rfl
  have loaded : start.loads.isLoadingAny = false := (Bool.not_eq_true _).mp loading
  by_cases none : start.recompiler.backlog.isEmpty = true
  · rw [trigger_of_nothing idle loaded none]
    exact .at_once rfl rfl
  have limited := limited_start exclusive waiting
  have drain := drain_ends fuel depth (w := start.entered) returns rfl
  rw [trigger_of_waiting idle loaded ((Bool.not_eq_true _).mp none)] at restrained ⊢
  generalize (engine.site (engine.trigger fuel (depth + 1))).drain fuel start.entered = result
    at drain restrained ⊢
  cases drain with
  -- As many batches as the fuel allows would have held more components than there can be.
  | exhausted batches =>
      obtain ⟨_, _, _, _, short⟩ := batches.restrained limited [.cutShort] rfl restrained
      have long := batches.count_le_length
      omega
  | @finished components turn _ _ keep fullPurge phase steps acts =>
      have since := class_phase_order (.compiled components (turn.lane .classes))
        (.collected keep fullPurge steps acts)
      obtain ⟨events, journal, calls, bounds⟩ := drained_within phase since limited restrained
      exact ⟨_, _, events, journal, calls ▸ .drained _ _ _, bounds⟩
  | @thrown _ _ _ middle keep fullPurge phase steps acts raises message =>
      have since : Since _ _ ⟨[], (middle.mark false).record .cutShort⟩ :=
        (collecting_order steps acts).recorded .cutShort rfl rfl rfl (by simp)
      obtain ⟨events, journal, calls, bounds⟩ := drained_within phase since limited restrained
      exact ⟨_, _, events, journal, calls ▸ .thrown raises _ _ message _, bounds⟩

/-- A door and a window among the components, and two classes; the compilation of the door queues
the window once more and moves a class to the components. -/
def growingBatch : Workshop :=
  { recompiler := { backlog := ⟨⟨[⟨0, 0⟩, ⟨1, 0⟩]⟩, ⟨[⟨3, 0⟩, ⟨4, 0⟩]⟩⟩ } }

/-- The window is compiled from two batches. What the collection queues is not among the known
blueprints. -/
theorem growing_batch_ends :
    ∃ finish, growingEngine.CompilesReturn ∧ growingBatch.recompiler.backlog.Exclusive ∧
      growingEngine.trigger 11 2 growingBatch =
        .ok (.compiled [⟨0, 0⟩, ⟨1, 0⟩, ⟨1, 0⟩, ⟨3, 0⟩] [⟨4, 0⟩, ⟨2, 0⟩]) finish ∧
      growingEngine.EndsWithin {⟨0, 0⟩, ⟨1, 0⟩, ⟨2, 0⟩, ⟨3, 0⟩, ⟨4, 0⟩} growingBatch
        (growingEngine.trigger 11 2 growingBatch) := by
  have returns : growingEngine.CompilesReturn := by
    intro blueprint options
    simp only [growingEngine]
    split
    · exact fun _ _ _ _ => trivial
    · trivial
  have exclusive : growingBatch.recompiler.backlog.Exclusive :=
    ⟨fun lane => by cases lane <;> decide, by decide⟩
  have answer : growingEngine.trigger 11 2 growingBatch =
      .ok (.compiled [⟨0, 0⟩, ⟨1, 0⟩, ⟨1, 0⟩, ⟨3, 0⟩] [⟨4, 0⟩, ⟨2, 0⟩])
        (stateAfter (growingEngine.trigger 11 2 growingBatch)) :=
    eq_ok_of_value (by decide +kernel)
  refine ⟨_, returns, exclusive, answer, ?_⟩
  apply restrained_trigger_ends growingEngine 11 0 growingBatch _ returns exclusive
  · intro lane
    cases lane <;> decide
  · decide
  · intro events split
    rw [show growingBatch.journal = [] from rfl, List.nil_append] at split
    rw [← split]
    decide +kernel

end Engine

end BlueprintBridge
