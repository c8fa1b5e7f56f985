import BlueprintBridge.Proofs.Drain.Accounts
import Mathlib.Data.List.Induction

/-!
# The totals of a recompiler

The totals are written at five places, some before a call of the engine comes back and some after.
Still, between drains they say what the journal says: how many drains came to their end, how many
compilations came back and how many of these failed, how many collections came back, how many
triggers were held back and how many refused. As long as nothing was cut short, the compilations
are those that the answers list.
-/

namespace BlueprintBridge

set_option autoImplicit false

open Workshop Underway

namespace MessageLog

def hasErrorMessage (log : MessageLog) : Bool := log.messages.any (·.severity = .error)

def Written (log : MessageLog) : Prop := log = .ofList log.messages

instance (log : MessageLog) : Decidable log.Written := inferInstanceAs (Decidable (log = _))

theorem of_list_snoc (messages : List Message) (m : Message) :
    ofList (messages ++ [m]) = (ofList messages).add m := by
  rw [ofList, List.foldl_append]
  rfl

theorem errors_of_list (messages : List Message) :
    (ofList messages).errors = messages.countP (·.severity = .error) := by
  induction messages using List.reverseRecOn with
  | nil => rfl
  | append_singleton rest m ih =>
      rw [of_list_snoc, errors_add, ih, List.countP_append, List.countP_singleton]
      simp

theorem has_errors_of_written {log : MessageLog} (written : log.Written) :
    log.hasErrors = log.hasErrorMessage := by
  have count := errors_of_list log.messages
  rw [← show log = ofList log.messages from written] at count
  rw [hasErrors, count, hasErrorMessage, Bool.eq_iff_iff, decide_eq_true_iff, List.any_eq_true]
  exact List.countP_pos_iff

end MessageLog

def Event.endsCycle : Event → Bool
  | answered (.compiled _ _) => true
  | _ => false

def Event.log? : Event → Option MessageLog
  | compileReturned _ log => some log
  | _ => none

def returnedLogs (events : List Event) : List MessageLog := events.filterMap Event.log?

def Event.outcome? : Event → Option Outcome
  | answered outcome => some outcome
  | _ => none

def listedCompiled (events : List Event) : List BlueprintRef :=
  (events.filterMap Event.outcome?).flatMap Outcome.blueprints

/-- What a journal says about the totals. -/
def tally (events : List Event) : Stats where
  cycles := events.countP Event.endsCycle
  compiled := (returnedLogs events).length
  failed := (returnedLogs events).countP MessageLog.hasErrors
  collections := events.count .collectReturned
  deferred := events.count (.answered .deferred)
  reentrant := events.count (.answered .reentrant)

def Event.counted : Event → Stats → Stats
  | answered (.compiled _ _), s => { s with cycles := s.cycles + 1 }
  | answered .deferred, s => { s with deferred := s.deferred + 1 }
  | answered .reentrant, s => { s with reentrant := s.reentrant + 1 }
  | compileReturned _ log, s =>
      { s with compiled := s.compiled + 1, failed := s.failed + if log.hasErrors then 1 else 0 }
  | collectReturned, s => { s with collections := s.collections + 1 }
  | _, s => s

theorem tally_snoc (events : List Event) (event : Event) :
    tally (events ++ [event]) = event.counted (tally events) := by
  simp only [tally, returnedLogs, List.filterMap_append, List.countP_append, List.count_append,
    List.length_append, List.countP_singleton, List.count_singleton]
  cases event with
  | answered outcome => cases outcome <;> rfl
  | compileReturned blueprint log =>
      cases failed : log.hasErrors <;> simp [Event.counted, Event.log?, Event.endsCycle, failed]
  | queued | loadBegun | loadEnded | triggered | cutShort | compileCalled | collectCalled
  | collectReturned => rfl

theorem listed_compiled_snoc (events : List Event) (event : Event) :
    listedCompiled (events ++ [event]) =
      listedCompiled events ++ event.outcome?.elim [] Outcome.blueprints := by
  rw [listedCompiled, List.filterMap_append, List.flatMap_append]
  cases event <;> simp [listedCompiled, Event.outcome?]

/-- The totals are those of the journal, and drains and collections are counted together. -/
structure Workshop.Truthful (w : Workshop) : Prop where
  stats : w.recompiler.stats = tally w.journal
  paired : w.recompiler.stats.cycles = w.recompiler.stats.collections

namespace Workshop

variable {w next : Workshop}

theorem Truthful.recorded (truthful : w.Truthful) (event : Event)
    (journal : next.journal = w.journal ++ [event])
    (stats : next.recompiler.stats = event.counted w.recompiler.stats)
    (paired : next.recompiler.stats.cycles = next.recompiler.stats.collections) :
    next.Truthful where
  stats := by rw [stats, journal, tally_snoc, truthful.stats]
  paired := paired

theorem Truthful.act (truthful : w.Truthful) (act : Act w next) : next.Truthful := by
  have paired := truthful.paired
  cases act with
  | queue lane blueprint => exact truthful.recorded _ rfl rfl paired
  | beginLoad assembly => exact truthful.recorded _ rfl rfl paired
  | finishLoad assembly => exact truthful.recorded _ rfl rfl paired
  | refused =>
      have triggered : (w.record .triggered).Truthful :=
        truthful.recorded .triggered rfl rfl paired
      exact triggered.recorded (.answered .reentrant) rfl rfl paired

end Workshop

theorem Underway.Move.truthful {before after : Underway} (move : Move before after)
    (truthful : before.workshop.Truthful) : after.workshop.Truthful := by
  have paired := truthful.paired
  cases move with
  | step step =>
      cases step with
      | act batch act => exact truthful.act act
      | called blueprint options batch w => exact truthful.recorded _ rfl rfl paired
      | returned blueprint log batch w => exact truthful.recorded _ rfl rfl paired
  | taken lane w => exact ⟨truthful.stats, paired⟩
  | collecting keep fullPurge w => exact truthful.recorded _ rfl rfl paired

theorem Underway.Moves.truthful {before after : Underway} (moves : Moves before after)
    (truthful : before.workshop.Truthful) : after.workshop.Truthful := by
  induction moves with
  | refl => exact truthful
  | tail _ move ih => exact move.truthful ih

namespace Engine

variable {engine : Engine} {fuel depth : Nat} {w next turn : Workshop}

theorem class_phase_truthful {finish : Workshop} {components classes : List BlueprintRef}
    (phase : ClassPhase turn finish) (truthful : turn.Truthful) :
    (finish.left (.compiled components classes)).Truthful := by
  cases phase with
  | @collected worked middle keep fullPurge steps acts =>
      have compiled : worked.Truthful := (Moves.of_taken .classes steps).truthful truthful
      have called : (worked.record (.collectCalled keep fullPurge)).Truthful :=
        compiled.recorded _ rfl rfl compiled.paired
      have acted : middle.Truthful := (Moves.of_interlude [] acts).truthful called
      refine ⟨?_, congrArg (· + 1) acted.paired⟩
      -- The drain counts its collection and itself in one go, after the collection came back.
      change Event.counted (.answered (.compiled components classes))
          (Event.counted .collectReturned middle.recompiler.stats) =
        tally (middle.journal ++ [.collectReturned] ++ [.answered (.compiled components classes)])
      rw [tally_snoc, tally_snoc, acted.stats]

theorem Answers.truthful {outcome : Outcome} (answers : engine.Answers fuel depth w outcome next)
    (truthful : w.Truthful) : next.Truthful := by
  have paired := truthful.paired
  have triggered : (w.record .triggered).Truthful := truthful.recorded .triggered rfl rfl paired
  cases answers with
  | reentrant => exact triggered.recorded (.answered .reentrant) rfl rfl paired
  | deferred => exact triggered.recorded (.answered .deferred) rfl rfl paired
  | empty => exact triggered.recorded (.answered .empty) rfl rfl paired
  | compiled idle loaded some drain =>
      obtain ⟨phase, classPhase⟩ := drain.phases rfl
      have entered : w.entered.Truthful := ⟨triggered.stats, paired⟩
      exact class_phase_truthful classPhase (phase.moves.truthful entered)

/-- The totals are truthful also after a drain that was cut short. -/
theorem trigger_unwound_truthful {message : String} (truthful : w.Truthful)
    (run : engine.trigger fuel depth w = .error (.unwound message) next) : next.Truthful := by
  obtain ⟨rest, last, _, _, _, thrown, rfl⟩ := trigger_unwound run
  have entered : w.entered.Truthful := truthful.recorded .triggered rfl rfl truthful.paired
  have left := thrown.moves.truthful entered
  exact left.recorded .cutShort rfl rfl left.paired

theorem Reachable.truthful {settings : Settings} (reachable : engine.Reachable settings w) :
    w.Truthful := by
  induction reachable with
  | start => exact ⟨rfl, rfl⟩
  | queue earlier lane blueprint ih => exact ih.act (.queue lane blueprint _)
  | beginLoad earlier assembly ih => exact ih.act (.beginLoad assembly _)
  | finishLoad earlier assembly ih => exact ih.act (.finishLoad assembly _)
  | answered earlier run ih =>
      obtain ⟨_, answers⟩ := trigger_answered run
      exact answers.truthful ih
  | unwound earlier run ih => exact trigger_unwound_truthful ih run

/-- From one moment of a drain to a later one so many compilations were counted, and none of them is
listed in an answer yet. -/
structure Compiles (w next : Workshop) (compilations : Nat) : Prop where
  counted : next.recompiler.stats.compiled = w.recompiler.stats.compiled + compilations
  unlisted : listedCompiled next.journal = listedCompiled w.journal

namespace Compiles

variable {middle : Workshop} {first second : Nat}

theorem trans (before : Compiles w middle first) (after : Compiles middle next second) :
    Compiles w next (first + second) where
  counted := by rw [after.counted, before.counted, Nat.add_assoc]
  unlisted := after.unlisted.trans before.unlisted

theorem recorded (compiles : Compiles w middle first) (event : Event)
    (journal : next.journal = middle.journal ++ [event])
    (stats : next.recompiler.stats.compiled = middle.recompiler.stats.compiled)
    (silent : event.outcome?.elim [] Outcome.blueprints = []) : Compiles w next first where
  counted := stats.trans compiles.counted
  unlisted := by rw [journal, listed_compiled_snoc, silent, List.append_nil, compiles.unlisted]

theorem none (w : Workshop) : Compiles w w 0 := ⟨rfl, rfl⟩

theorem act (compiles : Compiles w middle first) (act : Act middle next) :
    Compiles w next first := by
  cases act with
  | queue lane blueprint => exact compiles.recorded _ rfl rfl rfl
  | beginLoad assembly => exact compiles.recorded _ rfl rfl rfl
  | finishLoad assembly => exact compiles.recorded _ rfl rfl rfl
  | refused =>
      have triggered : Compiles w (middle.record .triggered) first :=
        compiles.recorded .triggered rfl rfl rfl
      exact triggered.recorded (.answered .reentrant) rfl rfl rfl

theorem interlude (compiles : Compiles w middle first) (acts : Interlude middle next) :
    Compiles w next first := by
  induction acts with
  | refl => exact compiles
  | tail _ act ih => exact ih.act act

end Compiles

theorem compile_batch_compiles {lane : Lane} {options : CompileOptions}
    {batch : List BlueprintRef} (running : w.recompiler.compiling = true)
    (run : (engine.site (engine.trigger fuel depth)).compileBatch lane options batch w =
      .ok () next) : Compiles w next batch.length := by
  induction batch generalizing w with
  | nil =>
      cases run
      exact .none _
  | cons blueprint rest ih =>
      simp only [Recompiler.Site.compileBatch] at run
      obtain ⟨log, compiled, first, run⟩ := Action.bind_eq_ok.mp run
      obtain ⟨middle, acts, rfl⟩ := compile_returned running first
      obtain ⟨_, _, count, run⟩ := Action.bind_eq_ok.mp run
      cases count
      obtain ⟨_, _, write, run⟩ := Action.bind_eq_ok.mp run
      cases write
      have called : Compiles w (w.record (.compileCalled blueprint options)) 0 :=
        (Compiles.none w).recorded _ rfl rfl rfl
      have acted : Compiles w middle 0 := called.interlude acts
      have returned : Compiles w (middle.record (.compileReturned blueprint log)) 0 :=
        acted.recorded _ rfl rfl rfl
      have counted : Compiles w
          ((middle.record (.compileReturned blueprint log)).counted log.hasErrors) (0 + 1) :=
        ⟨congrArg (· + 1) returned.counted, returned.unlisted⟩
      have later := counted.trans (ih (acts.compiling.trans running) run)
      rwa [List.length_cons, Nat.add_comm rest.length 1]

theorem compile_lane_compiles {lane : Lane} {batch : List BlueprintRef}
    (running : w.recompiler.compiling = true)
    (run : (engine.site (engine.trigger fuel depth)).compileLane lane w = .ok batch next) :
    Compiles w next batch.length := by
  simp only [Recompiler.Site.compileLane] at run
  obtain ⟨taken, _, take, run⟩ := Action.bind_eq_ok.mp run
  cases take
  obtain ⟨_, _, read, run⟩ := Action.bind_eq_ok.mp run
  cases read
  obtain ⟨_, _, work, run⟩ := Action.bind_eq_ok.mp run
  cases run
  have compiled := compile_batch_compiles (by exact running) work
  exact ⟨compiled.counted, compiled.unlisted⟩

theorem drain_components_compiles {bound : Nat} {components : List BlueprintRef}
    (running : w.recompiler.compiling = true)
    (run : (engine.site (engine.trigger fuel depth)).drainComponents bound w =
      .ok components next) : Compiles w next components.length := by
  induction bound generalizing w components with
  | zero => cases run
  | succ bound ih =>
      simp only [Recompiler.Site.drainComponents] at run
      obtain ⟨batch, middle, first, run⟩ := Action.bind_eq_ok.mp run
      have compiled := compile_lane_compiles running first
      obtain ⟨rfl, steps⟩ := compile_lane_steps running first
      split at run
      · next none =>
          cases run
          rwa [List.isEmpty_iff.mp none] at compiled
      · obtain ⟨more, _, rest, run⟩ := Action.bind_eq_ok.mp run
        cases run
        rw [List.length_append]
        exact compiled.trans (ih (steps.compiling.trans running) rest)

theorem Drain.compiles {components : List BlueprintRef} {worked finish : Workshop}
    (drain : engine.Drain fuel depth w components turn worked finish)
    (running : w.recompiler.compiling = true) :
    Compiles w finish (components.length + (turn.lane .classes).length) := by
  have turnRunning := (drain_components_phase running drain.components_run).compiling.trans running
  obtain ⟨_, steps⟩ := compile_lane_steps turnRunning drain.classes_run
  obtain ⟨middle, acts, rfl⟩ :=
    collect_returned (steps.compiling.trans turnRunning) drain.collection_run
  have compiled := (drain_components_compiles running drain.components_run).trans
    (compile_lane_compiles turnRunning drain.classes_run)
  have called : Compiles w (worked.record (.collectCalled worked.recompiler.settings.keepFlags
      worked.recompiler.settings.fullPurge)) _ := compiled.recorded _ rfl rfl rfl
  exact (called.interlude acts).recorded .collectReturned rfl rfl rfl

def Listed (w : Workshop) : Prop :=
  w.recompiler.stats.compiled = (listedCompiled w.journal).length

theorem Compiles.listed {outcome : Outcome} {finish : Workshop} {compilations : Nat}
    (compiles : Compiles w finish compilations) (listed : Listed w)
    (journal : next.journal = finish.journal ++ [.answered outcome])
    (stats : next.recompiler.stats.compiled = finish.recompiler.stats.compiled)
    (answer : outcome.blueprints.length = compilations) : Listed next := by
  rw [Listed, journal, listed_compiled_snoc, stats, compiles.counted, listed, compiles.unlisted,
    List.length_append]
  exact congrArg _ answer.symm

theorem Listed.act (listed : Listed w) (act : Act w next) : Listed next := by
  have compiles := (Compiles.none w).act act
  rw [Listed, compiles.counted, compiles.unlisted]
  exact listed

theorem Answers.listed {outcome : Outcome} (answers : engine.Answers fuel depth w outcome next)
    (listed : Listed w) : Listed next := by
  have triggered : Compiles w (w.record .triggered) 0 :=
    (Compiles.none w).recorded .triggered rfl rfl rfl
  cases answers with
  | reentrant => exact triggered.listed listed rfl rfl rfl
  | deferred => exact triggered.listed listed rfl rfl rfl
  | empty => exact triggered.listed listed rfl rfl rfl
  | compiled idle loaded some drain =>
      have entered : Compiles w w.entered 0 := ⟨rfl, triggered.unlisted⟩
      refine (entered.trans (drain.compiles rfl)).listed listed rfl rfl ?_
      rw [Outcome.blueprints, List.length_append, Nat.zero_add]

theorem Reachable.listed {settings : Settings} (reachable : engine.Reachable settings w)
    (smooth : .cutShort ∉ w.journal) : Listed w := by
  induction reachable with
  | start => rfl
  | queue earlier lane blueprint ih =>
      exact (ih fun cut => smooth (List.mem_append_left _ cut)).act (.queue lane blueprint _)
  | beginLoad earlier assembly ih =>
      exact (ih fun cut => smooth (List.mem_append_left _ cut)).act (.beginLoad assembly _)
  | finishLoad earlier assembly ih =>
      exact (ih fun cut => smooth (List.mem_append_left _ cut)).act (.finishLoad assembly _)
  | answered earlier run ih =>
      obtain ⟨_, answers⟩ := trigger_answered run
      exact answers.listed (ih fun cut => smooth (answers.journal_prefix.subset cut))
  -- An unwound trigger would have left its mark in the journal.
  | unwound earlier run ih => exact absurd (cut_short_of_unwound run) smooth

/-- The totals of a recompiler against everything that happened to it. -/
structure Reported (w : Workshop) : Prop where
  /-- Drains that came to their end, and collections that came back. -/
  cycles : w.recompiler.stats.cycles = w.journal.countP Event.endsCycle
  collections : w.recompiler.stats.collections = w.journal.count .collectReturned
  cycles_eq_collections : w.recompiler.stats.cycles = w.recompiler.stats.collections
  compiled : w.recompiler.stats.compiled = (returnedLogs w.journal).length
  failed : w.recompiler.stats.failed = (returnedLogs w.journal).countP MessageLog.hasErrors
  /-- Where logs are written message by message, a failed compilation is one with an error among
  its messages. -/
  failed_messages : (∀ log ∈ returnedLogs w.journal, log.Written) →
    w.recompiler.stats.failed = (returnedLogs w.journal).countP MessageLog.hasErrorMessage
  deferred : w.recompiler.stats.deferred = w.journal.count (.answered .deferred)
  reentrant : w.recompiler.stats.reentrant = w.journal.count (.answered .reentrant)
  /-- As long as no call of the engine threw, the answers list every compilation. -/
  listed : .cutShort ∉ w.journal →
    w.recompiler.stats.compiled = (listedCompiled w.journal).length

/-- Between drains the totals tell what happened: they count the drains that came to their end, the
collections and compilations that came back, those of them that failed, and the triggers that were
held back or refused. -/
theorem totals_tell_truth (engine : Engine) (settings : Settings) (w : Workshop)
    (reachable : engine.Reachable settings w) : Reported w := by
  obtain ⟨truthful, paired⟩ := reachable.truthful
  exact {
    cycles := congrArg Stats.cycles truthful
    collections := congrArg Stats.collections truthful
    cycles_eq_collections := paired
    compiled := congrArg Stats.compiled truthful
    failed := congrArg Stats.failed truthful
    failed_messages := by
      intro written
      refine (congrArg Stats.failed truthful).trans (List.countP_congr ?_)
      intro log member
      rw [MessageLog.has_errors_of_written (written log member)]
    deferred := congrArg Stats.deferred truthful
    reentrant := congrArg Stats.reentrant truthful
    listed := reachable.listed }

/-- An engine that triggers again in every call. Compiling the first blueprint brings an error, and
compiling the second one throws. -/
def clumsyEngine : Engine where
  compile blueprint _ :=
    .trigger fun _ =>
      if blueprint = ⟨0, 0⟩ then .done (MessageLog.ofList [⟨.warning, "unused"⟩, ⟨.error, "broken"⟩])
      else .raise "boom"
  collect _ _ := .trigger fun _ => .done ()

def clumsyLoad : Workshop := (({} : Workshop).queue .components ⟨0, 0⟩).2.beginLoad "Game"

def clumsyLoaded : Workshop :=
  ((stateAfter (clumsyEngine.trigger 2 2 clumsyLoad)).finishLoad "Game").2

def clumsyAgain : Workshop :=
  ((stateAfter (clumsyEngine.trigger 2 2 clumsyLoaded)).queue .classes ⟨1, 0⟩).2

def clumsyFinish : Workshop := stateAfter (clumsyEngine.trigger 2 2 clumsyAgain)

/-- A trigger held back, a drain with a failed compilation, and one that is cut short. -/
theorem clumsy_run_reported :
    clumsyEngine.Reachable {} clumsyFinish ∧ Reported clumsyFinish ∧
      clumsyFinish.recompiler.stats =
        { cycles := 1, compiled := 1, failed := 1, collections := 1, deferred := 1, reentrant := 3 } ∧
      clumsyFinish.recompiler.stats.failed =
        (returnedLogs clumsyFinish.journal).countP MessageLog.hasErrorMessage ∧
      .cutShort ∈ clumsyFinish.journal ∧
      clumsyAgain.recompiler.stats.compiled = (listedCompiled clumsyAgain.journal).length := by
  have held : clumsyEngine.trigger 2 2 clumsyLoad =
      .ok .deferred (stateAfter (clumsyEngine.trigger 2 2 clumsyLoad)) :=
    eq_ok_of_value (by decide +kernel)
  have drain : clumsyEngine.trigger 2 2 clumsyLoaded =
      .ok (.compiled [⟨0, 0⟩] []) (stateAfter (clumsyEngine.trigger 2 2 clumsyLoaded)) :=
    eq_ok_of_value (by decide +kernel)
  have cut : clumsyEngine.trigger 2 2 clumsyAgain = .error (.unwound "boom") clumsyFinish :=
    eq_error_of_thrown (by decide +kernel)
  have begun : clumsyEngine.Reachable {} {} := .start
  have loading := (begun.queue .components ⟨0, 0⟩).beginLoad "Game"
  have drained := ((loading.answered held).finishLoad "Game").answered drain
  have again := drained.queue .classes ⟨1, 0⟩
  have reachable := again.unwound cut
  have reported := totals_tell_truth clumsyEngine {} clumsyFinish reachable
  exact ⟨reachable, reported, by decide +kernel, reported.failed_messages (by decide +kernel),
    by decide +kernel,
    (totals_tell_truth clumsyEngine {} clumsyAgain again).listed (by decide +kernel)⟩

end Engine

end BlueprintBridge
