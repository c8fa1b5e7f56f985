import BlueprintBridge.Proofs.Drain.Agreement
import BlueprintBridge.Proofs.Drain.Journal
import BlueprintBridge.Proofs.Splits

/-!
# The gate of a drain

A trigger looks at the open loads once, before its drain begins. So every compilation lies in a
drain whose trigger found no load open, and an assembly is being loaded while a blueprint is
compiled exactly when the engine itself began a load since that trigger and has not finished it.
-/

namespace BlueprintBridge

set_option autoImplicit false

open Workshop

def Event.shift (ledger : LoadLedger) : Event → LoadLedger
  | loadBegun assembly => ledger.start assembly
  | loadEnded assembly _ => (ledger.finish assembly).2
  | _ => ledger

/-- The loads that events leave open, if none was open before them. -/
def ledgerOf (events : List Event) : LoadLedger := events.foldl Event.shift {}

/-- Whether an event is the answer of a drain, or the exception that ends one. A refused trigger
answers inside of a drain. -/
def Event.endsDrain : Event → Bool
  | answered .reentrant => false
  | answered _ => true
  | cutShort => true
  | _ => false

/-- The events end inside a drain whose trigger found no load open: `since` follows that trigger,
and nothing in it ends the drain. -/
def Admitted (events : List Event) : Prop :=
  ∃ earlier since, events = earlier ++ .triggered :: since ∧
    (ledgerOf earlier).isLoadingAny = false ∧ ∀ event ∈ since, event.endsDrain = false

def Gated (events : List Event) : Prop :=
  ∀ before blueprint options after,
    events = before ++ .compileCalled blueprint options :: after → Admitted before

theorem ledger_append (first second : List Event) :
    ledgerOf (first ++ second) = second.foldl Event.shift (ledgerOf first) :=
  List.foldl_append

theorem ledger_snoc (events : List Event) (event : Event) :
    ledgerOf (events ++ [event]) = event.shift (ledgerOf events) :=
  ledger_append events [event]

theorem ledger_of_not_loading {ledger : LoadLedger} (idle : ledger.isLoadingAny = false) :
    ledger = {} := by
  obtain ⟨entries⟩ := ledger
  cases entries with
  | nil => rfl
  | cons => cases idle

/-- After a moment without an open load only what happened since counts. -/
theorem ledger_since {earlier : List Event} (since : List Event)
    (idle : (ledgerOf earlier).isLoadingAny = false) :
    ledgerOf (earlier ++ .triggered :: since) = ledgerOf since := by
  rw [ledger_append, ledger_of_not_loading idle]
  rfl

theorem ledger_of_no_load {events : List Event}
    (none : ∀ assembly, .loadBegun assembly ∉ events) : ledgerOf events = {} := by
  induction events with
  | nil => rfl
  | cons event later ih =>
      have unchanged : event.shift {} = {} := by
        cases event with
        | loadBegun assembly => exact absurd (List.mem_cons_self ..) (none assembly)
        | _ => rfl
      have rest := ih fun assembly begun => none assembly (List.mem_cons_of_mem _ begun)
      rw [ledgerOf, List.foldl_cons, unchanged]
      exact rest

theorem Admitted.snoc {events : List Event} {event : Event} (admitted : Admitted events)
    (inner : event.endsDrain = false) : Admitted (events ++ [event]) := by
  obtain ⟨earlier, since, rfl, idle, running⟩ := admitted
  refine ⟨earlier, since ++ [event], by simp, idle, ?_⟩
  intro entry member
  rcases List.mem_append.mp member with old | last
  · exact running entry old
  · rw [List.mem_singleton.mp last]
    exact inner

theorem Gated.snoc {events : List Event} {event : Event} (gated : Gated events)
    (admitted : ∀ blueprint options, event = .compileCalled blueprint options → Admitted events) :
    Gated (events ++ [event]) := by
  intro before blueprint options after split
  -- Either the call is the new event, or it stands among the old ones.
  rcases snoc_eq_split.mp split with ⟨rfl, same, _⟩ | ⟨rest, _, rfl⟩
  · exact admitted blueprint options same
  · exact gated before blueprint options rest rfl

namespace Workshop

/-- The journal accounts for the open loads, and its compilations were let through. -/
structure Accounted (w : Workshop) : Prop where
  loads : w.loads = ledgerOf w.journal
  gated : Gated w.journal

structure Busy (w : Workshop) : Prop extends Accounted w where
  running : w.recompiler.compiling = true
  admitted : Admitted w.journal

variable {w next : Workshop}

theorem Accounted.recorded (accounted : Accounted w) (event : Event)
    (journal : next.journal = w.journal ++ [event])
    (loads : next.loads = event.shift w.loads)
    (admitted : ∀ blueprint options, event = .compileCalled blueprint options →
      Admitted w.journal) : Accounted next where
  loads := by rw [loads, journal, ledger_snoc, accounted.loads]
  gated := by
    rw [journal]
    exact accounted.gated.snoc admitted

theorem Accounted.recorded_other (accounted : Accounted w) (event : Event)
    (journal : next.journal = w.journal ++ [event]) (loads : next.loads = event.shift w.loads)
    (other : event.call? = none) : Accounted next := by
  refine accounted.recorded event journal loads fun blueprint options called => ?_
  rw [called] at other
  cases other

theorem Busy.recorded (busy : Busy w) (event : Event)
    (journal : next.journal = w.journal ++ [event])
    (loads : next.loads = event.shift w.loads)
    (running : next.recompiler.compiling = w.recompiler.compiling)
    (inner : event.endsDrain = false) : Busy next where
  toAccounted := busy.toAccounted.recorded event journal loads fun _ _ _ => busy.admitted
  running := running.trans busy.running
  admitted := by
    rw [journal]
    exact busy.admitted.snoc inner

theorem Busy.unrecorded (busy : Busy w) (journal : next.journal = w.journal)
    (loads : next.loads = w.loads)
    (running : next.recompiler.compiling = w.recompiler.compiling) : Busy next where
  loads := by rw [loads, journal, busy.loads]
  gated := journal ▸ busy.gated
  running := running.trans busy.running
  admitted := journal ▸ busy.admitted

theorem Busy.act (busy : Busy w) (act : Act w next) : Busy next := by
  cases act with
  | queue lane blueprint => exact busy.recorded _ rfl rfl rfl rfl
  | beginLoad assembly => exact busy.recorded _ rfl rfl rfl rfl
  | finishLoad assembly => exact busy.recorded _ rfl rfl rfl rfl
  | refused =>
      have triggered : Busy (w.record .triggered) := busy.recorded .triggered rfl rfl rfl rfl
      exact triggered.recorded (.answered .reentrant) rfl rfl rfl rfl

theorem Busy.interlude (busy : Busy w) (acts : Interlude w next) : Busy next := by
  induction acts with
  | refl => exact busy
  | tail _ act ih => exact ih.act act

end Workshop

namespace Engine

variable (engine : Engine) (fuel depth : Nat)

theorem routine_busy {α : Type} (routine : Routine α) {w : Workshop} (busy : Busy w) :
    Busy (stateAfter (routine.run (engine.trigger fuel depth) w)) :=
  busy.interlude (engine.routine_interlude routine fuel depth w busy.running)

theorem busy_site_agrees : Recompiler.Site.Agree Busy (engine.site (engine.trigger fuel depth))
    (engine.site (engine.trigger fuel depth)) :=
  sites_agree
    (fun _ _ => .of_keeps fun _ busy => engine.routine_busy fuel depth _ busy)
    (fun _ _ => .of_keeps fun _ busy => engine.routine_busy fuel depth _ busy)
    (fun event w ofCall busy => by
      have unmoved : event.shift w.loads = w.loads := by
        cases event <;> first | rfl | cases ofCall
      have inner : event.endsDrain = false := by cases event <;> first | rfl | cases ofCall
      exact busy.recorded event rfl unmoved.symm rfl inner)
    (fun _ _ under busy => busy.unrecorded rfl rfl (under _))

/-- A drain, also one that an exception cuts short, stays behind the gate that let it through. -/
theorem drain_keeps_busy (bound : Nat) :
    Action.Keeps Busy ((engine.site (engine.trigger fuel depth)).drain bound) :=
  ((engine.busy_site_agrees fuel depth).drain bound).keeps

theorem attempt_accounted {w : Workshop} (accounted : Accounted w) :
    Accounted (stateAfter ((engine.site (engine.trigger fuel depth)).attempt fuel w.entered)) := by
  have entered : Accounted w.entered := accounted.recorded_other .triggered rfl rfl rfl
  simp only [Recompiler.Site.attempt]
  split
  · exact ⟨entered.loads, entered.gated⟩
  · next loaded =>
      split
      · exact entered
      · have idle : (ledgerOf w.journal).isLoadingAny = false := by
          rw [← accounted.loads]
          exact (Bool.not_eq_true _).mp loaded
        have admitted : Admitted w.entered.journal :=
          ⟨w.journal, [], rfl, idle, fun _ member => absurd member List.not_mem_nil⟩
        have busy : Busy w.entered := ⟨entered, rfl, admitted⟩
        exact (engine.drain_keeps_busy fuel depth fuel w.entered busy).toAccounted

theorem trigger_keeps_accounted : Action.Keeps Accounted (engine.trigger fuel depth) := by
  cases depth with
  | zero => exact fun w accounted => accounted
  | succ depth =>
      intro w accounted
      have triggered : Accounted (w.record .triggered) :=
        accounted.recorded_other .triggered rfl rfl rfl
      by_cases running : w.recompiler.compiling = true
      · rw [trigger, engine.trigger_with_running _ fuel running]
        exact triggered.recorded_other (.answered .reentrant) rfl rfl rfl
      · have idle : w.recompiler.compiling = false := (Bool.not_eq_true _).mp running
        have attempted := engine.attempt_accounted fuel depth accounted
        rw [trigger, trigger_with_idle _ idle]
        split
        · next outcome next run =>
            rw [run] at attempted
            exact attempted.recorded_other (.answered outcome) rfl rfl rfl
        · next interruption next run =>
            rw [run] at attempted
            exact attempted.recorded_other .cutShort rfl rfl rfl

variable {engine} in
theorem Reachable.accounted {settings : Settings} {w : Workshop}
    (reachable : engine.Reachable settings w) : Accounted w := by
  induction reachable with
  | start =>
      refine ⟨rfl, fun before blueprint options after split => ?_⟩
      simp at split
  | queue earlier lane blueprint ih => exact ih.recorded_other _ rfl rfl rfl
  | beginLoad earlier assembly ih => exact ih.recorded_other _ rfl rfl rfl
  | finishLoad earlier assembly ih => exact ih.recorded_other _ rfl rfl rfl
  | @answered w next outcome fuel depth earlier run ih =>
      have kept := engine.trigger_keeps_accounted fuel depth w ih
      rw [run] at kept
      exact kept
  | @unwound w next message fuel depth earlier run ih =>
      have kept := engine.trigger_keeps_accounted fuel depth w ih
      rw [run] at kept
      exact kept

/-- A compilation lies in a drain whose trigger found no load open, so the loads open when it is
called are those that were begun since that trigger and not finished. -/
theorem loads_while_compiling_begun_since_trigger (engine : Engine) (settings : Settings)
    (w : Workshop) (reachable : engine.Reachable settings w) :
    w.loads = ledgerOf w.journal ∧
    ∀ before blueprint options after,
      w.journal = before ++ .compileCalled blueprint options :: after →
      ∃ earlier since, before = earlier ++ .triggered :: since ∧
        (ledgerOf earlier).isLoadingAny = false ∧
        (∀ event ∈ since, event.endsDrain = false) ∧
        ledgerOf before = ledgerOf since ∧
        ((∀ assembly, .loadBegun assembly ∉ since) → (ledgerOf before).isLoadingAny = false) := by
  have accounted := reachable.accounted
  refine ⟨accounted.loads, fun before blueprint options after split => ?_⟩
  obtain ⟨earlier, since, rfl, idle, running⟩ := accounted.gated before blueprint options after split
  have open_since := ledger_since since idle
  refine ⟨earlier, since, rfl, idle, running, open_since, fun none => ?_⟩
  rw [open_since, ledger_of_no_load none]
  rfl

def hastyEngine : Engine where
  compile blueprint _ :=
    if blueprint = ⟨0, 0⟩ then .beginLoad "Plugins" (.done {}) else .done {}
  collect _ _ := .done ()

def hastyStart : Workshop :=
  ((({} : Workshop).queue .classes ⟨0, 0⟩).2.queue .classes ⟨1, 0⟩).2

def hastyFinish : Workshop := stateAfter (hastyEngine.trigger 2 1 hastyStart)

theorem hasty_reachable : hastyEngine.Reachable {} hastyFinish := by
  have begun : hastyEngine.Reachable {} {} := .start
  have waiting := (begun.queue .classes ⟨0, 0⟩).queue .classes ⟨1, 0⟩
  have drain : hastyEngine.trigger 2 1 hastyStart =
      .ok (.compiled [] [⟨0, 0⟩, ⟨1, 0⟩]) hastyFinish := eq_ok_of_value (by decide +kernel)
  exact waiting.answered drain

def hastyBefore : List Event :=
  [.queued .classes ⟨0, 0⟩ true, .queued .classes ⟨1, 0⟩ true, .triggered,
    .compileCalled ⟨0, 0⟩ .skipGarbageCollection, .loadBegun "Plugins",
    .compileReturned ⟨0, 0⟩ {}]

theorem hasty_journal :
    hastyFinish.journal = hastyBefore ++
      .compileCalled ⟨1, 0⟩ .skipGarbageCollection :: hastyFinish.journal.drop 7 := by
  decide +kernel

/-- The trigger of the second compilation found no load open; the one open at the compilation was
begun since. -/
theorem hasty_load_begun_since_trigger :
    hastyEngine.Reachable {} hastyFinish ∧
    ∃ earlier since, hastyBefore = earlier ++ .triggered :: since ∧
      (ledgerOf earlier).isLoadingAny = false ∧
      (∀ event ∈ since, event.endsDrain = false) ∧
      ledgerOf hastyBefore = ledgerOf since ∧
      ((∀ assembly, .loadBegun assembly ∉ since) →
        (ledgerOf hastyBefore).isLoadingAny = false) :=
  ⟨hasty_reachable,
    (loads_while_compiling_begun_since_trigger hastyEngine {} hastyFinish hasty_reachable).2
      hastyBefore ⟨1, 0⟩ .skipGarbageCollection _ hasty_journal⟩

/-- The second blueprint is compiled while the load is open that the first compilation began. -/
theorem compiles_while_loading :
    ∃ w, hastyEngine.Reachable {} w ∧ ∃ before options after,
      w.journal = before ++ .compileCalled ⟨1, 0⟩ options :: after ∧
        (ledgerOf before).isLoadingAny = true :=
  ⟨hastyFinish, hasty_reachable, hastyBefore, .skipGarbageCollection, _, hasty_journal, by decide⟩

end Engine

end BlueprintBridge
