import BlueprintBridge.Proofs.Action
import BlueprintBridge.Proofs.Drain.Journal
import Mathlib.Data.List.Forall2

/-!
# Drains of an engine that does not call back

Where compilations return and leave the recompiler alone, a trigger empties the backlog: the
components are compiled in order, then the classes, and then the garbage collector is called, with
whatever it does. The totals count each compilation, and those that the engine says have failed.
Where collections leave the recompiler alone as well, a trigger always returns.
-/

namespace BlueprintBridge

set_option autoImplicit false

theorem Backlog.is_empty_iff (backlog : Backlog) : backlog.isEmpty = true ↔ backlog = {} := by
  obtain ⟨⟨components⟩, ⟨classes⟩⟩ := backlog
  constructor
  · intro empty
    have none : components.length + classes.length = 0 := by
      simpa [isEmpty, totalSize, size, lane, WaitList.size] using empty
    rw [List.eq_nil_of_length_eq_zero (Nat.eq_zero_of_add_eq_zero_right none),
      List.eq_nil_of_length_eq_zero (Nat.eq_zero_of_add_eq_zero_left none)]
  · intro same
    cases same
    rfl

theorem Backlog.eq_empty_iff (backlog : Backlog) :
    backlog = {} ↔ backlog.components.entries ++ backlog.classes.entries = [] := by
  obtain ⟨⟨components⟩, ⟨classes⟩⟩ := backlog
  simp

/-- What waits to be compiled, and what the engine was asked to do so far. -/
structure DrainState where
  backlog : Backlog := {}
  calls : List EngineCall := []

namespace DrainState

def drain (state : DrainState) : DrainState where
  calls := state.calls ++ state.backlog.components.entries.map .compile ++
    state.backlog.classes.entries.map .compile ++ [.collect]

def trigger (loading : Bool) (state : DrainState) : DrainState :=
  if loading || state.backlog.isEmpty then state else state.drain

theorem trigger_loading (state : DrainState) : state.trigger true = state := rfl

theorem trigger_idle {state : DrainState} (empty : state.backlog = {}) :
    state.trigger false = state := by
  unfold trigger
  rw [(Backlog.is_empty_iff _).mpr empty]
  rfl

theorem trigger_drains {state : DrainState} (some : state.backlog ≠ {}) :
    state.trigger false = state.drain :=
  if_neg fun empty => some ((Backlog.is_empty_iff _).mp empty)

end DrainState

namespace Recompiler

def judged (verdicts : List Bool) : Recompiler → Recompiler :=
  count fun s =>
    { s with compiled := s.compiled + verdicts.length, failed := s.failed + verdicts.count true }

def finished : Recompiler → Recompiler :=
  count fun s => { s with cycles := s.cycles + 1, collections := s.collections + 1 }

def drained (verdicts : List Bool) (r : Recompiler) : Recompiler :=
  (judged verdicts { r with backlog := {} }).finished

theorem judged_nil (r : Recompiler) : r.judged [] = r := rfl

theorem judged_cons (r : Recompiler) (failed : Bool) (verdicts : List Bool) :
    (r.countCompilation failed).judged verdicts = r.judged (failed :: verdicts) := by
  cases failed <;> simp [judged, countCompilation, count, Nat.add_assoc, Nat.add_comm 1]

theorem judged_append (r : Recompiler) (first second : List Bool) :
    (r.judged first).judged second = r.judged (first ++ second) := by
  simp [judged, count, Nat.add_assoc]

end Recompiler

namespace Recompiler.Site

variable {σ : Type}

/-- What a drain still does once everything is compiled. -/
def closing (site : Site σ) (components classes : List BlueprintRef) : Action σ Outcome := do
  let settings := (← site.recompiler.get).settings
  site.collect settings.keepFlags settings.fullPurge
  site.recompiler.modify (count fun s =>
    { s with cycles := s.cycles + 1, collections := s.collections + 1 })
  site.write ⟨.info,
    s!"Recompiled {components.length} component and {classes.length} class blueprints"⟩
  return .compiled components classes

theorem drain_eq (site : Site σ) (fuel : Nat) :
    site.drain fuel = (do
      let components ← site.drainComponents fuel
      let classes ← site.compileLane .classes
      site.closing components classes) := rfl

section

variable (site : Site σ) {s t : σ}

theorem closing_of_ok (components classes : List BlueprintRef)
    (collecting : site.collect (site.recompiler.read s).settings.keepFlags
      (site.recompiler.read s).settings.fullPurge s = .ok () t) :
    ∃ record, site.closing components classes s =
      .ok (.compiled components classes)
        (site.note record (site.recompiler.update finished t)) := by
  have looking : site.recompiler.get s = .ok (site.recompiler.read s) s := rfl
  have counting : site.recompiler.modify finished t = .ok () (site.recompiler.update finished t) :=
    rfl
  unfold closing
  rw [Action.bind_of_ok looking, Action.bind_of_ok collecting]
  exact ⟨_, Action.bind_of_ok counting⟩

theorem closing_of_error (components classes : List BlueprintRef) {interruption : Interruption}
    (thrown : site.collect (site.recompiler.read s).settings.keepFlags
      (site.recompiler.read s).settings.fullPurge s = .error interruption t) :
    site.closing components classes s = .error interruption t := by
  have looking : site.recompiler.get s = .ok (site.recompiler.read s) s := rfl
  unfold closing
  rw [Action.bind_of_ok looking]
  exact Action.bind_eq_error.mpr (.inl thrown)

end

/-- Compilations at a site return and leave the recompiler alone. `Holds` says what is known of a
state: its recompiler, and which calls the engine got so far. `Says` is whether a compilation may
come back with errors or without, and `loading` whether an assembly is being loaded. -/
structure QuietCompilation (site : Site σ) (loading : Bool) (Says : BlueprintRef → Bool → Prop)
    (Holds : Recompiler → List EngineCall → σ → Prop) : Prop where
  read : ∀ {r calls s}, Holds r calls s → site.recompiler.read s = r
  gate : ∀ {r calls s}, Holds r calls s → site.isLoading s = loading
  written : ∀ {r calls s} next, Holds r calls s → Holds next calls (site.recompiler.write next s)
  noted : ∀ {r calls s} record, Holds r calls s → Holds r calls (site.note record s)
  compiled : ∀ {r calls s} blueprint options, Holds r calls s →
    ∃ log t, site.compile blueprint options s = .ok log t ∧ Says blueprint log.hasErrors ∧
      Holds r (calls ++ [.compile blueprint]) t

/-- Collections do so as well. -/
structure QuietEngine (site : Site σ) (loading : Bool) (Says : BlueprintRef → Bool → Prop)
    (Holds : Recompiler → List EngineCall → σ → Prop) : Prop
    extends QuietCompilation site loading Says Holds where
  collected : ∀ {r calls s} keep fullPurge, Holds r calls s →
    ∃ t, site.collect keep fullPurge s = .ok () t ∧ Holds r (calls ++ [.collect]) t

/-- What a trigger outside of a drain answers, the recompiler it leaves, and the calls the engine
got by then. -/
inductive Handled (loading : Bool) (Says : BlueprintRef → Bool → Prop) (r : Recompiler)
    (calls : List EngineCall) : Outcome → Recompiler → List EngineCall → Prop where
  | deferred (loads : loading = true) :
      Handled loading Says r calls .deferred
        (r.count fun s => { s with deferred := s.deferred + 1 })
        calls
  | empty (idle : loading = false) (none : r.backlog = {}) :
      Handled loading Says r calls .empty r calls
  | compiled {verdicts : List Bool} (idle : loading = false) (some : r.backlog ≠ {})
      (said : List.Forall₂ Says (r.backlog.components.entries ++ r.backlog.classes.entries)
        verdicts) :
      Handled loading Says r calls
        (.compiled r.backlog.components.entries r.backlog.classes.entries) (r.drained verdicts)
        (DrainState.mk r.backlog calls).drain.calls

variable {loading : Bool} {Says : BlueprintRef → Bool → Prop} {r : Recompiler}
  {calls : List EngineCall}

theorem Handled.state {outcome : Outcome} {next : Recompiler} {later : List EngineCall}
    (handled : Handled loading Says r calls outcome next later) :
    next.compiling = r.compiling ∧
      DrainState.mk next.backlog later = DrainState.trigger loading ⟨r.backlog, calls⟩ := by
  cases handled with
  | deferred loads =>
      rw [loads]
      exact ⟨rfl, rfl⟩
  | empty idle none =>
      rw [idle, DrainState.trigger_idle none]
      exact ⟨rfl, rfl⟩
  | compiled idle some said =>
      rw [idle, DrainState.trigger_drains some]
      exact ⟨rfl, rfl⟩

theorem Handled.unmarked {outcome : Outcome} {next : Recompiler} {later : List EngineCall}
    (idle : r.compiling = false)
    (handled : Handled loading Says { r with compiling := true } calls outcome next later) :
    Handled loading Says r calls outcome { next with compiling := false } later := by
  cases handled with
  | deferred loads =>
      rw [← idle]
      exact .deferred loads
  | empty free none =>
      rw [← idle]
      exact .empty free none
  | compiled free some said =>
      rw [← idle]
      exact .compiled free some said

section

variable {site : Site σ} {Holds : Recompiler → List EngineCall → σ → Prop} {s : σ}

namespace QuietCompilation

theorem update (quiet : site.QuietCompilation loading Says Holds) (f : Recompiler → Recompiler)
    (holds : Holds r calls s) : Holds (f r) calls (site.recompiler.update f s) := by
  rw [Part.update, quiet.read holds]
  exact quiet.written (f r) holds

theorem modify (quiet : site.QuietCompilation loading Says Holds) (f : Recompiler → Recompiler)
    (holds : Holds r calls s) : ∃ t, site.recompiler.modify f s = .ok () t ∧ Holds (f r) calls t :=
  ⟨_, rfl, quiet.update f holds⟩

theorem compile_batch (quiet : site.QuietCompilation loading Says Holds) (lane : Lane)
    (options : CompileOptions) (batch : List BlueprintRef) (holds : Holds r calls s) :
    ∃ verdicts t, site.compileBatch lane options batch s = .ok () t ∧
      List.Forall₂ Says batch verdicts ∧
      Holds (r.judged verdicts) (calls ++ batch.map .compile) t := by
  induction batch generalizing r calls s with
  | nil => exact ⟨[], s, rfl, .nil, by simpa [judged_nil] using holds⟩
  | cons blueprint rest ih =>
      obtain ⟨log, t, compiling, verdict, compiled⟩ := quiet.compiled blueprint options holds
      obtain ⟨u, counting, counted⟩ := quiet.modify (countCompilation log.hasErrors) compiled
      have noted := quiet.noted (compiledRecord lane blueprint log) counted
      obtain ⟨verdicts, finish, later, said, last⟩ := ih noted
      rw [judged_cons] at last
      refine ⟨log.hasErrors :: verdicts, finish, ?_, .cons verdict said, by simpa using last⟩
      exact (Action.bind_of_ok compiling).trans ((Action.bind_of_ok counting).trans later)

theorem compile_lane (quiet : site.QuietCompilation loading Says Holds) (lane : Lane)
    (holds : Holds r calls s) :
    ∃ verdicts t, site.compileLane lane s = .ok (r.backlog.lane lane).entries t ∧
      List.Forall₂ Says (r.backlog.lane lane).entries verdicts ∧
      Holds ((r.takeLane lane).2.judged verdicts)
        (calls ++ (r.backlog.lane lane).entries.map .compile) t := by
  have taken := quiet.written (r.takeLane lane).2 holds
  have taking : site.recompiler.step (takeLane lane) s =
      .ok (r.backlog.lane lane).entries (site.recompiler.write (r.takeLane lane).2 s) := by
    rw [← quiet.read holds]
    rfl
  have looking (t : σ) : site.recompiler.get t = .ok (site.recompiler.read t) t := rfl
  obtain ⟨verdicts, t, compiling, said, last⟩ := quiet.compile_batch lane
    (site.recompiler.read (site.recompiler.write (r.takeLane lane).2 s)).settings.compileOptions
    (r.backlog.lane lane).entries taken
  refine ⟨verdicts, t, ?_, said, last⟩
  unfold Site.compileLane
  rw [Action.bind_of_ok taking, Action.bind_of_ok (looking _)]
  exact Action.bind_of_ok compiling

theorem drain_components (quiet : site.QuietCompilation loading Says Holds) (fuel : Nat)
    (holds : Holds r calls s) :
    ∃ verdicts t, site.drainComponents (fuel + 2) s = .ok r.backlog.components.entries t ∧
      List.Forall₂ Says r.backlog.components.entries verdicts ∧
      Holds ((r.takeLane .components).2.judged verdicts)
        (calls ++ r.backlog.components.entries.map .compile) t := by
  obtain ⟨verdicts, t, compiling, said, compiled⟩ := quiet.compile_lane .components holds
  rw [drainComponents, Action.bind_of_ok compiling]
  cases waiting : (r.backlog.lane .components).entries with
  | nil =>
      have none : r.backlog.components.entries = [] := waiting
      rw [none]
      rw [waiting] at said compiled
      exact ⟨verdicts, t, rfl, said, compiled⟩
  | cons first rest =>
      have some : r.backlog.components.entries = first :: rest := waiting
      obtain ⟨none, u, again, nothing, last⟩ := quiet.compile_lane .components compiled
      have ended : site.drainComponents (fuel + 1) t = .ok [] u := by
        rw [drainComponents, Action.bind_of_ok again]
        rfl
      cases nothing
      rw [waiting] at said
      rw [some]
      refine ⟨verdicts, u, ?_, said, ?_⟩
      · exact (Action.bind_of_ok ended).trans (by rw [List.append_nil]; rfl)
      · simpa [takeLane, Backlog.take, Backlog.setLane, Backlog.lane, judged, count,
          some] using last

/-- A drain comes to its end with everything compiled and nothing waiting. -/
theorem drain_closes (quiet : site.QuietCompilation loading Says Holds) (fuel : Nat)
    (holds : Holds r calls s) :
    ∃ verdicts t, site.drain (fuel + 2) s =
        site.closing r.backlog.components.entries r.backlog.classes.entries t ∧
      List.Forall₂ Says (r.backlog.components.entries ++ r.backlog.classes.entries) verdicts ∧
      Holds (judged verdicts { r with backlog := {} }) (calls ++
        (r.backlog.components.entries ++ r.backlog.classes.entries).map .compile) t := by
  obtain ⟨early, middle, first, components, compiled⟩ := quiet.drain_components fuel holds
  obtain ⟨late, after, second, classes, finished⟩ := quiet.compile_lane .classes compiled
  have both : (((r.takeLane .components).2.judged early).takeLane .classes).2.judged late =
      judged (early ++ late) { r with backlog := {} } := by
    rw [← judged_append]
    rfl
  rw [both, List.append_assoc, ← List.map_append] at finished
  refine ⟨early ++ late, after, ?_, List.rel_append components classes, finished⟩
  rw [drain_eq, Action.bind_of_ok first, Action.bind_of_ok second]
  rfl

/-- Outside of a drain, a trigger that finds something waiting and no load open comes to its end
with everything compiled, and takes its mark away however that ends. -/
theorem trigger_closes (quiet : site.QuietCompilation false Says Holds) (fuel : Nat)
    (holds : Holds r calls s) (idle : r.compiling = false) (some : r.backlog ≠ {}) :
    ∃ verdicts t, site.trigger (fuel + 2) s =
        (site.closing r.backlog.components.entries r.backlog.classes.entries).ensuring
          (site.recompiler.update fun r => { r with compiling := false }) t ∧
      List.Forall₂ Says (r.backlog.components.entries ++ r.backlog.classes.entries) verdicts ∧
      Holds (judged verdicts { r with compiling := true, backlog := {} }) (calls ++
        (r.backlog.components.entries ++ r.backlog.classes.entries).map .compile) t := by
  have marked := quiet.update (fun r => { r with compiling := true }) holds
  obtain ⟨verdicts, t, draining, said, last⟩ := quiet.drain_closes fuel marked
  have filled : r.backlog.isEmpty = false := by
    rw [Bool.eq_false_iff]
    exact fun none => some ((Backlog.is_empty_iff _).mp none)
  refine ⟨verdicts, t, ?_, said, last⟩
  simp only [Site.trigger, Site.attempt, Action.ensuring, quiet.read holds, idle, quiet.gate marked,
    quiet.read marked, filled, draining, Bool.false_eq_true, if_false]

theorem trigger_empty (quiet : site.QuietCompilation false Says Holds) (fuel : Nat)
    (holds : Holds r calls s) (idle : r.compiling = false) (none : r.backlog = {}) :
    ∃ t, site.trigger fuel s = .ok .empty t ∧ Holds r calls t := by
  have marked := quiet.update (fun r => { r with compiling := true }) holds
  have cleared := quiet.update (fun r => { r with compiling := false }) marked
  have empty : r.backlog.isEmpty = true := (Backlog.is_empty_iff _).mpr none
  have same : { r with compiling := false } = r := by rw [← idle]
  rw [same] at cleared
  refine ⟨_, ?_, cleared⟩
  simp only [Site.trigger, Site.attempt, Action.ensuring, quiet.read holds, idle, quiet.gate marked,
    quiet.read marked, empty, Bool.false_eq_true, if_false, if_true]

end QuietCompilation

namespace QuietEngine

theorem drain (quiet : site.QuietEngine loading Says Holds) (fuel : Nat) (holds : Holds r calls s) :
    ∃ verdicts t, site.drain (fuel + 2) s =
        .ok (.compiled r.backlog.components.entries r.backlog.classes.entries) t ∧
      List.Forall₂ Says (r.backlog.components.entries ++ r.backlog.classes.entries) verdicts ∧
      Holds (r.drained verdicts) (DrainState.mk r.backlog calls).drain.calls t := by
  obtain ⟨verdicts, after, draining, said, compiled⟩ := quiet.drain_closes fuel holds
  obtain ⟨purged, collecting, collected⟩ := quiet.collected
    (site.recompiler.read after).settings.keepFlags (site.recompiler.read after).settings.fullPurge
    compiled
  obtain ⟨record, closed⟩ := site.closing_of_ok r.backlog.components.entries
    r.backlog.classes.entries collecting
  have last := quiet.noted record (quiet.update finished collected)
  rw [List.map_append, ← List.append_assoc] at last
  exact ⟨verdicts, _, draining.trans closed, said, last⟩

theorem attempt (quiet : site.QuietEngine loading Says Holds) (fuel : Nat)
    (holds : Holds r calls s) :
    ∃ outcome next later t, site.attempt (fuel + 2) s = .ok outcome t ∧
      Handled loading Says r calls outcome next later ∧ Holds next later t := by
  simp only [Site.attempt, quiet.gate holds, quiet.read holds]
  cases loads : loading with
  | true =>
      have writing (record : Record) (s : σ) : site.write record s = .ok () (site.note record s) :=
        rfl
      obtain ⟨t, counting, held⟩ := quiet.modify
        (Recompiler.count fun t => { t with deferred := t.deferred + 1 }) (quiet.noted _ holds)
      rw [if_pos rfl, Action.bind_of_ok (writing _ _), Action.bind_of_ok counting]
      exact ⟨_, _, _, t, rfl, .deferred rfl, held⟩
  | false =>
      cases empty : r.backlog.isEmpty with
      | true =>
          exact ⟨_, _, _, s, rfl, .empty rfl ((Backlog.is_empty_iff _).mp empty), holds⟩
      | false =>
          have some : r.backlog ≠ {} := fun none => by
            rw [(Backlog.is_empty_iff _).mpr none] at empty
            cases empty
          obtain ⟨verdicts, t, draining, said, held⟩ := quiet.drain fuel holds
          exact ⟨_, _, _, t, draining, .compiled rfl some said, held⟩

theorem trigger (quiet : site.QuietEngine loading Says Holds) (fuel : Nat) (holds : Holds r calls s)
    (idle : r.compiling = false) :
    ∃ outcome next later t, site.trigger (fuel + 2) s = .ok outcome t ∧
      Handled loading Says r calls outcome next later ∧ Holds next later t := by
  have marked := quiet.update (fun r => { r with compiling := true }) holds
  obtain ⟨outcome, next, later, t, attempting, handled, held⟩ := quiet.attempt fuel marked
  have cleared := quiet.update (fun r => { r with compiling := false }) held
  refine ⟨outcome, _, later, _, ?_, handled.unmarked idle, cleared⟩
  simp only [Site.trigger, quiet.read holds, idle, Bool.false_eq_true, if_false]
  exact Action.ensuring_of_ok attempting

end QuietEngine

end

end Recompiler.Site

end BlueprintBridge
