import BlueprintBridge.Proofs.Registry
import BlueprintBridge.Proofs.Session.Station

/-!
# Drains through a registry

An entry may wait for long, and what it names may have changed when it is compiled: the verdict on a
blueprint is the one on the type graph that the drain finds. Whatever the verdict is, the drain
consumes the entry, and the totals are all that is left of it when the collector is called. What
the collector puts on the backlog or makes of the graph stays.
-/

namespace BlueprintBridge

set_option autoImplicit false

/-- Everything that waits, in the order in which a drain takes it. -/
def Backlog.queued (backlog : Backlog) : List BlueprintRef :=
  backlog.components.entries ++ backlog.classes.entries

def Recompiler.compiledAll (fails : BlueprintRef → Bool) (r : Recompiler) : Recompiler :=
  { r with
    backlog := {}
    compiling := true
    stats := { r.stats with
      compiled := r.stats.compiled + r.backlog.queued.length
      failed := r.stats.failed + r.backlog.queued.countP fails } }

def Recompiler.consumed (fails : BlueprintRef → Bool) (r : Recompiler) : Recompiler :=
  let drains := if r.backlog = {} then 0 else 1
  { r with
    backlog := {}
    stats := { r.stats with
      cycles := r.stats.cycles + drains
      compiled := r.stats.compiled + r.backlog.queued.length
      failed := r.stats.failed + r.backlog.queued.countP fails
      collections := r.stats.collections + drains } }

namespace Recompiler

variable {fails : BlueprintRef → Bool} {r : Recompiler}

theorem consumed_of_empty (none : r.backlog = {}) : r.consumed fails = r := by
  obtain ⟨settings, backlog, compiling, stats⟩ := r
  cases none
  rfl

theorem consumed_of_some (idle : r.compiling = false) (some : r.backlog ≠ {}) :
    r.consumed fails = { (r.compiledAll fails).finished with compiling := false } := by
  simp [consumed, compiledAll, finished, count, idle, some]

theorem judged_eq_compiled_all :
    judged (r.backlog.queued.map fails) { r with compiling := true, backlog := {} } =
      r.compiledAll fails := by
  have failed : (r.backlog.queued.map fails).count true = r.backlog.queued.countP fails := by
    rw [List.count, List.countP_map]
    exact List.countP_congr fun blueprint _ => by simp
  simp [judged, count, compiledAll, failed]

end Recompiler

namespace Session

variable {station : Nat} {w : World}

/-- A station that does not drain, and whose engine compiles through these compilers. No assembly
is being loaded, and no compilation makes a step. -/
structure Awaiting (compilers : CompilerRegistry) (station : Nat) (w : World) : Prop where
  compilers : w.compilersOf station = some compilers
  idle : (w.station station).recompiler.compiling = false
  loaded : w.host.loads.isLoadingAny = false
  compile_quiet : ∀ script ∈ w.compileScripts, script.steps = []

/-- What a drain did by the time it calls the collector: it compiled everything that waited at a
station in order, counted it and what could not be built of it, and left the host as it was. -/
structure CompiledAll (station : Nat) (w v : World) : Prop where
  calls : callsIn v.trace = callsIn w.trace ++
    (w.station station).recompiler.backlog.queued.map .compile
  recompiler : (v.station station).recompiler =
    (w.station station).recompiler.compiledAll fun blueprint => w.host.graph.Unbuildable blueprint
  host : v.host = w.host
  collect_scripts : v.collectScripts ⊆ w.collectScripts

/-- How a drain that compiled these blueprints ends, given how its collection did: where that left
the world, but for the mark of the drain, the totals if the collection came back, and the log. -/
inductive Closes (station : Nat) (components classes : List BlueprintRef) :
    EStateM.Result Interruption World Unit → EStateM.Result Interruption World Outcome → Prop where
  | returned {t u : World}
      (recompiler : (u.station station).recompiler =
        { (t.station station).recompiler.finished with compiling := false })
      (host : u.host = t.host) (calls : callsIn u.trace = callsIn t.trace) :
      Closes station components classes (.ok () t) (.ok (.compiled components classes) u)
  | interrupted {interruption : Interruption} {t u : World}
      (recompiler : (u.station station).recompiler =
        { (t.station station).recompiler with compiling := false })
      (host : u.host = t.host) (calls : callsIn u.trace = callsIn t.trace) :
      Closes station components classes (.error interruption t) (.error interruption u)

/-- A drain consumed everything that waited at a station: it compiled it in order, counted it and
what could not be built of it, and left the host as it was. -/
structure Consumed (station : Nat) (w : World) (outcome : Outcome) (t : World) : Prop where
  outcome : outcome =
    let backlog := (w.station station).recompiler.backlog
    if backlog = {} then .empty else .compiled backlog.components.entries backlog.classes.entries
  calls : callsIn t.trace = callsIn w.trace ++
    let backlog := (w.station station).recompiler.backlog
    backlog.queued.map .compile ++ if backlog = {} then [] else [.collect]
  recompiler : (t.station station).recompiler =
    (w.station station).recompiler.consumed fun blueprint => w.host.graph.Unbuildable blueprint
  host : t.host = w.host

/-- What a trigger does at a station: it compiles everything that waits and then ends as the
collector does; and it consumes what waits if nothing does, or if collections make no step. -/
structure ConsumesAll (run : Script → Act Unit) (fuel station : Nat) (w : World) : Prop where
  drains : (w.station station).recompiler.backlog ≠ {} →
    ∃ v, CompiledAll station w v ∧
      Closes station (w.station station).recompiler.backlog.components.entries
        (w.station station).recompiler.backlog.classes.entries
        (engineCollect run station (w.station station).recompiler.settings.keepFlags
          (w.station station).recompiler.settings.fullPurge v)
        (trigger run fuel station w)
  settles : (w.station station).recompiler.backlog = {} ∨
    (∀ script ∈ w.collectScripts, script = []) →
    ∃ outcome t, trigger run fuel station w = .ok outcome t ∧ Consumed station w outcome t

/-- The verdicts of compilations through the hook alone are known beforehand. -/
theorem verdicts_eq {times : Nat} {g : TypeGraph} {batch : List BlueprintRef}
    {verdicts : List Bool}
    (said : List.Forall₂ (SaidBy (some (CompilerRegistry.hooked (times + 1))) g) batch verdicts) :
    verdicts = batch.map fun blueprint => decide (g.Unbuildable blueprint) := by
  induction said with
  | nil => rfl
  | @cons blueprint failed batch verdicts verdict _ ih =>
      obtain ⟨options, same⟩ := verdict _ rfl
      have fails := CompilerRegistry.hooked_fails_iff times g blueprint options
      have known : failed = decide (g.Unbuildable blueprint) := by
        rw [← same, Bool.eq_iff_iff, fails, decide_eq_true_iff]
      rw [List.map_cons, ← ih, ← known]

section

variable (run : Script → Act Unit) (station : Nat) (components classes : List BlueprintRef)

theorem closes_of_closing (v : World) :
    Closes station components classes
      (engineCollect run station (v.station station).recompiler.settings.keepFlags
        (v.station station).recompiler.settings.fullPurge v)
      (((recompilerSite run station).closing components classes).ensuring
        ((recompilerSite run station).recompiler.update fun r => { r with compiling := false })
        v) := by
  have unmarked (t : World) : (((World.recompilerPart station).update
      (fun r => { r with compiling := false }) t).station station).recompiler =
        { (t.station station).recompiler with compiling := false } :=
    congrArg Station.recompiler (t.station_set_same station _)
  cases collection : engineCollect run station (v.station station).recompiler.settings.keepFlags
      (v.station station).recompiler.settings.fullPurge v with
  | ok value t =>
      obtain ⟨record, closed⟩ :=
        (recompilerSite run station).closing_of_ok components classes collection
      have written := Called.note ((World.recompilerPart station).update .finished t) record
      have counted : ((((World.recompilerPart station).update .finished t).note record).station
          station).recompiler = (t.station station).recompiler.finished := by
        rw [written.station_eq]
        exact congrArg Station.recompiler (t.station_set_same station _)
      rw [Action.ensuring_of_ok closed]
      refine .returned ?_ written.host_eq (written.calls.trans (List.append_nil _))
      exact (unmarked _).trans
        (congrArg (fun r : Recompiler => { r with compiling := false }) counted)
  | error interruption t =>
      have cut := (recompilerSite run station).closing_of_error components classes collection
      rw [Action.ensuring_of_error cut]
      exact .interrupted (unmarked t) rfl rfl

end

def CompilesFrom (compilers : CompilerRegistry) (station : Nat) (w : World) (r : Recompiler)
    (calls : List EngineCall) (v : World) : Prop :=
  CompilesThrough station w.host (some compilers) r calls v ∧ v.collectScripts ⊆ w.collectScripts

namespace Awaiting

variable {times : Nat} {compilers : CompilerRegistry} {run : Script → Act Unit}

theorem compiles (awaiting : Awaiting compilers station w) (nothing : ∀ w, run [] w = .ok () w) :
    (recompilerSite run station).QuietCompilation false (SaidBy (some compilers) w.host.graph)
      (CompilesFrom compilers station w) := by
  have site : (recompilerSite run station).QuietCompilation w.host.loads.isLoadingAny
      (SaidBy (some compilers) w.host.graph) (CompilesFrom compilers station w) := by
    apply recompiler_site_compiles nothing And.left
    · exact fun holds called =>
        ⟨holds.1.called called, List.Subset.trans called.collect_scripts holds.2⟩
    · exact fun next holds => ⟨holds.1.written next, holds.2⟩
  rwa [awaiting.loaded] at site

theorem starts (awaiting : Awaiting compilers station w) :
    CompilesFrom compilers station w (w.station station).recompiler (callsIn w.trace) w :=
  ⟨⟨rfl, rfl, awaiting.compilers, rfl, awaiting.compile_quiet⟩, List.Subset.refl _⟩

theorem drains (awaiting : Awaiting (.hooked (times + 1)) station w)
    (nothing : ∀ w, run [] w = .ok () w) (fuel : Nat)
    (some : (w.station station).recompiler.backlog ≠ {}) :
    ∃ v, CompiledAll station w v ∧
      Closes station (w.station station).recompiler.backlog.components.entries
        (w.station station).recompiler.backlog.classes.entries
        (engineCollect run station (w.station station).recompiler.settings.keepFlags
          (w.station station).recompiler.settings.fullPurge v)
        (trigger run (fuel + 2) station w) := by
  obtain ⟨verdicts, v, triggering, said, through, scripts⟩ :=
    (awaiting.compiles nothing).trigger_closes fuel awaiting.starts awaiting.idle some
  have recompiler : (v.station station).recompiler = (w.station station).recompiler.compiledAll
      fun blueprint => w.host.graph.Unbuildable blueprint := by
    rw [through.recompiler, verdicts_eq said]
    exact Recompiler.judged_eq_compiled_all
  have compiled : CompiledAll station w v := ⟨through.calls, recompiler, through.host, scripts⟩
  have settings : (v.station station).recompiler.settings =
      (w.station station).recompiler.settings := by rw [recompiler]; rfl
  have closes := closes_of_closing run station
    (w.station station).recompiler.backlog.components.entries
    (w.station station).recompiler.backlog.classes.entries v
  rw [settings, ← triggering] at closes
  exact ⟨v, compiled, closes⟩

theorem settles_empty (awaiting : Awaiting compilers station w)
    (nothing : ∀ w, run [] w = .ok () w) (fuel : Nat)
    (none : (w.station station).recompiler.backlog = {}) :
    ∃ t, trigger run fuel station w = .ok .empty t ∧ Consumed station w .empty t := by
  obtain ⟨t, triggering, through, _⟩ :=
    (awaiting.compiles nothing).trigger_empty fuel awaiting.starts awaiting.idle none
  refine ⟨t, triggering, ?_⟩
  exact {
    outcome := by rw [if_pos none]
    calls := by simp [through.calls, none, Backlog.queued]
    recompiler := by rw [through.recompiler, Recompiler.consumed_of_empty none]
    host := through.host }

/-- Where collections make no step, a drain is over with what it had compiled before. -/
theorem settles_quiet (awaiting : Awaiting (.hooked (times + 1)) station w)
    (nothing : ∀ w, run [] w = .ok () w) (fuel : Nat)
    (some : (w.station station).recompiler.backlog ≠ {})
    (quiet : ∀ script ∈ w.collectScripts, script = []) :
    ∃ outcome t, trigger run (fuel + 2) station w = .ok outcome t ∧
      Consumed station w outcome t := by
  obtain ⟨v, compiled, closes⟩ := awaiting.drains nothing fuel some
  obtain ⟨t, collecting, called⟩ := engine_collect nothing
    (fun script left => quiet script (compiled.collect_scripts left)) station
    (w.station station).recompiler.settings.keepFlags
    (w.station station).recompiler.settings.fullPurge
  rw [collecting] at closes
  generalize trigger run (fuel + 2) station w = result at closes ⊢
  cases closes with
  | @returned _ u recompiler host calls =>
      refine ⟨_, u, rfl, ?_⟩
      exact {
        outcome := by rw [if_neg some]
        calls := by simp [calls, called.calls, compiled.calls, some]
        recompiler := by
          rw [recompiler, called.station_eq, compiled.recompiler,
            Recompiler.consumed_of_some awaiting.idle some]
        host := by rw [host, called.host_eq, compiled.host] }

end Awaiting

/-- Nothing but the hook was ever installed in a registry. Then its compilations fail exactly the
blueprints that cannot be built; and a drain through it comes to the call of the collector having
consumed everything that waited, counted each compilation and each blueprint that cannot be built,
and left the type graph as it was. What it leaves in the end is up to the collector. -/
theorem hooked_registry_fails_unbuildable (times : Nat) :
    (∀ g blueprint options,
      ((CompilerRegistry.hooked (times + 1)).compile g blueprint options).hasErrors = true ↔
        g.Unbuildable blueprint) ∧
    ∀ station w, Awaiting (.hooked (times + 1)) station w → ∀ depth fuel,
      ConsumesAll (runScript (depth + 1)) (fuel + 2) station w := by
  refine ⟨CompilerRegistry.hooked_fails_iff times, fun station w awaiting depth fuel => ?_⟩
  refine ⟨awaiting.drains (run_nothing depth) fuel, fun settled => ?_⟩
  by_cases none : (w.station station).recompiler.backlog = {}
  · exact ⟨.empty, awaiting.settles_empty (run_nothing depth) (fuel + 2) none⟩
  · exact awaiting.settles_quiet (run_nothing depth) fuel none (settled.resolve_left none)

def registrySetup : Setup where
  slot := 0
  registry := 0
  throughRegistry := true
  settings := none

/-- A door with its class, a window whose class is removed, a lamp that makes room for a table, a
chair without a class and a native wall, all of them waiting at a bridge. -/
def staleEntries : List Step :=
  [.startup registrySetup, .registry 0 .installHook,
    .edit (.ensurePackage "/Script/Game"),
    .edit (.createBlueprint ⟨0, 0⟩ "BP_Door"), .edit (.createBlueprint ⟨0, 0⟩ "BP_Window"),
    .edit (.createBlueprint ⟨0, 0⟩ "BP_Lamp"), .edit (.createBlueprint ⟨0, 0⟩ "BP_Chair"),
    .edit (.addBlueprint { name := "BP_Wall", kind := .native }),
    .host (.defineClass { name := ⟨"Game", "", "Door"⟩, blueprint := some ⟨0, 0⟩ }),
    .host (.defineClass { name := ⟨"Game", "", "Window"⟩, blueprint := some ⟨1, 0⟩ }),
    .host (.defineClass { name := ⟨"Game", "", "Lamp"⟩, blueprint := some ⟨2, 0⟩ }),
    .slot 0 (.enqueue .components ⟨3, 0⟩), .slot 0 (.enqueue .components ⟨4, 0⟩),
    .edit (.removeClass ⟨3, 0⟩), .edit (.destroyBlueprint ⟨2, 0⟩),
    .edit (.createBlueprint ⟨0, 0⟩ "BP_Table")]

def staleWorld : World := (topAll 3 {} staleEntries).2

/-- The window, the lamp and the chair fail. -/
theorem stale_entries_consumed :
    Awaiting (.hooked 2) 0 staleWorld ∧ (∃ v, CompiledAll 0 staleWorld v) ∧
      ∃ t, trigger (runScript 1) 2 0 staleWorld =
          .ok (.compiled [⟨3, 0⟩, ⟨4, 0⟩] [⟨0, 0⟩, ⟨1, 0⟩, ⟨2, 0⟩]) t ∧
        Consumed 0 staleWorld (.compiled [⟨3, 0⟩, ⟨4, 0⟩] [⟨0, 0⟩, ⟨1, 0⟩, ⟨2, 0⟩]) t ∧
        (t.station 0).recompiler.stats =
          { cycles := 1, compiled := 5, failed := 3, collections := 1 } := by
  have awaiting : Awaiting (.hooked 2) 0 staleWorld :=
    { compilers := by decide +kernel
      idle := by decide +kernel
      loaded := by decide +kernel
      compile_quiet := by decide +kernel }
  have consumes := (hooked_registry_fails_unbuildable 1).2 0 staleWorld awaiting 0 0
  obtain ⟨v, compiled, _⟩ := consumes.drains (by decide +kernel)
  obtain ⟨outcome, t, triggering, consumed⟩ := consumes.settles (.inr (by decide +kernel))
  have same : outcome = .compiled [⟨3, 0⟩, ⟨4, 0⟩] [⟨0, 0⟩, ⟨1, 0⟩, ⟨2, 0⟩] :=
    consumed.outcome.trans (by decide +kernel)
  subst same
  refine ⟨awaiting, ⟨v, compiled⟩, t, triggering, consumed, ?_⟩
  rw [consumed.recompiler]
  decide +kernel

/-- A door waits at a bridge. Whoever collects garbage puts it back and then destroys it. -/
def refillingCollector : List Step :=
  [.startup registrySetup, .edit (.ensurePackage "/Script/Game"),
    .edit (.createBlueprint ⟨0, 0⟩ "BP_Door"),
    .host (.defineClass { name := ⟨"Game", "", "Door"⟩, blueprint := some ⟨0, 0⟩ }),
    .scriptCollect [("again", .slot 0 (.enqueue .classes ⟨0, 0⟩)),
      ("gone", .edit (.destroyBlueprint ⟨0, 0⟩))]]

/-- The drain compiles the door, and is over with the door waiting again and gone from the graph. -/
theorem collector_refills_backlog :
    let w := (topAll 4 {} refillingCollector).2
    let t := stateAfter (trigger (runScript 2) 2 0 w)
    Awaiting (.hooked 1) 0 w ∧
      valueOf? (trigger (runScript 2) 2 0 w) = some (.compiled [] [⟨0, 0⟩]) ∧
      (t.station 0).recompiler.backlog = { classes := ⟨[⟨0, 0⟩]⟩ } ∧
      (w.host.graph.blueprint? ⟨0, 0⟩).isSome = true ∧
      t.host.graph.blueprint? ⟨0, 0⟩ = none := by
  refine ⟨?_, by decide +kernel, by decide +kernel, by decide +kernel, by decide +kernel⟩
  exact {
    compilers := by decide +kernel
    idle := by decide +kernel
    loaded := by decide +kernel
    compile_quiet := by decide +kernel }

end Session

end BlueprintBridge
