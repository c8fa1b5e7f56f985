import BlueprintBridge.Proofs.Session.Watch

/-!
# One drain for each cycle of loads

Loads nest and overlap, and each that ends triggers the bridge. While another one is open that does
nothing at all; the last one to end compiles every blueprint that was announced since the last
drain, once each, and then collects garbage once.
-/

namespace BlueprintBridge.Session

set_option autoImplicit false

/-- The calls compile everything that was said, each blueprint once and on the side where its latest
mention puts it, and then collect garbage once if there was anything. -/
structure CompilesSaid (said : List Mention) (components classes : List BlueprintRef)
    (calls : List EngineCall) : Prop where
  once : (components ++ classes).Nodup
  in_components : ∀ blueprint, blueprint ∈ components ↔
    (lastMention? said blueprint).map Mention.lane = some .components
  in_classes : ∀ blueprint, blueprint ∈ classes ↔
    (lastMention? said blueprint).map Mention.lane = some .classes
  compiled : calls = components.map .compile ++ classes.map .compile ++
    if components ++ classes = [] then [] else [.collect]

/-- What the end of a load does to a bridge, given what was announced since the last drain. -/
structure LoadEnd (slot : Nat) (said : List Mention) (assembly : String) (w : World)
    (report : Report) (t : World) : Prop where
  reply : report.reply = if w.host.loads.isLoading assembly then .nothing
    else .failed (.host (.assemblyNotLoading assembly))
  held : t.host.loads.isLoadingAny = true →
    callsIn report.trace = [] ∧ t.backlogOf slot = w.backlogOf slot
  drained : w.host.loads.isLoading assembly = true → t.host.loads.isLoadingAny = false →
    t.backlogOf slot = {} ∧
      ∃ components classes, CompilesSaid said components classes (callsIn report.trace)

variable {slot station : Nat} {w : World} {said : List Mention}

theorem receive_finishing (host : AssemblyHost Handler) (assembly : String) (state : DrainState) :
    (host.newsOfFinishing assembly).foldl (DrainState.receive (host.finished assembly)) state =
      if host.loads.isLoading assembly then
        state.trigger (host.finished assembly).loads.isLoadingAny
      else state := by
  unfold AssemblyHost.newsOfFinishing
  split <;> rfl

theorem trigger_compiles_said (said : List Mention) :
    (DrainState.trigger false { backlog := backlogFor said }).backlog = {} ∧
      ∃ components classes, CompilesSaid said components classes
        (DrainState.trigger false { backlog := backlogFor said }).calls := by
  have exclusive := Backlog.put_all_exclusive (said.filterMap Mention.order?)
  have once : ((backlogFor said).components.entries ++ (backlogFor said).classes.entries).Nodup :=
    List.nodup_append.mpr ⟨exclusive.nodup .components, exclusive.nodup .classes,
      fun blueprint first other second same =>
        exclusive.apart blueprint first (same ▸ second)⟩
  have empty_iff := (backlogFor said).eq_empty_iff
  have emptied : (DrainState.trigger false { backlog := backlogFor said }).backlog = {} := by
    by_cases none : backlogFor said = {}
    · rw [DrainState.trigger_idle none, none]
    · rw [DrainState.trigger_drains none]
      rfl
  refine ⟨emptied, _, _, once, mem_backlog_for said .components, mem_backlog_for said .classes, ?_⟩
  by_cases none : backlogFor said = {}
  · rw [DrainState.trigger_idle none, none]
    rfl
  · rw [DrainState.trigger_drains none, if_neg fun empty => none (empty_iff.mpr empty)]
    rfl

/-- A bridge that runs alone, whose engine does not call back. Every load that ends while others
are open leaves what waits; the last one drains all that was announced since the last drain. -/
theorem load_end_drains_once (setup : Setup) (fuel : Nat) (enough : 2 ≤ fuel) (w : World)
    (vacant : VacantHost setup.slot w)
    (started : (top fuel w (.startup setup)).1.reply.isOutcome = true) (steps : List Step)
    (works : ∀ step ∈ steps, step.isWork setup.slot = true) (assembly : String) :
    let past := watch fuel w (.startup setup :: steps)
    let finish := top fuel past.2 (.host (.finishLoad assembly))
    LoadEnd setup.slot (pending past.1) assembly past.2 finish.1 finish.2 := by
  intro past finish
  obtain ⟨fuel, rfl⟩ := Nat.exists_eq_add_of_le' enough
  obtain ⟨station, kept⟩ := vacant.run started works
  have fresh : SoleBridge setup.slot station { past.2 with trace := [] } := { kept.sole with }
  obtain ⟨t, ran, worked⟩ :=
    perform_finish_load fresh (run_nothing (fuel + 1)) fuel assembly
  have same : finish = (⟨_, t.trace, t.snapshot⟩, t) := top_of_ok ran
  have waiting : past.2.backlogOf setup.slot = backlogFor (pending past.1) := kept.backlog_of
  have host : t.host = past.2.host.finished assembly := worked.host
  -- The trigger looks at the loads that are open once this one has ended.
  have state : t.drainState station = if past.2.host.loads.isLoading assembly then
      DrainState.trigger t.host.loads.isLoadingAny { backlog := backlogFor (pending past.1) }
      else { backlog := backlogFor (pending past.1) } := by
    rw [worked.state, receive_finishing, kept.sole.drain_state_before, waiting, host]
  have backlog : t.backlogOf setup.slot = (t.drainState station).backlog := worked.sole.backlog_of
  rw [same]
  exact {
    reply := rfl
    held := fun loading => by
      have still : t.drainState station = { backlog := backlogFor (pending past.1) } := by
        rw [state, loading, DrainState.trigger_loading, ite_self]
      exact ⟨congrArg DrainState.calls still, by rw [backlog, waiting, still]⟩
    drained := fun active idle => by
      have through : t.drainState station =
          DrainState.trigger false { backlog := backlogFor (pending past.1) } := by
        rw [state, if_pos active, idle]
      have compiled := trigger_compiles_said (pending past.1)
      rw [← through] at compiled
      rw [backlog]
      exact compiled }

def overlappingLoads : List Step :=
  [.edit (.ensurePackage "/Script/Game"), .edit (.createBlueprint ⟨0, 0⟩ "BP_Door"),
    .edit (.createBlueprint ⟨0, 0⟩ "BP_Health"), .host (.beginLoad "Game"),
    .host (.beginLoad "Plugins"),
    .host (.defineClass { name := ⟨"Game", "", "Door"⟩, blueprint := some ⟨0, 0⟩ }),
    .host (.defineClass
      { name := ⟨"Game", "", "Health"⟩, superName := some TypeGraph.componentName,
        blueprint := some ⟨1, 0⟩ }),
    .host (.finishLoad "Game")]

/-- The load that ends first compiles nothing, and the other one the component and then the
actor. -/
theorem overlapping_loads_drain_once :
    let past := watch 3 {} (.startup plainSetup :: overlappingLoads)
    let finish := top 3 past.2 (.host (.finishLoad "Plugins"))
    2 ≤ 3 ∧ VacantHost plainSetup.slot {} ∧
      (top 3 {} (.startup plainSetup)).1.reply.isOutcome = true ∧
      (∀ step ∈ overlappingLoads, step.isWork plainSetup.slot = true) ∧
      LoadEnd plainSetup.slot (pending past.1) "Plugins" past.2 finish.1 finish.2 ∧
      past.1.flatMap Turn.calls = [] ∧
      callsIn finish.1.trace = [.compile ⟨1, 0⟩, .compile ⟨0, 0⟩, .collect] := by
  have vacant := vacant_initial plainSetup.slot
  have started : (top 3 {} (.startup plainSetup)).1.reply.isOutcome = true := by decide +kernel
  have works : ∀ step ∈ overlappingLoads, step.isWork plainSetup.slot = true := by decide
  exact ⟨by decide, vacant, started, works,
    load_end_drains_once plainSetup 3 (by decide) {} vacant started overlappingLoads works
      "Plugins",
    by decide +kernel, by decide +kernel⟩

end BlueprintBridge.Session
