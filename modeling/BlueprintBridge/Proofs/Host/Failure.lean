import BlueprintBridge.Host.AssemblyHost
import BlueprintBridge.Proofs.Action
import BlueprintBridge.Proofs.Graph.Generation
import BlueprintBridge.Proofs.Host.Trials

/-!
# Definitions that fail

A definition that a host refuses is neither announced nor parked, and one that fails while it is
parked is dropped. Either way it changes the graph exactly when it is left halfway: a class that
nobody hears of is registered, or has another parent.
-/

namespace BlueprintBridge.AssemblyHost.Site

set_option autoImplicit false

variable {σ H : Type}

/-- What a refused definition leaves: the state with another graph at most, and that only where
the definition is left halfway. -/
structure Refused (site : Site σ H) (d : ClassDefinition) (start finish : σ) : Prop where
  /-- No handler was called and nothing was written: the state is the one at the start with the
  host of the end. -/
  silent : finish = site.host.write (site.host.read finish) start
  parked : (site.host.read finish).parked = (site.host.read start).parked
  channels : (site.host.read finish).channels = (site.host.read start).channels
  loads : (site.host.read finish).loads = (site.host.read start).loads
  changed_iff : (site.host.read finish).graph ≠ (site.host.read start).graph ↔
    (site.host.read start).graph.Halfway d (site.host.read finish).graph

theorem define_class_error {site : Site σ H} {d : ClassDefinition} {start finish : σ}
    {e : HostError} (failed : site.defineClass d start = .ok (.error e) finish) :
    ∃ error next, (site.host.read start).graph.generate d = (.error error, next) ∧
      finish = site.host.write { site.host.read start with graph := next } start := by
  obtain ⟨answer, next, generation⟩ :
      ∃ answer next, (site.host.read start).graph.generate d = (answer, next) := ⟨_, _, rfl⟩
  simp only [defineClass] at failed
  obtain ⟨generated, placed, step, failed⟩ := Action.bind_eq_ok.mp failed
  simp only [Part.step, generation] at step
  cases step
  match answer with
  | .error error =>
      cases failed
      exact ⟨error, next, generation, rfl⟩
  | .ok (some ref) =>
      obtain ⟨_, _, _, failed⟩ := Action.bind_eq_ok.mp failed
      obtain ⟨_, _, _, failed⟩ := Action.bind_eq_ok.mp failed
      cases failed
  | .ok none =>
      obtain ⟨_, _, _, failed⟩ := Action.bind_eq_ok.mp failed
      obtain ⟨_, _, _, failed⟩ := Action.bind_eq_ok.mp failed
      cases failed

/-- A refused definition changes nothing but the graph, and a dropped one nothing but the graph
that the next trial starts with; each changes it exactly when it is left halfway. -/
theorem failed_definition_changes_graph_iff_halfway (site : Site σ H)
    (lawful : site.host.Lawful) :
    (∀ d start finish e, site.defineClass d start = .ok (.error e) finish →
      site.Refused d start finish) ∧
    ∀ (g : TypeGraph) (parked : List ClassDefinition),
      Trial.Account g (g.allTrials parked) (g.settle parked) ∧
      ∀ trial ∈ g.allTrials parked, ∀ e, trial.answer = .error e →
        (trial.after ≠ trial.before ↔ trial.before.Halfway trial.definition trial.after) := by
  constructor
  · intro d start finish e failed
    obtain ⟨error, next, generated, rfl⟩ := define_class_error failed
    have read := lawful.read_write { site.host.read start with graph := next } start
    refine ⟨by rw [read], by rw [read], by rw [read], by rw [read], ?_⟩
    rw [read, TypeGraph.halfway_iff]
    exact ⟨fun changed => ⟨⟨error, generated⟩, changed⟩, And.right⟩
  · intro g parked
    have account := g.settle_account parked
    refine ⟨account, fun trial member e failed => ?_⟩
    have run := account.successive.generate member
    rw [failed] at run
    rw [TypeGraph.halfway_iff]
    exact ⟨fun changed => ⟨⟨e, run⟩, changed⟩, And.right⟩

def bareSite : Site (AssemblyHost Unit) Unit where
  host := ⟨id, fun host _ => host⟩
  note _ host := host
  call _ _ := pure ()

theorem bare_site_lawful : bareSite.host.Lawful := ⟨fun _ _ => rfl, fun _ _ _ => rfl⟩

def demolished : AssemblyHost Unit :=
  let packaged := (TypeGraph.initial.addPackage ⟨"/Script/Game", true⟩).2
  let built := (packaged.addBlueprint ⟨"BP_Door", .managed, some ⟨0, 0⟩, none⟩).2
  { graph := (built.removeBlueprint ⟨0, 0⟩).2 }

def door : ClassDefinition := { name := ⟨"Game", "", "Door"⟩, blueprint := some ⟨0, 0⟩ }

theorem demolished_reachable : TypeGraph.Reachable demolished.graph := by
  have packaged : TypeGraph.Reachable (TypeGraph.initial.addPackage ⟨"/Script/Game", true⟩).2 :=
    .single (.addPackage _ _)
  have built := packaged.tail (.addBlueprint _ ⟨"BP_Door", .managed, some ⟨0, 0⟩, none⟩)
  exact built.tail (.removeBlueprint _ ⟨0, 0⟩ fun _ => by decide)

/-- The door is refused, and stays registered. -/
theorem refused_door_stays_registered :
    ∃ (start finish : AssemblyHost Unit) (e : HostError), TypeGraph.Reachable start.graph ∧
      bareSite.defineClass door start = .ok (.error e) finish ∧
      start.graph.findClass? door.name = none ∧
      finish.graph.findClass? door.name = some ⟨2, 0⟩ :=
  ⟨demolished, stateAfter (bareSite.defineClass door demolished),
    .graph (.staleReference .blueprint), demolished_reachable, rfl, by decide +kernel,
    by decide +kernel⟩

theorem demolished_door_halfway :
    bareSite.host.Lawful ∧
    (∃ e finish, bareSite.defineClass door demolished = .ok (.error e) finish ∧
      bareSite.Refused door demolished finish) ∧
    ∃ trial ∈ demolished.graph.allTrials [door],
      trial.answer = .error (.staleReference .blueprint) ∧
        (trial.after ≠ trial.before ↔ trial.before.Halfway trial.definition trial.after) := by
  obtain ⟨refused, dropped⟩ :=
    failed_definition_changes_graph_iff_halfway bareSite bare_site_lawful
  have failed : bareSite.defineClass door demolished =
      .ok (.error (.graph (.staleReference .blueprint)))
        (stateAfter (bareSite.defineClass door demolished)) := rfl
  have tried : (⟨door, demolished.graph, (demolished.graph.generate door).1,
      (demolished.graph.generate door).2⟩ : Trial) ∈ demolished.graph.allTrials [door] :=
    TypeGraph.mem_all_trials (List.mem_singleton_self _)
  have stale : (demolished.graph.generate door).1 = .error (.staleReference .blueprint) := rfl
  exact ⟨bare_site_lawful, ⟨_, _, failed, refused _ _ _ _ failed⟩, _, tried, stale,
    (dropped demolished.graph [door]).2 _ tried _ stale⟩

end BlueprintBridge.AssemblyHost.Site
