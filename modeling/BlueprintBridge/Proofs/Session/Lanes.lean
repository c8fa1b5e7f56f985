import BlueprintBridge.Proofs.Graph.Standing
import BlueprintBridge.Proofs.Session.Watch

/-!
# The lanes of a drain

A blueprint is compiled among the components exactly if its class was one when it was announced
last. A class below another that is moved across the boundary changes sides without being
announced, so its blueprint is left in the lane of before.
-/

namespace BlueprintBridge.Session

set_option autoImplicit false

def GraphEdit.sparesClasses : GraphEdit → Bool
  | .addClass _ => false
  | .removeClass _ => false
  | .editClass _ _ _ => false
  | .setSuper _ _ => false
  | .bind _ _ => false
  | _ => true

/-- Work that changes classes, if it does, by definitions alone. -/
def Step.isDefining (slot : Nat) : Step → Bool
  | .edit change => change.sparesClasses
  | step => step.isWork slot

variable {slot : Nat} {base : ClassRef} {g : TypeGraph}

theorem Step.work_of_defining {step : Step} (defining : step.isDefining slot = true) :
    step.isWork slot = true := by
  cases step with
  | edit change => rfl
  | _ => exact defining

theorem based_of_edit (based : g.Based base) {change : GraphEdit}
    (spares : change.sparesClasses = true) : (change.apply g).2.Based base := by
  cases change with
  | ensurePackage name =>
      simp only [GraphEdit.apply, TypeGraph.ensurePackage]
      split
      · exact based
      · exact based.change (.addPackage g ⟨name, true⟩)
  | createBlueprint package name =>
      simp only [GraphEdit.apply, TypeGraph.createBlueprint]
      cases g.package? package with
      | none => exact based
      | some _ => exact based.change (.addBlueprint g ⟨name, .managed, some package, none⟩)
  | destroyBlueprint ref => exact based.of_classes rfl rfl
  | addPackage package => exact based.change (.addPackage g package)
  | addBlueprint blueprint => exact based.change (.addBlueprint g blueprint)
  | removeBlueprint ref => exact based.of_classes rfl rfl
  | addStruct s =>
      simp only [GraphEdit.apply, editOr]
      split
      · next added => exact based.change (.addStruct added)
      · exact based
  | addEnum e =>
      simp only [GraphEdit.apply, editOr]
      split
      · next added => exact based.change (.addEnum added)
      · exact based
  | setStructReferences ref refs =>
      simp only [GraphEdit.apply]
      cases changed : g.setStructReferences ref refs with
      | error e => exact based
      | ok next => exact based.change (.setStructReferences changed)
  | setEnumReferences ref refs => exact based.change (.setEnumReferences g ref refs)
  | _ => cases spares

theorem based_of_host_step {host : AssemblyHost Handler} (based : host.graph.Based base)
    (step : HostStep) : (step.effect host).1.graph.Based base := by
  cases step with
  | defineClass d =>
      have generated := based.generate d
      change (host.defined d).graph.Based base
      unfold AssemblyHost.defined
      split <;> simpa [*] using generated
  | defineStruct s =>
      change (host.published (host.graph.defineStruct s)).graph.Based base
      cases defined : host.graph.defineStruct s with
      | error e => exact based
      | ok pair => exact based.change (TypeGraph.define_struct_change defined)
  | defineEnum e =>
      change (host.published (host.graph.defineEnum e)).graph.Based base
      cases defined : host.graph.defineEnum e with
      | error e => exact based
      | ok pair => exact based.change (TypeGraph.define_enum_change defined)
  | processPending => exact based.settle host.parked
  | beginLoad | finishLoad | openGate | closeGate => exact based

theorem based_of_step {host : AssemblyHost Handler} (based : host.graph.Based base) {step : Step}
    (defining : step.isDefining slot = true) : (step.effect host).1.graph.Based base := by
  cases step with
  | host step => exact based_of_host_step based step
  | edit change => exact based_of_edit based defining
  | _ => exact based

variable {station fuel : Nat} {w : World} {setup : Setup} {said : List Mention}
  {steps : List Step}

theorem Kept.all_based (kept : Kept slot station said w) (based : w.host.graph.Based base)
    (defining : ∀ step ∈ steps, step.isDefining slot = true) :
    ∀ turn ∈ (watch (fuel + 2) w steps).1, turn.graph.Based base := by
  induction steps generalizing w said with
  | nil => simp [watch]
  | cons step rest ih =>
      have here := defining step (List.mem_cons_self ..)
      have works := Step.work_of_defining here
      have after : (turnOf (fuel + 2) w step).graph.Based base := by
        rw [kept.sole.graph_of_turn fuel works]
        exact based_of_step based here
      intro turn member
      rcases List.mem_cons.mp member with rfl | later
      · exact after
      · exact ih (kept.turn fuel works).kept after
          (fun other listed => defining other (List.mem_cons_of_mem _ listed)) turn later

theorem VacantHost.all_based (vacant : VacantHost setup.slot w)
    (started : (top (fuel + 2) w (.startup setup)).1.reply.isOutcome = true)
    (based : w.host.graph.Based base)
    (defining : ∀ step ∈ steps, step.isDefining setup.slot = true) :
    ∀ turn ∈ (watch (fuel + 2) w (.startup setup :: steps)).1, turn.graph.Based base := by
  obtain ⟨station, first, graph⟩ := vacant.turn started
  rw [← graph] at based
  intro turn member
  rcases List.mem_cons.mp member with rfl | later
  · exact based
  · exact first.kept.all_based based defining turn later

theorem graph_of_mention {turns : List Turn} {m : Mention}
    (member : m ∈ turns.foldl Turn.still said) :
    m ∈ said ∨ ∃ turn ∈ turns, m.graph = turn.graph := by
  induction turns generalizing said with
  | nil => exact .inl member
  | cons turn rest ih =>
      rcases ih member with earlier | ⟨other, later, same⟩
      · unfold Turn.still at earlier
        split at earlier
        · cases earlier
        · rcases List.mem_append.mp earlier with before | here
          · exact .inl before
          · obtain ⟨ref, _, rfl⟩ := List.mem_map.mp here
            exact .inr ⟨turn, List.mem_cons_self .., rfl⟩
      · exact .inr ⟨other, List.mem_cons_of_mem _ later, same⟩

/-- A class is on different sides in two graphs, and one on its way up in both was moved across. -/
def MovedAcross (g next : TypeGraph) (ref : ClassRef) : Prop :=
  ∃ moved, g.Ascends ref moved ∧ next.Ascends ref moved ∧ g.place? moved ≠ next.place? moved ∧
    g.isComponent moved ≠ next.isComponent moved

/-- What a drain compiled, given what was announced since the one before and the graph it found. -/
structure DrainedLanes (said : List Mention) (g : TypeGraph) (calls : List EngineCall)
    (components classes : List BlueprintRef) : Prop where
  calls : calls = components.map .compile ++ classes.map .compile ++ [.collect]
  /-- Every blueprint was compiled on the side that its class was on when it was announced last. -/
  sides : ∀ blueprint ∈ components ++ classes, ∃ m, lastMention? said blueprint = some m ∧
    (blueprint ∈ components ↔ m.graph.isComponent m.ref = true) ∧
    (blueprint ∈ classes ↔ m.graph.isComponent m.ref = false)
  /-- Where that is not the side its class is on now, a class above was moved across since. -/
  moved : ∀ blueprint ∈ components ++ classes, ∀ m, lastMention? said blueprint = some m →
    m.graph.isComponent m.ref ≠ g.isComponent m.ref → MovedAcross m.graph g m.ref

theorem lane_eq_components {m : Mention} :
    m.lane = .components ↔ m.graph.isComponent m.ref = true := by
  unfold Mention.lane Intake.laneOf
  split <;> simp [*]

theorem lane_eq_classes {m : Mention} :
    m.lane = .classes ↔ m.graph.isComponent m.ref = false := by
  unfold Mention.lane Intake.laneOf
  split <;> simp [*]

/-- What waits where a turn begins to drain, in terms of what was said. -/
theorem sides_of_backlog (said : List Mention) (blueprint : BlueprintRef)
    (waits : blueprint ∈
      (backlogFor said).components.entries ++ (backlogFor said).classes.entries) :
    ∃ m, lastMention? said blueprint = some m ∧
      (blueprint ∈ (backlogFor said).components.entries ↔ m.graph.isComponent m.ref = true) ∧
      (blueprint ∈ (backlogFor said).classes.entries ↔ m.graph.isComponent m.ref = false) := by
  have first := mem_backlog_for said .components blueprint
  have second := mem_backlog_for said .classes blueprint
  obtain ⟨m, found⟩ : ∃ m, lastMention? said blueprint = some m := by
    rw [← Option.isSome_iff_exists]
    rcases List.mem_append.mp waits with component | other
    · exact Option.isSome_map ▸ Option.isSome_of_eq_some (first.mp component)
    · exact Option.isSome_map ▸ Option.isSome_of_eq_some (second.mp other)
  rw [found, Option.map_some, Option.some_inj] at first second
  exact ⟨m, found, first.trans lane_eq_components, second.trans lane_eq_classes⟩

/-- A bridge that runs alone, whose engine does not call back, on a host whose classes are only
defined and redefined. Each drain compiles first the blueprints whose classes were components when
they were announced last, and then the others; a class can have changed sides since only if one
above it was moved across. -/
theorem drain_follows_last_mention (setup : Setup) (fuel : Nat) (enough : 2 ≤ fuel) (w : World)
    (vacant : VacantHost setup.slot w)
    (started : (top fuel w (.startup setup)).1.reply.isOutcome = true)
    (rooted : w.host.graph.Rooted) (steps : List Step)
    (defining : ∀ step ∈ steps, step.isDefining setup.slot = true) (i : Nat)
    (inside : i < (watch fuel w (.startup setup :: steps)).1.length)
    (drained : .collect ∈ (watch fuel w (.startup setup :: steps)).1[i].calls) :
    let turns := (watch fuel w (.startup setup :: steps)).1
    ∃ components classes, DrainedLanes (pending (turns.take i) ++ turns[i].mentions)
      turns[i].graph turns[i].calls components classes := by
  intro turns
  obtain ⟨fuel, rfl⟩ := Nat.exists_eq_add_of_le' enough
  have works : ∀ step ∈ steps, step.isWork setup.slot = true := fun step member =>
    Step.work_of_defining (defining step member)
  have split : turns = turns.take i ++ turns[i] :: turns.drop (i + 1) := by
    rw [← List.drop_eq_getElem_cons, List.take_append_drop]
  obtain ⟨station, t, turned⟩ := vacant.turn_of_run started works split
  have based : ∀ turn ∈ turns, turn.graph.Based w.host.graph.componentClass :=
    vacant.all_based started ⟨rooted, rfl⟩ defining
  have here := based turns[i] (List.getElem_mem inside)
  refine ⟨_, _, turned.settled.calls_of_drained drained, sides_of_backlog _, ?_⟩
  intro blueprint _ m found differs
  -- The mention was made in this turn or an earlier one, from a graph with the same base.
  have there : m.graph.Based w.host.graph.componentClass := by
    have member := List.mem_reverse.mp (List.mem_of_find?_eq_some found)
    rcases List.mem_append.mp member with before | now
    · rcases graph_of_mention before with none | ⟨turn, earlier, same⟩
      · cases none
      · exact same ▸ based turn (List.mem_of_mem_take earlier)
    · obtain ⟨ref, _, rfl⟩ := List.mem_map.mp now
      exact here
  exact TypeGraph.moved_of_component_ne there.rooted here.rooted
    (here.component.trans there.component.symm) differs

def movedDoor : List Step :=
  [.edit (.ensurePackage "/Script/Game"), .edit (.createBlueprint ⟨0, 0⟩ "BP_Door"),
    .edit (.createBlueprint ⟨0, 0⟩ "BP_SlidingDoor"), .edit (.createBlueprint ⟨0, 0⟩ "BP_Window"),
    .host (.defineClass { name := ⟨"Game", "", "Door"⟩, blueprint := some ⟨0, 0⟩ }),
    .host (.defineClass { name := ⟨"Game", "", "Window"⟩, blueprint := some ⟨2, 0⟩ }),
    .host (.defineClass
      { name := ⟨"Game", "", "SlidingDoor"⟩, superName := some ⟨"Game", "", "Door"⟩,
        blueprint := some ⟨1, 0⟩ }),
    .host (.defineClass
      { name := ⟨"Game", "", "Door"⟩, superName := some TypeGraph.componentName,
        blueprint := some ⟨0, 0⟩ }),
    .host .processPending]

/-- The drain at the end of it compiles what was said of each class last. -/
theorem moved_door_follows_last_mention :
    let turns := (watch 3 {} (.startup plainSetup :: movedDoor)).1
    2 ≤ 3 ∧ VacantHost plainSetup.slot {} ∧
      (top 3 {} (.startup plainSetup)).1.reply.isOutcome = true ∧
      ({} : World).host.graph.Rooted ∧
      (∀ step ∈ movedDoor, step.isDefining plainSetup.slot = true) ∧
      ∃ inside : 9 < turns.length, .collect ∈ turns[9].calls ∧
        ∃ components classes, DrainedLanes (pending (turns.take 9) ++ turns[9].mentions)
          turns[9].graph turns[9].calls components classes := by
  intro turns
  have vacant := vacant_initial plainSetup.slot
  have started : (top 3 {} (.startup plainSetup)).1.reply.isOutcome = true := by decide +kernel
  have defining : ∀ step ∈ movedDoor, step.isDefining plainSetup.slot = true := by decide
  have inside : 9 < (watch 3 {} (.startup plainSetup :: movedDoor)).1.length := by decide +kernel
  have drained : .collect ∈ (watch 3 {} (.startup plainSetup :: movedDoor)).1[9].calls := by
    decide +kernel +revert
  exact ⟨by decide, vacant, started, TypeGraph.rooted_initial, defining, inside, drained,
    drain_follows_last_mention plainSetup 3 (by decide) {} vacant started TypeGraph.rooted_initial
      movedDoor defining 9 inside drained⟩

/-- When that drain starts, the sliding door is a component and waits among the classes; it is
compiled after the window, which is no component. -/
theorem sliding_door_left_behind :
    let before := (watch 3 {} (.startup plainSetup :: movedDoor.dropLast)).2
    before.backlogOf plainSetup.slot = ⟨⟨[⟨0, 0⟩]⟩, ⟨[⟨2, 0⟩, ⟨1, 0⟩]⟩⟩ ∧
      before.host.graph.generatedClass? ⟨1, 0⟩ = some ⟨4, 0⟩ ∧
      before.host.graph.isComponent ⟨4, 0⟩ = true ∧
      before.host.graph.generatedClass? ⟨2, 0⟩ = some ⟨3, 0⟩ ∧
      before.host.graph.isComponent ⟨3, 0⟩ = false ∧
      callsIn (top 3 before (.host .processPending)).1.trace =
        [.compile ⟨0, 0⟩, .compile ⟨2, 0⟩, .compile ⟨1, 0⟩, .collect] := by
  decide +kernel

end BlueprintBridge.Session
