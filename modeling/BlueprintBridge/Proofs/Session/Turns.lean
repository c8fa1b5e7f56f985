import BlueprintBridge.Proofs.Session.Startup

/-!
# The turns of a session with one bridge

A bridge runs alone; the host is worked on and the graph edited from outside, and the bridge is
triggered. What a step makes of the host is a function of the host, and what it announces goes
to the bridge, with at most one signal at the end.
-/

namespace BlueprintBridge.Session

set_option autoImplicit false

def HostStep.effect (host : AssemblyHost Handler) :
    HostStep → AssemblyHost Handler × List Announcement
  | defineClass d => (host.defined d, host.newsOfDefining d)
  | defineStruct s =>
    (host.published (host.graph.defineStruct s),
      AssemblyHost.newsOfPublishing .newStruct (host.graph.defineStruct s))
  | defineEnum e =>
    (host.published (host.graph.defineEnum e),
      AssemblyHost.newsOfPublishing .newEnum (host.graph.defineEnum e))
  | processPending => (host.retried, host.newsOfRetrying)
  | beginLoad assembly => (host.begun assembly, [])
  | finishLoad assembly => (host.finished assembly, host.newsOfFinishing assembly)
  | openGate assembly => (host.begun assembly, [])
  | closeGate assembly => (host.finished assembly, [])

def Step.isOutside : Step → Bool
  | .host _ => true
  | .edit _ => true
  | .ask _ => true
  | _ => false

def Step.isWork (slot : Nat) : Step → Bool
  | .slot id .trigger => id = slot
  | step => step.isOutside

def Step.effect (host : AssemblyHost Handler) : Step → AssemblyHost Handler × List Announcement
  | .host step => step.effect host
  | .edit change => ({ host with graph := (change.apply host.graph).2 }, [])
  | _ => (host, [])

variable {slot station : Nat} {w t : World} {run : Script → Act Unit}

/-- A world that a step left, in which the bridge received what the host announced. -/
structure Worked (slot station : Nat) (w t : World)
    (effect : AssemblyHost Handler × List Announcement) : Prop where
  sole : SoleBridge slot station t
  host : t.host = effect.1
  state : t.drainState station = effect.2.foldl (DrainState.receive effect.1) (w.drainState station)

theorem SoleBridge.rests (sole : SoleBridge slot station w) (fuel : Nat) :
    (hostSite run (fuel + 2)).Rests (SoleBridge slot station) (World.drainState station) w w.host
      (w.drainState station) :=
  ⟨sole, rfl, rfl⟩

theorem heard_sole {host : AssemblyHost Handler}
    (alone : ∀ kind, (host.channels.get kind).handlers.map Prod.snd = [.intake station]) :
    AssemblyHost.heard (fun host news _ state => state.receive host news) host =
      DrainState.receive host := by
  funext state news
  rw [AssemblyHost.heard, AssemblyHost.listeners, alone]
  rfl

theorem Worked.of_rests {effect : AssemblyHost Handler × List Announcement} {fuel : Nat}
    (rests : (hostSite run (fuel + 2)).Rests (SoleBridge slot station)
      (World.drainState station) t effect.1
      (effect.2.foldl
        (AssemblyHost.heard (fun host news _ state => state.receive host news) effect.1)
        (w.drainState station))) : Worked slot station w t effect := by
  have host : t.host = effect.1 := rests.host
  refine ⟨rests.ready, host, ?_⟩
  rw [rests.seen, heard_sole (host ▸ rests.ready.alone)]

theorem perform_finish_load (sole : SoleBridge slot station w)
    (nothing : ∀ w, run [] w = .ok () w) (fuel : Nat) (assembly : String) :
    ∃ t, performHost run (fuel + 2) (.finishLoad assembly) w =
        .ok (if w.host.loads.isLoading assembly then .nothing
          else .failed (.host (.assemblyNotLoading assembly))) t ∧
      Worked slot station w t (w.host.finished assembly, w.host.newsOfFinishing assembly) := by
  obtain ⟨t, finishing, rests⟩ :=
    (host_site_quiet nothing fuel slot station).finish_load assembly (sole.rests fuel)
  refine ⟨t, (Action.bind_of_ok finishing).trans ?_, .of_rests rests⟩
  split <;> rfl

theorem perform_host (sole : SoleBridge slot station w)
    (nothing : ∀ w, run [] w = .ok () w) (fuel : Nat) (step : HostStep) :
    ∃ reply t, performHost run (fuel + 2) step w = .ok reply t ∧
      Worked slot station w t (step.effect w.host) := by
  have quiet := host_site_quiet nothing fuel slot station
  have start :
      (hostSite run (fuel + 2)).Rests (SoleBridge slot station) (World.drainState station) w w.host
      (w.drainState station) := sole.rests fuel
  cases step with
  | defineClass d =>
      obtain ⟨t, defining, rests⟩ := quiet.define_class d start
      exact ⟨_, t, Action.bind_of_ok defining, .of_rests rests⟩
  | defineStruct s =>
      obtain ⟨t, defining, rests⟩ := quiet.define_struct s start
      exact ⟨_, t, Action.bind_of_ok defining, .of_rests rests⟩
  | defineEnum e =>
      obtain ⟨t, defining, rests⟩ := quiet.define_enum e start
      exact ⟨_, t, Action.bind_of_ok defining, .of_rests rests⟩
  | processPending =>
      obtain ⟨t, retrying, rests⟩ := quiet.process_pending start
      exact ⟨_, t, Action.bind_of_ok retrying, .of_rests rests⟩
  | beginLoad assembly =>
      obtain ⟨t, beginning, rests⟩ := quiet.begin_load assembly start
      exact ⟨_, t, Action.bind_of_ok beginning, .of_rests rests⟩
  | finishLoad assembly =>
      obtain ⟨t, finishing, worked⟩ := perform_finish_load sole nothing fuel assembly
      exact ⟨_, t, finishing, worked⟩
  | openGate assembly =>
      have rests := quiet.write_host (w.host.begun assembly) start rfl
      exact ⟨_, _, rfl, .of_rests rests⟩
  | closeGate assembly =>
      have rests := quiet.write_host (w.host.finished assembly) start rfl
      exact ⟨_, _, rfl, .of_rests rests⟩

theorem perform_outside (sole : SoleBridge slot station w)
    (nothing : ∀ w, run [] w = .ok () w) (fuel : Nat) {step : Step}
    (outside : step.isOutside = true) :
    ∃ reply t, perform run (fuel + 2) step w = .ok reply t ∧
      Worked slot station w t (step.effect w.host) := by
  cases step with
  | host step => exact perform_host sole nothing fuel step
  | edit change =>
      have rests := (host_site_quiet nothing fuel slot station).write_host
        { w.host with graph := (change.apply w.host.graph).2 } (sole.rests fuel) rfl
      exact ⟨_, _, rfl, .of_rests rests⟩
  | ask query => exact ⟨_, w, rfl, sole, rfl, rfl⟩
  | _ => cases outside

theorem Step.work_cases {step : Step} (works : step.isWork slot = true) :
    step.isOutside = true ∨ step = .slot slot .trigger := by
  cases step with
  | slot id inner =>
      cases inner with
      | trigger => exact .inr (by rw [of_decide_eq_true works])
      | _ => cases works
  | _ => exact .inl works

theorem perform_trigger (sole : SoleBridge slot station w)
    (nothing : ∀ w, run [] w = .ok () w) (fuel : Nat) :
    ∃ reply t, perform run (fuel + 2) (.slot slot .trigger) w = .ok reply t ∧
      SoleBridge slot station t ∧ t.host = w.host ∧
      t.drainState station = (w.drainState station).trigger w.host.loads.isLoadingAny := by
  obtain ⟨bridge, filled, same⟩ := sole.tenant
  obtain ⟨outcome, t, triggering, triggered⟩ := sole.quiet.hold.trigger nothing fuel
  have held : holding station (do return .outcome (← trigger run (fuel + 2) station)) w =
      .ok (Reply.outcome outcome) (t.letGo station) :=
    Action.ensuring_of_ok (Action.bind_of_ok triggering)
  have free := triggered.let_go
  refine ⟨.outcome outcome, t.letGo station, ?_, sole.after rfl free, free.host,
    free.drain_state_eq⟩
  subst same
  refine (Action.bind_of_ok (getting w)).trans ?_
  rw [filled]
  exact held

def Step.announced (w : World) : Step → List ClassRef
  | .startup setup => setup.visited w.host.graph
  | step => (step.effect w.host).2.flatMap (Intake.classesOf (step.effect w.host).1.graph)

theorem HostStep.effect_news (host : AssemblyHost Handler) (step : HostStep) :
    ∃ types signals, (step.effect host).2 = types ++ signals ∧
      (∀ a ∈ types, a.isOfType = true) ∧
      (signals = [] ∨ ∃ signal, signals = [signal] ∧ signal.isOfType = false) := by
  have published {kind : ObjectKind} (news : Ref kind → Announcement)
      (of_type : ∀ ref, (news ref).isOfType = true)
      (result : Except GraphError (Ref kind × TypeGraph)) :
      ∀ a ∈ AssemblyHost.newsOfPublishing news result, a.isOfType = true := by
    intro a member
    cases result with
    | error => cases member
    | ok pair =>
        rw [List.mem_singleton.mp member]
        exact of_type pair.1
  cases step with
  | defineClass d =>
      refine ⟨host.newsOfDefining d, [], (List.append_nil _).symm, fun a member => ?_, .inl rfl⟩
      unfold AssemblyHost.newsOfDefining at member
      split at member
      · rw [List.mem_singleton.mp member]
        rfl
      · cases member
  | defineStruct s =>
      exact ⟨_, [], (List.append_nil _).symm, published .newStruct (fun _ => rfl) _, .inl rfl⟩
  | defineEnum e =>
      exact ⟨_, [], (List.append_nil _).symm, published .newEnum (fun _ => rfl) _, .inl rfl⟩
  | processPending =>
      refine ⟨_, _, rfl, fun a member => ?_, .inr ⟨_, rfl, rfl⟩⟩
      obtain ⟨ref, _, rfl⟩ := List.mem_map.mp member
      rfl
  | finishLoad assembly =>
      refine ⟨[], host.newsOfFinishing assembly, rfl, (by simp), ?_⟩
      unfold AssemblyHost.newsOfFinishing
      split
      · exact .inr ⟨_, rfl, rfl⟩
      · exact .inl rfl
  | beginLoad | openGate | closeGate => exact ⟨[], [], rfl, by simp, .inl rfl⟩

theorem Step.effect_news (host : AssemblyHost Handler) (step : Step) :
    ∃ types signals, (step.effect host).2 = types ++ signals ∧
      (∀ a ∈ types, a.isOfType = true) ∧
      (signals = [] ∨ ∃ signal, signals = [signal] ∧ signal.isOfType = false) := by
  cases step with
  | host step => exact step.effect_news host
  | _ => exact ⟨[], [], rfl, by simp, .inl rfl⟩

theorem Step.announced_outside {step : Step} (outside : step.isOutside = true) :
    step.announced w = (step.effect w.host).2.flatMap
      (Intake.classesOf (step.effect w.host).1.graph) := by
  cases step with
  | startup setup => cases outside
  | _ => rfl

/-- The bridge receives what a step announces, and then there may be a trigger. -/
theorem Step.hear_effect (host : AssemblyHost Handler) (step : Step) (state : DrainState) :
    ∃ loading, (step.effect host).2.foldl (DrainState.receive (step.effect host).1) state =
      DrainState.trigger loading (state.queueOwners (step.effect host).1.graph
        ((step.effect host).2.flatMap (Intake.classesOf (step.effect host).1.graph))) := by
  obtain ⟨types, signals, news, typed, ends⟩ := step.effect_news host
  rw [news, List.foldl_append, DrainState.receive_types _ typed, List.flatMap_append]
  rcases ends with rfl | ⟨signal, rfl, ended⟩
  -- Where there is no signal, nothing is compiled, as if a load were open.
  · exact ⟨true, by simp [DrainState.trigger]⟩
  · obtain ⟨heard, none⟩ := DrainState.receive_signal (step.effect host).1 ended (state.queueOwners
      (step.effect host).1.graph (types.flatMap (Intake.classesOf (step.effect host).1.graph)))
    exact ⟨(step.effect host).1.loads.isLoadingAny, by simpa [none] using heard⟩

end BlueprintBridge.Session
