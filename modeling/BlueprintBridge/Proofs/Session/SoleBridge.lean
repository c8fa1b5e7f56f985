import BlueprintBridge.Proofs.Host.QuietSubscribers
import BlueprintBridge.Proofs.Session.Station

/-!
# A host with one running bridge

Where the handler of a bridge is the only one on each channel, and no script makes a step, the host
works as one whose subscribers do not call back. What it announces reaches the bridge: news of
types puts blueprints on the backlog, and the end of a retrying or of a load triggers.
-/

namespace BlueprintBridge

set_option autoImplicit false

def DrainState.queueOwners (g : TypeGraph) (refs : List ClassRef) (state : DrainState) :
    DrainState :=
  { state with backlog := state.backlog.putAll (Intake.ordersOf g refs) }

def DrainState.receive {H : Type} (host : AssemblyHost H) (state : DrainState) :
    Announcement → DrainState
  | .pendingProcessed _ _ => state.trigger host.loads.isLoadingAny
  | .assemblyLoaded _ => state.trigger host.loads.isLoadingAny
  | news => state.queueOwners host.graph (Intake.classesOf host.graph news)

def Announcement.isOfType : Announcement → Bool
  | newClass _ => true
  | newStruct _ => true
  | newEnum _ => true
  | pendingProcessed _ _ => false
  | assemblyLoaded _ => false

namespace DrainState

variable {H : Type}

theorem queue_owners_append (g : TypeGraph) (first second : List ClassRef) (state : DrainState) :
    state.queueOwners g (first ++ second) = (state.queueOwners g first).queueOwners g second := by
  simp only [queueOwners, Intake.ordersOf, List.filterMap_append, Backlog.put_all_append]

theorem receive_types (host : AssemblyHost H) {news : List Announcement}
    (types : ∀ a ∈ news, a.isOfType = true) (state : DrainState) :
    news.foldl (receive host) state =
      state.queueOwners host.graph (news.flatMap (Intake.classesOf host.graph)) := by
  induction news generalizing state with
  | nil => rfl
  | cons a rest ih =>
      have first : state.receive host a =
          state.queueOwners host.graph (Intake.classesOf host.graph a) := by
        have type := types a (List.mem_cons_self ..)
        cases a with
        | newClass | newStruct | newEnum => rfl
        | pendingProcessed | assemblyLoaded => cases type
      rw [List.foldl_cons, first, ih fun b member => types b (List.mem_cons_of_mem _ member),
        List.flatMap_cons, queue_owners_append]

theorem receive_signal (host : AssemblyHost H) {signal : Announcement}
    (ends : signal.isOfType = false) (state : DrainState) :
    state.receive host signal = state.trigger host.loads.isLoadingAny ∧
      Intake.classesOf host.graph signal = [] := by
  cases signal with
  | pendingProcessed | assemblyLoaded => exact ⟨rfl, rfl⟩
  | newClass | newStruct | newEnum => cases ends

end DrainState

namespace Session

/-- What a station has to drain, with the calls that were made since the step began. -/
def World.drainState (station : Nat) (w : World) : DrainState where
  backlog := (w.station station).recompiler.backlog
  calls := callsIn w.trace

/-- A bridge runs in a slot, alone on all channels, outside of a drain; no script makes a step. -/
structure SoleBridge (slot station : Nat) (w : World) : Prop where
  tenant : ∃ bridge, w.slots.get? slot = some (.bridge bridge) ∧ bridge.station = station
  alone : ∀ kind, (w.host.channels.get kind).handlers.map Prod.snd = [.intake station]
  held : (w.station station).holders ≠ 0
  idle : (w.station station).recompiler.compiling = false
  compile_quiet : ∀ script ∈ w.compileScripts, script.steps = []
  collect_quiet : ∀ script ∈ w.collectScripts, script = []

variable {slot station : Nat} {w t : World} {run : Script → Act Unit}

theorem SoleBridge.quiet (sole : SoleBridge slot station w) :
    QuietStation station w.host w.slots (w.station station).holders false
      (w.drainState station) w where
  host := rfl
  slots := rfl
  holders := rfl
  running := sole.idle
  backlog := rfl
  calls := rfl
  compile_quiet := sole.compile_quiet
  collect_quiet := sole.collect_quiet

theorem SoleBridge.after (sole : SoleBridge slot station w) {host : AssemblyHost Handler}
    {state : DrainState} (channels : host.channels = w.host.channels)
    (quiet : QuietStation station host w.slots (w.station station).holders false state t) :
    SoleBridge slot station t where
  tenant := by
    rw [quiet.slots]
    exact sole.tenant
  alone kind := by
    rw [quiet.host, channels]
    exact sole.alone kind
  held := by
    rw [quiet.holders]
    exact sole.held
  idle := quiet.running
  compile_quiet := quiet.compile_quiet
  collect_quiet := quiet.collect_quiet

theorem QuietStation.drain_state_eq {host : AssemblyHost Handler}
    {slots : Catalog Nat Tenant} {holders : Nat} {running : Bool} {state : DrainState}
    (quiet : QuietStation station host slots holders running state w) :
    w.drainState station = state := by
  rw [World.drainState, quiet.backlog, quiet.calls]

theorem QuietStation.react {host : AssemblyHost Handler}
    {slots : Catalog Nat Tenant} {holders : Nat}
    {state : DrainState} (quiet : QuietStation station host slots holders false state w)
    (nothing : ∀ w, run [] w = .ok () w) (fuel : Nat) (news : Announcement) :
    ∃ t, Session.react run (fuel + 2) station news w = .ok () t ∧
      QuietStation station host slots holders false (state.receive host news) t := by
  cases news with
  | newClass ref =>
      obtain ⟨t, fed, after⟩ := quiet.intake fun g b => Intake.queueClass g b ref
      rw [Intake.queue_class_value] at after
      exact ⟨t, Action.bind_of_ok fed, after⟩
  | newStruct ref =>
      obtain ⟨t, fed, after⟩ := quiet.intake fun g b => do
        return ((), ← Intake.queueStruct g b ref)
      have value := Intake.queue_struct_value host.graph state.backlog ref
      simp only [Logged.value_bind, Logged.value_pure, value] at after
      exact ⟨t, fed, after⟩
  | newEnum ref =>
      obtain ⟨t, fed, after⟩ := quiet.intake fun g b => do
        return ((), ← Intake.queueEnum g b ref)
      have value := Intake.queue_enum_value host.graph state.backlog ref
      simp only [Logged.value_bind, Logged.value_pure, value] at after
      exact ⟨t, fed, after⟩
  | pendingProcessed processed remaining =>
      obtain ⟨_, t, triggering, after⟩ := quiet.trigger nothing fuel
      exact ⟨t, Action.bind_of_ok triggering, after⟩
  | assemblyLoaded assembly =>
      have noted := quiet.note ⟨.debug, s!"Assembly '{assembly}' loaded, attempting recompile"⟩
      obtain ⟨_, t, triggering, after⟩ := noted.trigger nothing fuel
      exact ⟨t, (Action.bind_of_ok ((Action.bind_of_ok (changing _ w)).trans triggering)), after⟩

/-- The handler of the bridge comes back, having heard the announcement. -/
theorem SoleBridge.call_handler (sole : SoleBridge slot station w)
    (nothing : ∀ w, run [] w = .ok () w) (fuel : Nat) (news : Announcement) :
    ∃ t, callHandler run (fuel + 2) news (.intake station) w = .ok () t ∧
      QuietStation station w.host w.slots (w.station station).holders false
        ((w.drainState station).receive w.host news) t := by
  obtain ⟨t, reacting, after⟩ := sole.quiet.hold.react nothing fuel news
  have held : holding station (react run (fuel + 2) station news) w = .ok () (t.letGo station) :=
    Action.ensuring_of_ok reacting
  refine ⟨_, (Action.bind_of_ok (getting w)).trans ?_, after.let_go⟩
  rw [if_neg sole.held]
  exact held

theorem host_site_quiet (nothing : ∀ w, run [] w = .ok () w) (fuel slot station : Nat) :
    (hostSite run (fuel + 2)).QuietSubscribers (SoleBridge slot station) (World.drainState station)
      fun host news _ state => state.receive host news where
  lawful := World.hostPart_lawful
  written host w sole channels := by
    have same (kind : EventKind) : (host.channels.get kind).handlers.map Prod.snd =
        [.intake station] := by
      rw [channels]
      exact sole.alone kind
    exact ⟨⟨sole.tenant, same, sole.held, sole.idle, sole.compile_quiet,
      sole.collect_quiet⟩, rfl⟩
  noted record w sole := by
    have noted := sole.quiet.note record
    exact ⟨sole.after rfl noted, noted.host, noted.drain_state_eq⟩
  called news handler w sole listens := by
    have only : handler = .intake station := by
      rw [AssemblyHost.listeners, show (hostSite run (fuel + 2)).host.read w = w.host from rfl,
        sole.alone] at listens
      exact List.mem_singleton.mp listens
    subst only
    obtain ⟨t, calling, after⟩ := sole.call_handler nothing fuel news
    exact ⟨t, calling, sole.after rfl after, after.host, after.drain_state_eq⟩

end Session

end BlueprintBridge
