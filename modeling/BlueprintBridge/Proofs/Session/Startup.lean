import BlueprintBridge.Proofs.Event.Attachment
import BlueprintBridge.Proofs.Session.SoleBridge

/-!
# Starting a bridge on a host that nobody listens to

A bridge that is started where no channel has a handler and its slot is free runs from then on as
the only one. What its start-up visits is on the backlog, unless the trigger that ends the start-up
compiled it at once.
-/

namespace BlueprintBridge

set_option autoImplicit false

theorem Attachment.attach_handlers {H : Type} (handler : H) (id : Nat) {channels : Channels H}
    (no_handlers : ∀ kind, (channels.get kind).handlers = []) (kind : EventKind) :
    ((attach handler id channels).value.2.get kind).handlers.map Prod.snd = [handler] := by
  rw [attach, handlers_attach_to, no_handlers, List.nil_append]
  cases kind <;> rfl

def Intake.reconciled (g : TypeGraph) : List ClassRef :=
  (managedBlueprints g).filterMap g.generatedClass?

theorem Intake.reconcile_value (g : TypeGraph) (backlog : Backlog) :
    (reconcile g backlog).value.2 = backlog.putAll (ordersOf g (reconciled g)) :=
  queue_classes_value g backlog (reconciled g)

namespace Session

variable {slot station : Nat} {w t : World} {run : Script → Act Unit} {setup : Setup}

/-- Nobody listens to the host, a slot is free, and no script makes a step. -/
structure VacantHost (slot : Nat) (w : World) : Prop where
  no_handlers : ∀ kind, (w.host.channels.get kind).handlers = []
  free : w.slots.get? slot = none
  compile_quiet : ∀ script ∈ w.compileScripts, script.steps = []
  collect_quiet : ∀ script ∈ w.collectScripts, script = []

def attachedTo (host : AssemblyHost Handler) (station id : Nat) : AssemblyHost Handler :=
  { host with channels := (Attachment.attach (.intake station) id host.channels).value.2 }

/-- The classes that a bridge hears of while it is started. -/
def Setup.visited (setup : Setup) (g : TypeGraph) : List ClassRef :=
  setup.settings?.elim [] fun settings =>
    if settings.reconcileOnStartup then Intake.reconciled g else []

namespace QuietStation

variable {host : AssemblyHost Handler} {slots : Catalog Nat Tenant} {holders : Nat}
  {running : Bool} {state : DrainState}

theorem attach (quiet : QuietStation station host slots holders running state w) :
    ∃ attachment t, attachStation station w = .ok attachment t ∧
      QuietStation station (attachedTo host station w.nextSubscriber)
        slots holders running state t := by
  refine ⟨_, _, rfl, QuietStation.notes ?_ _⟩
  rw [quiet.host]
  exact { quiet with host := rfl }

theorem reconcile (quiet : QuietStation station host slots holders running state w) :
    ∃ t, reconcileStation station w = .ok () t ∧
      QuietStation station host slots holders running
        (state.queueOwners host.graph (Intake.reconciled host.graph)) t := by
  obtain ⟨t, visiting, visited⟩ := quiet.intake Intake.reconcile
  rw [Intake.reconcile_value] at visited
  exact ⟨_, (Action.bind_of_ok visiting).trans ((Action.bind_of_ok (getting t)).trans rfl),
    visited.note _⟩

/-- A station is brought up: attached, fed with what there is, and triggered. -/
theorem bring_up (quiet : QuietStation station host slots holders false state w)
    (nothing : ∀ w, run [] w = .ok () w) (fuel : Nat) {settings : Settings}
    (given : setup.settings? = some settings) :
    ∃ bridge t, bringUp run (fuel + 2) setup station settings w = .ok bridge t ∧
      bridge.station = station ∧
      QuietStation station (attachedTo host station w.nextSubscriber)
        slots holders false
        ((state.queueOwners host.graph (setup.visited host.graph)).trigger
          host.loads.isLoadingAny) t := by
  obtain ⟨attachment, attached, attaching, listening⟩ := quiet.attach
  obtain ⟨fed, feeding, ready⟩ : ∃ t,
      (if settings.reconcileOnStartup then reconcileStation station else pure ()) attached =
        .ok () t ∧
      QuietStation station (attachedTo host station w.nextSubscriber)
        slots holders false
        (state.queueOwners host.graph (setup.visited host.graph)) t := by
    simp only [Setup.visited, given, Option.elim]
    split
    · exact listening.reconcile
    · exact ⟨attached, rfl, listening⟩
  obtain ⟨startup, drained, triggering, done⟩ := ready.trigger nothing fuel
  refine ⟨⟨station, setup.registry, attachment, startup⟩, _, ?_, rfl,
    done.note ⟨.info, "Managed compiler module started"⟩⟩
  unfold bringUp
  rw [Action.bind_of_ok attaching]
  split
  · next visits =>
      rw [if_pos visits] at feeding
      exact (Action.bind_of_ok feeding).trans (Action.bind_of_ok triggering)
  · next skips =>
      rw [if_neg skips] at feeding
      cases feeding
      exact Action.bind_of_ok triggering

end QuietStation

theorem World.note_eq (w : World) (record : Record) :
    ∃ trace, w.note record = { w with trace } ∧ callsIn trace = callsIn w.trace := by
  unfold World.note
  split
  · exact ⟨_, rfl, by simp [callsIn, TraceEntry.call?]⟩
  · exact ⟨_, rfl, rfl⟩

namespace VacantHost

theorem open_station (vacant : VacantHost slot w) (setup : Setup) (settings : Settings) :
    ∃ station t, newStation setup settings w = .ok station t ∧
      QuietStation station w.host w.slots 1 false { calls := callsIn w.trace } t := by
  refine ⟨w.nextStation, _, rfl, ?_⟩
  have same := w.station_set_same w.nextStation
  exact {
    host := rfl
    slots := rfl
    holders := congrArg Station.holders (same _)
    running := congrArg (·.recompiler.compiling) (same _)
    backlog := congrArg (·.recompiler.backlog) (same _)
    calls := rfl
    compile_quiet := vacant.compile_quiet
    collect_quiet := vacant.collect_quiet }

theorem occupy (vacant : VacantHost slot w) {id : Nat} {bridge : Bridge} {state : DrainState}
    (quiet : QuietStation bridge.station (attachedTo w.host bridge.station id) w.slots 1 false
      state t) :
    ∃ u, fillSlot slot (.bridge bridge) t = .ok () u ∧ SoleBridge slot bridge.station u ∧
      u.host = t.host ∧ u.drainState bridge.station = state := by
  have before : t.slots.get? slot = none := by rw [quiet.slots, vacant.free]
  refine ⟨{ t with slots := t.slots.insert slot (.bridge bridge) }, ?_, ?_, rfl,
    quiet.drain_state_eq⟩
  · unfold fillSlot
    rw [Action.bind_of_ok (getting t), before, Action.bind_of_ok (changing _ t)]
    rfl
  · exact {
      tenant := ⟨bridge, Catalog.get?_insert_self .., rfl⟩
      alone := fun kind => by
        change (t.host.channels.get kind).handlers.map Prod.snd = _
        rw [quiet.host]
        exact Attachment.attach_handlers _ _ vacant.no_handlers kind
      held := by
        change (t.station bridge.station).holders ≠ 0
        rw [quiet.holders]
        exact Nat.one_ne_zero
      idle := quiet.running
      compile_quiet := quiet.compile_quiet
      collect_quiet := quiet.collect_quiet }

theorem start_up (vacant : VacantHost setup.slot w) (nothing : ∀ w, run [] w = .ok () w)
    (fuel : Nat)
    {settings : Settings} (given : setup.settings? = some settings) {registry : CompilerRegistry}
    (hooked : (w.registry setup.registry).installHook = .ok registry) :
    ∃ outcome station t, performStartup run (fuel + 2) setup w = .ok (.outcome outcome) t ∧
      SoleBridge setup.slot station t ∧ t.host.graph = w.host.graph ∧
      t.drainState station = DrainState.trigger w.host.loads.isLoadingAny
        (DrainState.queueOwners w.host.graph (setup.visited w.host.graph)
          { calls := callsIn w.trace }) := by
  obtain ⟨trace, noted, untold⟩ :=
    (w.setRegistry setup.registry registry).note_eq CompilerRegistry.hookRecord
  have still : VacantHost setup.slot { w.setRegistry setup.registry registry with trace } :=
    { vacant with }
  obtain ⟨station, opened, opening, quiet⟩ := still.open_station setup settings
  obtain ⟨bridge, up, bringing, rfl, running⟩ := quiet.bring_up nothing fuel given
  obtain ⟨finish, filling, sole, host, state⟩ := still.occupy running
  refine ⟨bridge.startup, bridge.station, finish, ?_, sole, ?_, ?_⟩
  · unfold performStartup
    have hooking : (change fun w =>
        (w.setRegistry setup.registry registry).note CompilerRegistry.hookRecord) w =
        .ok () { w.setRegistry setup.registry registry with trace } := by
      rw [changing, noted]
    have kept : (bringUp run (fuel + 2) setup bridge.station settings).onInterrupt
        (·.letGo bridge.station) opened = .ok bridge up := by
      rw [Action.onInterrupt, bringing]
    rw [given, Action.bind_of_ok (getting w), hooked]
    exact (Action.bind_of_ok hooking).trans ((Action.bind_of_ok opening).trans
      ((Action.bind_of_ok kept).trans (Action.bind_of_ok filling)))
  · rw [host, running.host]
    rfl
  · rw [state, untold]
    rfl

end VacantHost

def Reply.isOutcome : Reply → Bool
  | .outcome _ => true
  | _ => false

theorem perform_startup (vacant : VacantHost setup.slot w) (nothing : ∀ w, run [] w = .ok () w)
    (fuel : Nat) {reply : Reply} (started : reply.isOutcome = true)
    (ran : performStartup run (fuel + 2) setup w = .ok reply t) :
    ∃ station, SoleBridge setup.slot station t ∧ t.host.graph = w.host.graph ∧
      t.drainState station = DrainState.trigger w.host.loads.isLoadingAny
        (DrainState.queueOwners w.host.graph (setup.visited w.host.graph)
          { calls := callsIn w.trace }) := by
  cases given : setup.settings? with
  | none =>
      unfold performStartup at ran
      rw [given, Action.bind_of_ok (getting w)] at ran
      cases ran
      cases started
  | some settings =>
      cases hooked : (w.registry setup.registry).installHook with
      | error e =>
          unfold performStartup at ran
          rw [given, Action.bind_of_ok (getting w), hooked] at ran
          cases ran
          cases started
      | ok registry =>
          obtain ⟨outcome, station, u, run, running⟩ := vacant.start_up nothing fuel given hooked
          rw [run] at ran
          cases ran
          exact ⟨station, running⟩

end Session

end BlueprintBridge
