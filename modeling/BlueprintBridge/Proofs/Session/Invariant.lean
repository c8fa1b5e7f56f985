import BlueprintBridge.Proofs.Event.Attachment
import BlueprintBridge.Proofs.Registry
import BlueprintBridge.Proofs.Session.BridgeState

/-!
# Invariants: what a session keeps, however its steps end

An invariant says what holds of the bridge state of a session while some stations are being started
and some are held by whoever works on them, what is left of that where something was cut short,
which stations may be worked on, and whose handlers may be called. If the few acts that change the
bridge state keep it, every step does, with all that scripts do on the way; and a step goes the same
way whatever engines are behind the stations that are not worked on.
-/

namespace BlueprintBridge

set_option autoImplicit false

namespace Session

variable {ι α β : Type}

def Tenant.attachment : Tenant → Attachment
  | bridge b => b.attachment
  | bare _ => {}

namespace BridgeState

def detach (e : BridgeState) (a : Attachment) : BridgeState :=
  { e with channels := (a.detach e.channels).value.2 }

def stop (e : BridgeState) (slot : Nat) (b : Bridge) : BridgeState :=
  { e.detach b.attachment with slots := e.slots.insert slot (.bridge { b with attachment := {} }) }

def vacate (e : BridgeState) (slot : Nat) (tenant : Tenant) : BridgeState :=
  { e.detach tenant.attachment with slots := e.slots.erase slot }.letGo tenant.station

def openStation (e : BridgeState) (s : Station) : BridgeState :=
  { e.setStation e.nextStation s with nextStation := e.nextStation + 1 }

def attachment (e : BridgeState) (id : Nat) : Attachment :=
  (Attachment.attach (.intake id) e.nextSubscriber e.channels).value.1

def attach (e : BridgeState) (id : Nat) : BridgeState :=
  { e with
    channels := (Attachment.attach (.intake id) e.nextSubscriber e.channels).value.2
    nextSubscriber := e.nextSubscriber + EventKind.all.length }

def place (e : BridgeState) (slot : Nat) (tenant : Tenant) : BridgeState :=
  { e with slots := e.slots.insert slot tenant }

def fill (e : BridgeState) (slot : Nat) (tenant : Tenant) : BridgeState :=
  ((e.slots.get? slot).elim e (e.vacate slot)).place slot tenant

def register (e : BridgeState) (id : Nat) (r : CompilerRegistry) : BridgeState :=
  { e with registries := e.registries.insert id r }

def observe (e : BridgeState) (event : EventKind) (label : String) : BridgeState :=
  let channel := e.channels.get event
  let observer := Handler.observer label e.nextSubscriber
  { e with
    channels := e.channels.set event (channel.subscribe e.nextSubscriber observer)
    nextSubscriber := e.nextSubscriber + 1
    tokens := e.tokens.insert (event, label) (channel.token e.nextSubscriber) }

def unobserve (e : BridgeState) (event : EventKind) (key : EventKind × String) (token : Token) :
    BridgeState :=
  { e with
    channels := e.channels.set event ((e.channels.get event).unsubscribe token).2
    tokens := e.tokens.erase key }

def Feeds (e : BridgeState) (kind : EventKind) (number id : Nat) : Prop :=
  (number, Handler.intake id) ∈ (e.channels.get kind).handlers

/-- Channels without a handler of a station that was not there before. -/
def Spares (e : BridgeState) (channels : Channels Handler) : Prop :=
  ∀ kind number id, Feeds { e with channels } kind number id → e.Feeds kind number id

theorem spares_set {e : BridgeState} {event : EventKind} {channel : Channel Handler}
    (own : ∀ number id, (number, Handler.intake id) ∈ channel.handlers → e.Feeds event number id) :
    e.Spares (e.channels.set event channel) := by
  intro kind number id feeds
  unfold Feeds at feeds
  rw [Channels.get_set] at feeds
  split at feeds
  · next same =>
      subst same
      exact own number id feeds
  · exact feeds

theorem feeds_detach {e : BridgeState} {a : Attachment} {kind : EventKind} {number id : Nat} :
    (e.detach a).Feeds kind number id ↔ e.Feeds kind number id ∧ (kind, number) ∉ a.numbers := by
  have left : ((e.detach a).channels.get kind).handlers = (e.channels.get kind).handlers.filter
      fun h => (kind, h.1) ∉ a.numbers :=
    congrArg Channel.handlers (Attachment.get_give_back a.tokens e.channels kind)
  unfold Feeds
  rw [left, List.mem_filter]
  exact and_congr_right fun _ => decide_eq_true_iff

theorem feeds_attach {e : BridgeState} {kind : EventKind} {number id other : Nat}
    (feeds : (e.attach id).Feeds kind number other) :
    e.Feeds kind number other ∨ other = id ∧ (kind, number) ∈ (e.attachment id).numbers := by
  unfold Feeds at feeds
  rw [show ((e.attach id).channels.get kind).handlers = _ from
    Attachment.handlers_attach_to ..] at feeds
  rcases List.mem_append.mp feeds with earlier | new
  · exact .inl earlier
  · obtain ⟨n, numbered, same⟩ := List.mem_map.mp new
    obtain ⟨listed, own⟩ := List.mem_filter.mp numbered
    cases same
    refine .inr ⟨rfl, ?_⟩
    rw [show (e.attachment id).numbers = _ from Attachment.numbers_attach_to ..,
      ← of_decide_eq_true own]
    exact listed

theorem spares_observe (e : BridgeState) (event : EventKind) (label : String) :
    e.Spares (e.observe event label).channels := by
  apply spares_set
  intro number id feeds
  rcases List.mem_append.mp feeds with earlier | new
  · exact earlier
  · cases List.mem_singleton.mp new

theorem spares_unobserve (e : BridgeState) (event : EventKind) (key : EventKind × String)
    (token : Token) : e.Spares (e.unobserve event key token).channels :=
  spares_set fun _ _ feeds => List.mem_of_mem_filter feeds

end BridgeState

def SlotStep.isDirect : SlotStep → Bool
  | ask _ => false
  | shutdown => false
  | drop => false
  | _ => true

def World.Permits (w : World) (free : Nat → Prop) (step : Step) : Prop :=
  ∀ slot work tenant, step = .slot slot work → work.isDirect = true →
    w.slots.get? slot = some tenant → free tenant.station

theorem World.permits_all (w : World) (step : Step) : w.Permits (fun _ => True) step :=
  fun _ _ _ _ _ _ => trivial

/-- What holds of a bridge state, indexed by who is being started and who is held, and what is left
of it where something was cut short. -/
structure Invariant (ι : Type) where
  swap : EngineSwap
  /-- The stations that may be worked on. -/
  free : Nat → Prop
  /-- The stations whose handlers may be called. -/
  callable : Nat → Prop
  holds : ι → BridgeState → Prop
  interrupted : ι → BridgeState → Prop
  withStarting : ι → Nat → Attachment → ι
  withHeld : ι → Nat → ι

namespace Invariant

/-- Two acts go alike under an invariant, and keep it. -/
abbrev Same (R : Invariant ι) (i : ι) (first second : Act α) : Prop :=
  Together R.swap (R.holds i) (R.interrupted i) first second

abbrev From (R : Invariant ι) (i : ι) (w : World) (first second : Act α) : Prop :=
  Action.Alike (World.withEngines R.swap) (fun t => t = w) (fun _ t => R.holds i t.bridgeState)
    (fun t => R.interrupted i t.bridgeState) first second

def MayCall (R : Invariant ι) : Handler → Prop
  | .observer _ _ => True
  | .intake id => R.callable id

/-- The acts that change the bridge state keep the invariant. -/
structure Lawful (R : Invariant ι) : Prop where
  plain : ∀ id, R.free id → R.swap id = none
  there : ∀ i e, R.holds i e → ∀ id, R.swap id ≠ none → e.Has id
  fresh : ∀ i e, R.holds i e → R.free e.nextStation
  handlers_callable : ∀ i e, R.holds i e → ∀ kind number id, e.Feeds kind number id → R.callable id
  called : ∀ i e, R.holds i e → ∀ id, R.callable id → (e.station id).holders ≠ 0 → R.free id
  worked : ∀ i e, R.holds i e → ∀ id, R.free id → ∀ r, R.holds i (e.setRecompiler id r)
  held : ∀ i e, R.holds i e → ∀ id, R.free id → R.holds (R.withHeld i id) (e.hold id)
  released : ∀ i e id, R.holds (R.withHeld i id) e → R.free id → R.holds i (e.letGo id)
  observed : ∀ i e, R.holds i e → ∀ event label, R.holds i (e.observe event label)
  unobserved : ∀ i e, R.holds i e → ∀ event key token, e.tokens.get? key = some token →
    R.holds i (e.unobserve event key token)
  registered : ∀ i e, R.holds i e → ∀ id r, (e.registry id).Grown r → R.holds i (e.register id r)
  stopped : ∀ i e, R.holds i e → ∀ slot b, e.slots.get? slot = some (.bridge b) →
    R.holds i (e.stop slot b)
  vacated : ∀ i e, R.holds i e → ∀ slot tenant, e.slots.get? slot = some tenant →
    R.holds i (e.vacate slot tenant)
  opened : ∀ i e, R.holds i e → ∀ s : Station, s.holders = 1 →
    R.holds (R.withStarting i e.nextStation {}) (e.openStation s)
  attached : ∀ i e id, R.holds (R.withStarting i id {}) e →
    R.holds (R.withStarting i id (e.attachment id)) (e.attach id)
  placed : ∀ i e (tenant : Tenant), R.holds (R.withStarting i tenant.station tenant.attachment) e →
    ∀ slot, e.slots.get? slot = none → R.holds i (e.place slot tenant)
  cut : ∀ i e, R.holds i e → R.interrupted i e
  /-- The mark of a drain is taken away also when the drain is cut short. -/
  unmarked : ∀ i e, R.interrupted i e → ∀ id, R.free id → ∀ r,
    R.interrupted i (e.setRecompiler id r)
  left : ∀ i e id, R.interrupted (R.withHeld i id) e → R.free id → R.interrupted i (e.letGo id)
  failed : ∀ i e id a, R.interrupted (R.withStarting i id a) e → R.interrupted i (e.letGo id)

end Invariant

section

variable {g : EngineSwap} {w : World}

theorem detach_bridge_goes (b : Bridge) (w : World) :
    Goes g (detachBridge b) w { b with attachment := {} } (w.bridgeState.detach b.attachment) := by
  have seen : (w.withEngines g).host = w.host := rfl
  unfold Goes detachBridge
  rw [seen]
  split
  · refine ⟨_, rfl, ?_, ?_⟩
    · let t : World :=
        { w with host := { w.host with channels := (b.attachment.detach w.host.channels).value.2 } }
      exact congrArg _ ((congrArg (World.note · _) (t.notes_with_engines _)).trans
        (World.note_with_engines ..))
    · rw [World.bridge_state_note, World.bridge_state_notes]
      rfl
  · next idle =>
      obtain ⟨station, registry, ⟨tokens⟩, startup⟩ := b
      cases tokens with
      | nil => exact ⟨w, rfl, rfl, rfl⟩
      | cons => exact (idle rfl).elim

theorem let_go_goes {id : Nat} (there : g id ≠ none → w.bridgeState.Has id) :
    Goes g (change (·.letGo id)) w () (w.bridgeState.letGo id) :=
  .change (w.let_go_with_engines there)

theorem drop_tenant_goes (tenant : Tenant) (there : g tenant.station ≠ none →
    w.bridgeState.Has tenant.station) :
    Goes g (dropTenant (some tenant)) w ()
      ((w.bridgeState.detach tenant.attachment).letGo tenant.station) := by
  cases tenant with
  | bare station => exact let_go_goes there
  | bridge b =>
      refine (detach_bridge_goes b w).bind fun t same => ?_
      have still : g b.station ≠ none → t.bridgeState.Has b.station := by
        rw [same]
        exact there
      have released := let_go_goes still
      rw [same] at released
      exact released

theorem drop_goes (slot : Nat) (tenant : Tenant) (there : g tenant.station ≠ none →
    w.bridgeState.Has tenant.station) :
    Goes g (performDrop slot tenant) w .nothing (w.bridgeState.vacate slot tenant) := by
  refine Goes.bind (.change rfl) fun t same => ?_
  have still : g tenant.station ≠ none → t.bridgeState.Has tenant.station := by
    rw [same]
    exact there
  refine (drop_tenant_goes tenant still).bind fun u left => ?_
  refine ⟨u, rfl, rfl, ?_⟩
  rw [left, same]
  rfl

theorem fill_slot_goes (slot : Nat) (tenant : Tenant) (there : ∀ before,
    w.slots.get? slot = some before → g before.station ≠ none → w.bridgeState.Has before.station) :
    Goes g (fillSlot slot tenant) w () (w.bridgeState.fill slot tenant) := by
  let housing : Act Unit := change fun w => { w with slots := w.slots.insert slot tenant }
  have looked (v : World) : fillSlot slot tenant v =
      (housing >>= fun _ => dropTenant (v.slots.get? slot)) v := by
    unfold fillSlot
    rw [Action.bind_of_ok (getting v)]
  -- Who was there is looked up first, and dropped when the slot is taken already.
  suffices moved : Goes g (housing >>= fun _ => dropTenant (w.slots.get? slot)) w ()
      (w.bridgeState.fill slot tenant) by
    obtain ⟨t, comes, follows, same⟩ := moved
    exact ⟨t, (looked w).trans comes, (looked (w.withEngines g)).trans follows, same⟩
  refine Goes.bind (.change rfl) fun t same => ?_
  cases found : w.slots.get? slot with
  | none =>
      refine ⟨t, rfl, rfl, same.trans ?_⟩
      rw [BridgeState.fill, show w.bridgeState.slots.get? slot = none from found]
      rfl
  | some before =>
      have still : g before.station ≠ none → t.bridgeState.Has before.station := by
        rw [same]
        exact there before found
      obtain ⟨u, comes, follows, left⟩ := drop_tenant_goes before still
      refine ⟨u, comes, follows, left.trans ?_⟩
      rw [same, BridgeState.fill, show w.bridgeState.slots.get? slot = some before from found]
      unfold Option.elim BridgeState.place BridgeState.vacate
      rw [show w.slots.insert slot tenant = _ from (Catalog.insert_erase ..).symm]
      rfl

theorem new_station_goes (setup : Setup) (settings : Settings) (w : World)
    (plain : g w.nextStation = none) :
    ∃ s : Station, s.holders = 1 ∧
      Goes g (newStation setup settings) w w.nextStation (w.bridgeState.openStation s) := by
  let opened (t : World) : EStateM.Result Interruption World Nat :=
    .ok w.nextStation { t with nextStation := w.nextStation + 1 }
  refine ⟨_, rfl, _, rfl, ?_, rfl⟩
  exact congrArg opened (w.set_station_with_engines_plain plain _)

theorem attach_station_goes (id : Nat) (w : World) :
    Goes g (attachStation id) w (w.bridgeState.attachment id) (w.bridgeState.attach id) := by
  refine ⟨_, rfl, ?_, World.bridge_state_notes ..⟩
  let t : World := { w with
    host := { w.host with
      channels := (Attachment.attach (.intake id) w.nextSubscriber w.host.channels).value.2 }
    nextSubscriber := w.nextSubscriber + EventKind.all.length }
  exact congrArg (EStateM.Result.ok _) (t.notes_with_engines _)

theorem shutdown_goes (slot : Nat) (b : Bridge) (w : World) :
    Goes g (performShutdown slot (.bridge b)) w (.running b.attachment.isActive false)
      (w.bridgeState.stop slot b) := by
  refine (detach_bridge_goes b w).bind fun t same => ?_
  refine ⟨{ t with slots := t.slots.insert slot (.bridge { b with attachment := {} }) },
    rfl, rfl, ?_⟩
  have slots : t.slots = w.slots := congrArg BridgeState.slots same
  calc
    World.bridgeState
      { t with slots := t.slots.insert slot (.bridge { b with attachment := {} }) } =
        { t.bridgeState with
          slots := w.slots.insert slot (.bridge { b with attachment := {} }) } := by
      rw [← slots]
      rfl
    _ = w.bridgeState.stop slot b := by
      rw [same]
      rfl

theorem observe_goes (event : EventKind) (label : String) (scripts : List Script) (w : World) :
    ∃ reply, Goes g (performObserve event label scripts) w reply
      (w.bridgeState.observe event label) := by
  let channel := w.host.channels.get event
  let observed := channel.subscribe w.nextSubscriber (.observer label w.nextSubscriber)
  let t : World := { w with
    host := { w.host with channels := w.host.channels.set event observed }
    nextSubscriber := w.nextSubscriber + 1
    observerScripts := w.observerScripts.insert w.nextSubscriber scripts
    tokens := w.tokens.insert (event, label) (channel.token w.nextSubscriber) }
  refine ⟨_, _, rfl, ?_, World.bridge_state_note t _⟩
  exact congrArg (EStateM.Result.ok _) (t.note_with_engines _)

theorem unobserve_goes (event : EventKind) {issuer : EventKind} {label : String} {token : Token}
    {w : World} (kept : w.tokens.get? (issuer, label) = some token) :
    ∃ reply, Goes g (performUnobserve event issuer label) w reply
      (w.bridgeState.unobserve event (issuer, label) token) := by
  have seen : (w.withEngines g).tokens = w.tokens := rfl
  unfold Goes performUnobserve
  rw [seen, kept]
  let channel := w.host.channels.get event
  let t : World := { w with
    host := { w.host with channels := w.host.channels.set event (channel.unsubscribe token).2 }
    tokens := w.tokens.erase (issuer, label) }
  refine ⟨_, _, rfl, ?_, World.bridge_state_notes t _⟩
  exact congrArg (EStateM.Result.ok _) (t.notes_with_engines _)

theorem unobserve_unknown {event issuer : EventKind} {label : String}
    (unknown : w.tokens.get? (issuer, label) = none) :
    Goes g (performUnobserve event issuer label) w (.failed .noToken) w.bridgeState := by
  have seen : (w.withEngines g).tokens = w.tokens := rfl
  unfold Goes performUnobserve
  rw [seen, unknown]
  exact ⟨w, rfl, rfl, rfl⟩

end

namespace Invariant.Lawful

variable {R : Invariant ι} (lawful : R.Lawful) {i : ι} {id fuel : Nat}
  {run other : Script → Act Unit}

include lawful

/-- What is done with one holder of the station more, which then lets go. -/
theorem holding_same (free : R.free id) {body body' : Act α}
    (inside : R.Same (R.withHeld i id) body body') :
    R.Same i (holding id body) (holding id body') := by
  have plain := lawful.plain id free
  have released :
      Action.Alike (World.withEngines R.swap) (fun w => R.holds (R.withHeld i id) w.bridgeState)
      (fun _ w => R.holds i w.bridgeState) (fun w => R.interrupted i w.bridgeState)
      (body.ensuring (·.letGo id)) (body'.ensuring (·.letGo id)) := by
    apply Action.Alike.ensuring inside
    · exact fun w => w.let_go_with_engines fun swapped => (swapped plain).elim
    · exact fun _ w held => lawful.released i w.bridgeState id held free
    · exact fun w lost => lawful.left i w.bridgeState id lost free
  intro w held
  unfold holding
  rw [w.hold_with_engines plain]
  exact released (w.hold id) (lawful.held i w.bridgeState held id free)

theorem intake_same (free : R.free id) (f : TypeGraph → Backlog → Logged (α × Backlog)) :
    R.Same i (intake id f) (intake id f) := by
  have plain := lawful.plain id free
  refine Goes.alike (Q := fun _ => R.holds i) fun w held => ?_
  have seen : (World.recompilerPart id).read (w.withEngines R.swap) =
    (World.recompilerPart id).read w := w.recompiler_with_engines id
  have graph : (w.withEngines R.swap).host = w.host := rfl
  refine ⟨_, _, ⟨_, rfl, ?_, World.bridge_state_notes ..⟩,
    lawful.worked i w.bridgeState held id free _⟩
  unfold intake logged
  simp only [seen, graph]
  refine congrArg (EStateM.Result.ok _) ?_
  rw [← World.notes_with_engines]
  refine congrArg (World.notes · _) ?_
  unfold World.recompilerPart
  simp only [w.station_with_engines_plain plain]
  exact w.set_station_with_engines_plain plain _

section

variable (runs : ∀ script, R.Same i (run script) (other script))

include runs

theorem engine_compile (free : R.free id) (blueprint : BlueprintRef) (options : CompileOptions) :
    R.Same i (engineCompile run id blueprint options)
      (engineCompile other id blueprint options) := by
  refine Together.look fun w held => ?_
  rw [w.station_with_engines_plain (lawful.plain id free)]
  refine Together.from_here held ?_
  refine Action.Alike.bind (Apart.emit _).together fun _ => ?_
  refine Action.Alike.bind (Apart.next_compile_script blueprint).together fun script? => ?_
  -- Whatever the script answers, a registry adds its own result.
  cases (w.station id).registry with
  | none =>
      cases script? with
      | none => exact .idle _
      | some script =>
          refine Action.Alike.bind (runs script.steps) fun _ => ?_
          exact .idle _
  | some registry =>
      have ends : Apart R.swap (do
          let log ← compileThrough registry blueprint options
          change (·.emit (.compiled (w.station id).slot log))
          return log : Act MessageLog) := by
        intro t
        obtain ⟨log, compiled⟩ := Apart.compile_through registry blueprint options t
        refine ⟨log, compiled.bind fun u same => ⟨_, rfl, rfl, ?_⟩⟩
        exact same
      cases script? with
      | none => exact ends.together
      | some script =>
          refine Action.Alike.bind (runs script.steps) fun _ => ?_
          exact ends.together

theorem engine_collect (free : R.free id) (keep : ObjectFlags) (fullPurge : Bool) :
    R.Same i (engineCollect run id keep fullPurge) (engineCollect other id keep fullPurge) := by
  refine Together.look fun w held => ?_
  rw [w.station_with_engines_plain (lawful.plain id free)]
  refine Together.from_here held ?_
  refine Action.Alike.bind (Apart.emit _).together fun _ => ?_
  refine Action.Alike.bind Apart.next_collect_script.together fun script => ?_
  exact runs script

theorem recompiler_site_alike (free : R.free id) :
    Recompiler.Site.Alike (World.withEngines R.swap) (fun w => R.holds i w.bridgeState)
      (fun w => R.interrupted i w.bridgeState) (recompilerSite run id)
      (recompilerSite other id) where
  read w := w.recompiler_with_engines id
  loading _ := rfl
  write r w := by
    have plain := lawful.plain id free
    change (w.withEngines R.swap).setStation id
      { (w.withEngines R.swap).station id with recompiler := r } = _
    rw [w.station_with_engines_plain plain]
    exact w.set_station_with_engines_plain plain _
  note record w := w.note_with_engines record
  updated _ w _ held := lawful.worked i w.bridgeState held id free _
  noted record w held := by
    change R.holds i (w.note record).bridgeState
    rw [World.bridge_state_note]
    exact held
  compiled := lawful.engine_compile runs free
  collected := lawful.engine_collect runs free

theorem trigger_same (free : R.free id) (fuel : Nat) :
    R.Same i (trigger run fuel id) (trigger other fuel id) := by
  apply (lawful.recompiler_site_alike runs free).trigger
  · exact fun _ w held => lawful.worked i w.bridgeState held id free _
  · exact fun _ w lost => lawful.unmarked i w.bridgeState lost id free _
  · exact fun w held => lawful.cut i w.bridgeState held

theorem assembly_loaded_same (free : R.free id) (fuel : Nat) (assembly : String) :
    R.Same i (assemblyLoaded run fuel id assembly) (assemblyLoaded other fuel id assembly) := by
  refine Action.Alike.bind (Apart.note _).together fun _ => ?_
  exact lawful.trigger_same runs free fuel

theorem react_same (free : R.free id) (fuel : Nat) (news : Announcement) :
    R.Same i (react run fuel id news) (react other fuel id news) := by
  cases news with
  | newClass ref =>
      refine Action.Alike.bind (lawful.intake_same free _) fun _ => ?_
      exact .idle _
  | newStruct ref =>
      exact lawful.intake_same free fun g b => do return ((), ← Intake.queueStruct g b ref)
  | newEnum ref =>
      exact lawful.intake_same free fun g b => do return ((), ← Intake.queueEnum g b ref)
  | pendingProcessed processed remaining =>
      refine Action.Alike.bind (lawful.trigger_same runs free fuel) fun _ => ?_
      exact .idle _
  | assemblyLoaded assembly =>
      refine Action.Alike.bind (lawful.assembly_loaded_same runs free fuel assembly) fun _ => ?_
      exact .idle _

end

section

variable (runs : ∀ i script, R.Same i (run script) (other script))

include runs

theorem call_handler (fuel : Nat) (news : Announcement) {handler : Handler}
    (may_call : R.MayCall handler) :
    R.Same i (callHandler run fuel news handler) (callHandler other fuel news handler) := by
  cases handler with
  | observer label id =>
      refine Action.Alike.bind (Apart.emit _).together fun _ => ?_
      refine Action.Alike.bind (Apart.next_observer_script id).together fun script => ?_
      exact runs i script
  | intake id =>
      refine Together.look fun w held => ?_
      rw [World.holders_with_engines]
      refine Together.from_here held ?_
      split
      · exact .idle _
      · next awake =>
          have free := lawful.called i w.bridgeState held id may_call awake
          exact lawful.holding_same free (lawful.react_same (runs _) free fuel news)

theorem host_site_alike (fuel : Nat) :
    AssemblyHost.Site.Alike (World.withEngines R.swap) (fun w => R.holds i w.bridgeState)
      (fun w => R.interrupted i w.bridgeState) R.MayCall (hostSite run fuel)
      (hostSite other fuel) where
  read _ := rfl
  write _ _ := rfl
  note record w := w.note_with_engines record
  written host w held channels := by
    change R.holds i { w.bridgeState with channels := host.channels }
    rw [channels]
    exact held
  noted record w held := by
    change R.holds i (w.note record).bridgeState
    rw [World.bridge_state_note]
    exact held
  aborted assembly w lost := by
    rw [← w.bridge_state_note
      ⟨.warn, s!"Loading managed assembly '{assembly}' was aborted"⟩] at lost
    exact lost
  attached w held kind h member := by
    obtain ⟨number, handler⟩ := h
    cases handler with
    | observer => trivial
    | intake id => exact lawful.handlers_callable i w.bridgeState held kind number id member
  called news handler may_call := lawful.call_handler runs fuel news may_call

theorem host_step (fuel : Nat) (step : HostStep) :
    R.Same i (performHost run fuel step) (performHost other fuel step) := by
  have alike := lawful.host_site_alike (i := i) runs fuel
  cases step with
  | defineClass d =>
      refine Action.Alike.bind (alike.define_class d) fun _ => ?_
      exact .idle _
  | defineStruct s =>
      refine Action.Alike.bind (alike.define_struct s) fun _ => ?_
      exact .idle _
  | defineEnum e =>
      refine Action.Alike.bind (alike.define_enum e) fun _ => ?_
      exact .idle _
  | processPending =>
      refine Action.Alike.bind alike.process_pending fun _ => ?_
      exact .idle _
  | beginLoad assembly =>
      refine Action.Alike.bind (alike.begin_load assembly) fun _ => ?_
      exact .idle _
  | finishLoad assembly =>
      refine Action.Alike.bind (alike.finish_load assembly) fun _ => ?_
      exact .idle _
  | openGate assembly =>
      refine Action.Alike.bind (alike.modifies fun _ => rfl) fun _ => ?_
      exact .idle _
  | closeGate assembly =>
      refine Action.Alike.bind (alike.steps fun _ => rfl) fun _ => ?_
      exact .idle _

theorem load_step (fuel : Nat) (assembly : String) (steps : Script) (missing : Option String) :
    R.Same i (performLoad run fuel assembly steps missing)
      (performLoad other fuel assembly steps missing) := by
  have generated : R.Same i
      (do
        run steps
        return missing.elim (.ok steps.length) fun package => .error (.packageNotFound package) :
        Act (Except HostError Nat))
      (do
        other steps
        return missing.elim (.ok steps.length) fun package =>
          .error (.packageNotFound package)) := by
    refine Action.Alike.bind (runs i steps) fun _ => ?_
    exact .idle _
  have loaded := (lawful.host_site_alike runs fuel).load_assembly assembly generated
  refine Action.Alike.bind loaded fun _ => ?_
  exact .idle _

end

theorem filled {e : BridgeState} {tenant : Tenant}
    (held : R.holds (R.withStarting i tenant.station tenant.attachment) e) (slot : Nat) :
    R.holds i (e.fill slot tenant) := by
  unfold BridgeState.fill
  cases found : e.slots.get? slot with
  | none => exact lawful.placed i e tenant held slot found
  | some before =>
      apply lawful.placed i (e.vacate slot before) tenant
      · exact lawful.vacated _ e held slot before found
      · exact Catalog.get?_erase_self ..

theorem fill_slot (slot : Nat) (tenant : Tenant) :
    Action.Alike (World.withEngines R.swap)
      (fun w => R.holds (R.withStarting i tenant.station tenant.attachment) w.bridgeState)
      (fun _ w => R.holds i w.bridgeState) (fun w => R.interrupted i w.bridgeState)
      (fillSlot slot tenant) (fillSlot slot tenant) := by
  refine Goes.alike (Q := fun _ => R.holds i) fun w held => ⟨(), _, ?_, lawful.filled held slot⟩
  exact fill_slot_goes slot tenant fun before _ => lawful.there _ w.bridgeState held before.station

theorem new_station (setup : Setup) (settings : Settings) :
    Action.Alike (World.withEngines R.swap) (fun w => R.holds i w.bridgeState)
      (fun id w => R.free id ∧ R.holds (R.withStarting i id {}) w.bridgeState)
      (fun w => R.interrupted i w.bridgeState) (newStation setup settings)
      (newStation setup settings) := by
  refine Goes.alike
    (Q := fun id e => R.free id ∧ R.holds (R.withStarting i id {}) e) fun w held => ?_
  have fresh := lawful.fresh i w.bridgeState held
  obtain ⟨s, one, goes⟩ := new_station_goes setup settings w (lawful.plain _ fresh)
  exact ⟨_, _, goes, fresh, lawful.opened i w.bridgeState held s one⟩

theorem bare (setup : Setup) : R.Same i (performBare setup) (performBare setup) := by
  unfold performBare
  split
  · exact .idle _
  · next settings _ =>
      refine Action.Alike.bind (lawful.new_station setup settings) fun id => ?_
      apply Action.Alike.bind (Q := fun _ w => R.holds i w.bridgeState)
      · refine (lawful.fill_slot setup.slot (.bare id)).mono (fun _ held => held.2)
          (fun _ _ kept => kept) fun _ lost => lost
      · exact fun _ => .idle _

section

variable (runs : ∀ i script, R.Same i (run script) (other script))

include runs

theorem bring_up (setup : Setup) (settings : Settings) (free : R.free id) :
    Action.Alike (World.withEngines R.swap)
      (fun w => R.holds (R.withStarting i id {}) w.bridgeState)
      (fun bridge w => bridge.station = id ∧
        R.holds (R.withStarting i id bridge.attachment) w.bridgeState)
      (fun w => ∃ a, R.interrupted (R.withStarting i id a) w.bridgeState)
      (bringUp run fuel setup id settings) (bringUp other fuel setup id settings) := by
  have attached : Action.Alike (World.withEngines R.swap)
      (fun w => R.holds (R.withStarting i id {}) w.bridgeState)
      (fun a w => R.holds (R.withStarting i id a) w.bridgeState)
      (fun w => ∃ a, R.interrupted (R.withStarting i id a) w.bridgeState) (attachStation id)
      (attachStation id) :=
    Goes.alike (Q := fun a => R.holds (R.withStarting i id a)) fun w held =>
      ⟨_, _, attach_station_goes id w, lawful.attached i w.bridgeState id held⟩
  refine Action.Alike.bind attached fun attachment => ?_
  let j := R.withStarting i id attachment
  have ends : Action.Alike (World.withEngines R.swap) (fun w => R.holds j w.bridgeState)
      (fun bridge w => bridge.station = id ∧
        R.holds (R.withStarting i id bridge.attachment) w.bridgeState)
      (fun w => R.interrupted j w.bridgeState)
      (do
        let startup ← trigger run fuel id
        change (·.note ⟨.info, "Managed compiler module started"⟩)
        return { station := id, registry := setup.registry, attachment, startup } : Act Bridge)
      (do
        let startup ← trigger other fuel id
        change (·.note ⟨.info, "Managed compiler module started"⟩)
        return { station := id, registry := setup.registry, attachment, startup }) := by
    refine Action.Alike.bind (lawful.trigger_same (runs j) free fuel) fun startup => ?_
    refine Action.Alike.bind (Apart.note _).together fun _ => ?_
    exact .pure fun _ held => ⟨rfl, held⟩
  have reconciled : R.Same j (reconcileStation id) (reconcileStation id) := by
    refine Action.Alike.bind (lawful.intake_same free _) fun visited => ?_
    refine Together.look fun w held => ?_
    rw [World.recompiler_with_engines]
    exact Together.from_here held (Apart.note _).together
  split
  · exact (Action.Alike.bind reconciled fun _ => ends).mono (fun _ held => held)
      (fun _ _ kept => kept) fun _ lost => ⟨attachment, lost⟩
  · exact ends.mono (fun _ held => held) (fun _ _ kept => kept) fun _ lost => ⟨attachment, lost⟩

theorem startup (setup : Setup) :
    R.Same i (performStartup run fuel setup) (performStartup other fuel setup) := by
  refine Together.look fun w held => ?_
  rw [show (w.withEngines R.swap).registry = w.registry from rfl]
  split
  · exact Together.from_here held (.idle _)
  · exact Together.from_here held (.idle _)
  · next settings registry _ hooked =>
      -- The guard of the start-up lets go of the station, whatever was attached of it by then.
      have hooking : Action.Alike (World.withEngines R.swap) (fun t => t = w)
          (fun _ t => R.holds i t.bridgeState) (fun t => R.interrupted i t.bridgeState)
          (change fun w => (w.setRegistry setup.registry registry).note CompilerRegistry.hookRecord)
          (change fun w =>
            (w.setRegistry setup.registry registry).note CompilerRegistry.hookRecord) := by
        refine .of_ok (fun _ => rfl) (fun t => ?_) ?_
        · exact congrArg (EStateM.Result.ok ()) (World.note_with_engines (t.setRegistry ..) _)
        · intro t same
          subst same
          rw [World.bridge_state_note]
          exact lawful.registered i t.bridgeState held _ _ (CompilerRegistry.grown_of_hook hooked)
      refine Action.Alike.bind hooking fun _ => ?_
      refine Action.Alike.bind (lawful.new_station setup settings) fun id => ?_
      refine .given fun free => ?_
      have plain := lawful.plain id free
      have guarded : Action.Alike (World.withEngines R.swap)
          (fun w => R.holds (R.withStarting i id {}) w.bridgeState)
          (fun bridge w => bridge.station = id ∧
            R.holds (R.withStarting i id bridge.attachment) w.bridgeState)
          (fun w => R.interrupted i w.bridgeState)
          ((bringUp run fuel setup id settings).onInterrupt (·.letGo id))
          ((bringUp other fuel setup id settings).onInterrupt (·.letGo id)) := by
        apply (lawful.bring_up runs setup settings free).onInterrupt
        · exact fun w => w.let_go_with_engines fun swapped => (swapped plain).elim
        · exact fun w ⟨a, lost⟩ => lawful.failed i w.bridgeState id a lost
      refine Action.Alike.bind guarded fun bridge => .given fun same => ?_
      subst same
      refine Action.Alike.bind (lawful.fill_slot setup.slot (.bridge bridge)) fun _ => ?_
      exact .idle _

end

section

variable {w : World} (held : R.holds i w.bridgeState)

include held

theorem shutdown (slot : Nat) {tenant : Tenant} (found : w.slots.get? slot = some tenant) :
    R.From i w (performShutdown slot tenant) (performShutdown slot tenant) := by
  cases tenant with
  | bare => exact Together.from_here held (.idle _)
  | bridge b =>
      exact (shutdown_goes slot b w).here (Q := fun _ => R.holds i)
        (lawful.stopped i w.bridgeState held slot b found)

theorem drop (slot : Nat) {tenant : Tenant} (found : w.slots.get? slot = some tenant) :
    R.From i w (performDrop slot tenant) (performDrop slot tenant) :=
  (drop_goes slot tenant (lawful.there i w.bridgeState held tenant.station)).here
    (Q := fun _ => R.holds i) (lawful.vacated i w.bridgeState held slot tenant found)

theorem edit_registry (id : Nat) (records : List Record)
    {edited : Except RegistryError CompilerRegistry}
    (grown : ∀ r, edited = .ok r → (w.registry id).Grown r) :
    R.From i w (editRegistry id records edited) (editRegistry id records edited) := by
  cases edited with
  | error e => exact Together.from_here held (.idle _)
  | ok r =>
      have goes : Goes R.swap (editRegistry id records (.ok r)) w .nothing
          (w.bridgeState.register id r) := by
        refine ⟨(w.setRegistry id r).notes records, rfl, ?_, World.bridge_state_notes ..⟩
        exact congrArg (EStateM.Result.ok _) (World.notes_with_engines (w.setRegistry id r) records)
      exact goes.here (Q := fun _ => R.holds i)
        (lawful.registered i w.bridgeState held id r (grown r rfl))

theorem registry_step (id : Nat) (step : RegistryStep) :
    R.From i w (performRegistry id step) (performRegistry id step) := by
  have aside {act : Act Reply} (apart : Apart R.swap act) : R.From i w act act :=
    Together.from_here held apart.together
  refine Together.look_here ?_
  rw [show (w.withEngines R.swap).registry = w.registry from rfl]
  cases step with
  | installHook =>
      exact lawful.edit_registry held id _ fun _ hooked => CompilerRegistry.grown_of_hook hooked
  | registerFactory kind name =>
      exact lawful.edit_registry held id _ fun _ made => CompilerRegistry.grown_of_register made
  | addCompiler entry =>
      apply lawful.edit_registry held id
      intro r added
      cases added
      exact CompilerRegistry.grown_add_compiler ..
  | compile blueprint options =>
      exact aside (Apart.reply (Apart.compile_through id blueprint options) Reply.results)
  | compileWith choice target options =>
      apply aside
      intro t
      exact ⟨_, (Goes.change (t.show_context_with_engines _ options)).bind fun u same =>
        ⟨u, rfl, rfl, same.trans (t.bridge_state_show_context _ options)⟩⟩
  | hasFactory | compilers | findCompiler | text => exact Together.from_here held (.idle _)

section

variable (runs : ∀ i script, R.Same i (run script) (other script))

include runs

theorem tenant_step (slot : Nat) {tenant : Tenant} (step : SlotStep)
    (found : w.slots.get? slot = some tenant)
    (free : step.isDirect = true → R.free tenant.station) :
    R.From i w (performTenant run fuel slot tenant step)
      (performTenant other fuel slot tenant step) := by
  have here {first second : Act Reply} (same : R.Same i first second) : R.From i w first second :=
    Together.from_here held same
  cases step with
  | shutdown => exact lawful.shutdown held slot found
  | drop => exact lawful.drop held slot found
  | ask query =>
      refine Together.look_here ?_
      rw [World.answer_slot_with_engines]
      exact here (.idle _)
  | trigger =>
      apply here
      apply lawful.holding_same (free rfl)
      refine Action.Alike.bind (lawful.trigger_same (runs _) (free rfl) fuel) fun _ => ?_
      exact .idle _
  | assemblyLoaded assembly =>
      apply here
      apply lawful.holding_same (free rfl)
      refine Action.Alike.bind
        (lawful.assembly_loaded_same (runs _) (free rfl) fuel assembly) fun _ => ?_
      exact .idle _
  | queueClass | queueStruct | queueEnum | queueReferences | reconcile | enqueue =>
      apply here
      refine Action.Alike.bind (lawful.intake_same (free rfl) _) fun _ => ?_
      exact .idle _
  | take lane =>
      apply here
      have site := lawful.recompiler_site_alike (runs i) (free rfl)
      refine Action.Alike.bind (site.takes lane) fun _ => ?_
      exact .idle _

theorem slot_step (slot : Nat) (step : SlotStep)
    (free : ∀ tenant, w.slots.get? slot = some tenant → step.isDirect = true →
      R.free tenant.station) :
    R.From i w (performSlot run fuel slot step) (performSlot other fuel slot step) := by
  refine Together.look_here ?_
  rw [show (w.withEngines R.swap).slots = w.slots from rfl]
  cases found : w.slots.get? slot with
  | none => exact Together.from_here held (.idle _)
  | some tenant => exact lawful.tenant_step held runs slot step found (free tenant found)

theorem step (step : Step) (allowed : w.Permits R.free step) :
    R.From i w (perform run fuel step) (perform other fuel step) := by
  have here {first second : Act Reply} (same : R.Same i first second) : R.From i w first second :=
    Together.from_here held same
  cases step with
  | ask query =>
      refine Together.look_here ?_
      rw [World.answer_with_engines]
      exact here (.idle _)
  | edit edit =>
      let edited (host : AssemblyHost Handler) : Reply × AssemblyHost Handler :=
        ((edit.apply host.graph).1, { host with graph := (edit.apply host.graph).2 })
      exact here ((lawful.host_site_alike runs fuel).steps (f := edited) fun _ => rfl)
  | host step => exact here (lawful.host_step runs fuel step)
  | loadAssembly assembly steps missing =>
      exact here (lawful.load_step runs fuel assembly steps missing)
  | observe event label scripts =>
      obtain ⟨reply, goes⟩ := observe_goes event label scripts w
      exact goes.here (Q := fun _ => R.holds i) (lawful.observed i w.bridgeState held event label)
  | unobserve event issuer label =>
      cases kept : w.tokens.get? (issuer, label) with
      | none => exact (unobserve_unknown kept).here (Q := fun _ => R.holds i) held
      | some token =>
          obtain ⟨reply, goes⟩ := unobserve_goes event kept
          exact goes.here (Q := fun _ => R.holds i)
            (lawful.unobserved i w.bridgeState held event (issuer, label) token kept)
  | startup setup => exact here (lawful.startup runs setup)
  | bare setup => exact here (lawful.bare setup)
  | slot id step =>
      exact lawful.slot_step held runs id step fun tenant found direct =>
        allowed id step tenant rfl direct found
  | scriptCompile blueprint steps messages =>
      refine here (Action.Alike.bind (Apart.change ?_ ?_).together fun _ => .idle _)
      · exact fun _ => rfl
      · exact fun _ => rfl
  | scriptCollect steps =>
      refine here (Action.Alike.bind (Apart.change ?_ ?_).together fun _ => .idle _)
      · exact fun _ => rfl
      · exact fun _ => rfl
  | registry id step => exact lawful.registry_step held id step
  | layout step => exact here (Apart.layout_step step).together
  | exported step => exact here (Apart.export_step step).together
  | raise message => exact here (.throw _ fun w held => lawful.cut i w.bridgeState held)

end

end

end Invariant.Lawful

end Session

end BlueprintBridge
