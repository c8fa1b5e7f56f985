import BlueprintBridge.Compile.SettingsDocument
import BlueprintBridge.Session.Queries

/-!
How the steps of a session are made.

Everything here takes two parameters: `run`, which makes the steps of a script, and `fuel`, which
bounds the batches of components of one drain. Callbacks reach the steps of a script only through
`run`, so the recursion of scripts into scripts is tied in one place, in `Session.Run`.
-/

namespace BlueprintBridge.Session

set_option autoImplicit false

abbrev Act (α : Type) := Action World α

def change (f : World → World) : Act Unit := fun w => .ok () (f w)

/-- A value with its records, and the part of the state it belongs to. -/
def logged {α β : Type} (part : Part World β) (f : World → Logged (α × β)) : Act α := fun w =>
  let result := f w
  .ok result.value.1 ((part.write result.value.2 w).notes result.records)

/-- Takes the first element that satisfies a test out of a list. -/
def takeFirst? {α : Type} (test : α → Bool) : List α → Option (α × List α)
  | [] => none
  | a :: rest =>
    if test a then some (a, rest) else (takeFirst? test rest).map fun (b, left) => (b, a :: left)

def nextObserverScript (id : Nat) : Act Script := fun w =>
  match w.observerScripts.get? id with
  | some (script :: rest) =>
    .ok script { w with observerScripts := w.observerScripts.insert id rest }
  | _ => .ok [] w

def nextCompileScript (blueprint : BlueprintRef) : Act (Option CompileScript) := fun w =>
  match takeFirst? (fun s => s.blueprint = blueprint) w.compileScripts with
  | some (script, rest) => .ok (some script) { w with compileScripts := rest }
  | none => .ok none w

def nextCollectScript : Act Script := fun w =>
  match w.collectScripts with
  | script :: rest => .ok script { w with collectScripts := rest }
  | [] => .ok [] w

/-- Makes the context of a compilation known to whoever made it. -/
def showContext (context : CompileContext) (options : CompileOptions) (w : World) : World :=
  match context.kind with
  | .named name => w.emit (.factory name context.target options)
  | _ => w

def compileThrough (registry : Nat) (blueprint : BlueprintRef) (options : CompileOptions) :
    Act MessageLog := fun w =>
  let r := w.registry registry
  let log := r.compile w.host.graph blueprint options
  match r.contextOf? w.host.graph blueprint options with
  | none => .ok log w
  | some context =>
    .ok log ((showContext context options w).note (CompilerRegistry.compilingRecord context))

/-- Runs `body` with one more holder of a station. -/
def holding {α : Type} (station : Nat) (body : Act α) : Act α := fun w =>
  body.ensuring (·.letGo station) (w.hold station)

section

variable (run : Script → Act Unit) (fuel : Nat)

/-! ## The engine -/

def engineCompile (station : Nat) (blueprint : BlueprintRef) (options : CompileOptions) :
    Act MessageLog := do
  let s := (← get).station station
  change (·.emit (.compile s.slot blueprint options))
  let log ←
    match ← nextCompileScript blueprint with
    | none => pure MessageLog.empty
    | some script => do
      run script.steps
      pure (MessageLog.ofList script.messages)
  match s.registry with
  | none => return log
  | some registry =>
    let log ← compileThrough registry blueprint options
    change (·.emit (.compiled s.slot log))
    return log

def engineCollect (station : Nat) (keep : ObjectFlags) (fullPurge : Bool) : Act Unit := do
  let s := (← get).station station
  change (·.emit (.collect s.slot keep fullPurge))
  run (← nextCollectScript)

/-- The recompiler of a station, held back while the host loads an assembly. -/
def recompilerSite (station : Nat) : Recompiler.Site World where
  recompiler := World.recompilerPart station
  note record w := w.note record
  isLoading w := w.host.loads.isLoadingAny
  compile := engineCompile run station
  collect := engineCollect run station

def trigger (station : Nat) : Act Outcome := (recompilerSite run station).trigger fuel

def intake {α : Type} (station : Nat) (f : TypeGraph → Backlog → Logged (α × Backlog)) : Act α :=
  let part := World.recompilerPart station
  logged part fun w => do
    let r := part.read w
    let (a, backlog) ← f w.host.graph r.backlog
    return (a, { r with backlog })

def intake_ (station : Nat) (f : TypeGraph → Backlog → Logged Backlog) : Act Unit :=
  intake station fun g b => do return ((), ← f g b)

/-- An assembly has been loaded: a station tries to drain. -/
def assemblyLoaded (station : Nat) (assembly : String) : Act Outcome := do
  change (·.note ⟨.debug, s!"Assembly '{assembly}' loaded, attempting recompile"⟩)
  trigger run fuel station

def react (station : Nat) : Announcement → Act Unit
  | .newClass ref => do
    let _ ← intake station fun g b => Intake.queueClass g b ref
  | .newStruct ref => intake_ station fun g b => Intake.queueStruct g b ref
  | .newEnum ref => intake_ station fun g b => Intake.queueEnum g b ref
  | .pendingProcessed _ _ => do
    let _ ← trigger run fuel station
  | .assemblyLoaded assembly => do
    let _ ← assemblyLoaded run fuel station assembly

/-- Calls a handler. One of a bridge does nothing once nobody holds its station. -/
def callHandler (news : Announcement) : Handler → Act Unit
  | .observer label id => do
    change (·.emit (.observed label news))
    run (← nextObserverScript id)
  | .intake station => do
    if ((← get).station station).holders = 0 then return ()
    else holding station (react run fuel station news)

def hostSite : AssemblyHost.Site World Handler where
  host := World.hostPart
  note record w := w.note record
  call := callHandler run fuel

/-! ## The host -/

def replyRef {kind : ObjectKind} : Except HostError (Ref kind) → Reply :=
  replyOf .host fun ref => .reference (some ref)

def performHost : HostStep → Act Reply
  | .defineClass d => do
    return replyOf .host (fun ref => .reference ref) (← (hostSite run fuel).defineClass d)
  | .defineStruct s => do return replyRef (← (hostSite run fuel).defineStruct s)
  | .defineEnum e => do return replyRef (← (hostSite run fuel).defineEnum e)
  | .processPending => do return .count (← (hostSite run fuel).processPending)
  | .beginLoad assembly => do
    (hostSite run fuel).beginLoad assembly
    return .nothing
  | .finishLoad assembly => do
    return replyOf .host (fun _ => .nothing) (← (hostSite run fuel).finishLoad assembly)
  | .openGate assembly => do
    World.hostPart.modify fun host => { host with loads := host.loads.start assembly }
    return .nothing
  | .closeGate assembly => do
    let finished ← World.hostPart.step fun host =>
      let (finished, loads) := host.loads.finish assembly
      (finished, { host with loads })
    return .flag finished

/-- Loads an assembly whose generation makes the steps of a script. -/
def performLoad (assembly : String) (steps : Script) (missing : Option String) : Act Reply := do
  let generate : Act (Except HostError Nat) := do
    run steps
    return missing.elim (.ok steps.length) fun package => .error (.packageNotFound package)
  return replyOf .host .count (← (hostSite run fuel).loadAssembly assembly generate)

/-! ## Observers -/

/-- Subscribes an observer under a label; an earlier token of that label is lost. -/
def performObserve (event : EventKind) (label : String) (scripts : List Script) : Act Reply :=
  fun w =>
    let id := w.nextSubscriber
    let channel := w.host.channels.get event
    let token := channel.token id
    let channels := w.host.channels.set event (channel.subscribe id (.observer label id))
    .ok (.token token)
      ({ w with
        host := { w.host with channels }
        nextSubscriber := id + 1
        observerScripts := w.observerScripts.insert id scripts
        tokens := w.tokens.insert (event, label) token }.note (channel.subscribedRecord id))

def performUnobserve (event issuer : EventKind) (label : String) : Act Reply := fun w =>
  match w.tokens.get? (issuer, label) with
  | none => .ok (.failed .noToken) w
  | some token =>
    let channel := w.host.channels.get event
    let (removed, next) := channel.unsubscribe token
    .ok (.flag removed)
      ({ w with
        host := { w.host with channels := w.host.channels.set event next }
        tokens := w.tokens.erase (issuer, label) }.notes (channel.unsubscribedRecords token))

/-! ## Slots -/

/-- Detaches a bridge from the host, unless it is detached already. -/
def detachBridge (b : Bridge) : Act Bridge := fun w =>
  if b.attachment.isActive then
    let result := b.attachment.detach w.host.channels
    let (removed, channels) := result.value
    .ok { b with attachment := {} }
      (({ w with host := { w.host with channels } }.notes result.records).note
        ⟨.info, s!"Managed compiler module shut down ({removed} subscriptions removed)"⟩)
  else .ok b w

/-- Lets go of what a slot held: a bridge is detached first. -/
def dropTenant : Option Tenant → Act Unit
  | none => pure ()
  | some (.bridge b) => do
    let _ ← detachBridge b
    change (·.letGo b.station)
  | some (.bare station) => change (·.letGo station)

def fillSlot (slot : Nat) (tenant : Tenant) : Act Unit := do
  let before := (← get).slots.get? slot
  change fun w => { w with slots := w.slots.insert slot tenant }
  dropTenant before

def newStation (setup : Setup) (settings : Settings) : Act Nat := fun w =>
  let station : Station :=
    { recompiler := { settings }
      slot := setup.slot
      registry := if setup.throughRegistry then some setup.registry else none
      holders := 1 }
  .ok w.nextStation
    { w.setStation w.nextStation station with nextStation := w.nextStation + 1 }

def Setup.settings? (setup : Setup) : Option Settings :=
  match setup.settings with
  | none => some {}
  | some document => (Settings.ofDocument? document).toOption

def attachStation (station : Nat) : Act Attachment := fun w =>
  let result := Attachment.attach (.intake station) w.nextSubscriber w.host.channels
  let (attachment, channels) := result.value
  .ok attachment
    ({ w with
      host := { w.host with channels }
      nextSubscriber := w.nextSubscriber + EventKind.all.length }.notes result.records)

def reconcileStation (station : Nat) : Act Unit := do
  let visited ← intake station Intake.reconcile
  let queued := ((← get).station station).recompiler.backlog.totalSize
  change (·.note
    ⟨.debug, s!"Startup reconciliation visited {visited} blueprints, {queued} queued"⟩)

/-- Brings a bridge up on a station: attaches it, queues what there is, and tries to drain. -/
def bringUp (setup : Setup) (station : Nat) (settings : Settings) : Act Bridge := do
  let attachment ← attachStation station
  if settings.reconcileOnStartup then reconcileStation station
  let startup ← trigger run fuel station
  change (·.note ⟨.info, "Managed compiler module started"⟩)
  return { station, registry := setup.registry, attachment, startup }

/-- Starts a bridge. The hook is installed first; a bridge whose start-up is cut short leaves its
subscriptions and the hook behind, but nobody holds its station. -/
def performStartup (setup : Setup) : Act Reply := do
  match setup.settings?, ((← get).registry setup.registry).installHook with
  | none, _ => return .failed .invalidSettings
  | _, .error e => return .failed (.registry e)
  | some settings, .ok registry =>
    change fun w => (w.setRegistry setup.registry registry).note CompilerRegistry.hookRecord
    let station ← newStation setup settings
    let bridge ← (bringUp run fuel setup station settings).onInterrupt (·.letGo station)
    fillSlot setup.slot (.bridge bridge)
    return .outcome bridge.startup

/-- Puts a recompiler without a bridge into a slot. -/
def performBare (setup : Setup) : Act Reply := do
  match setup.settings? with
  | none => return .failed .invalidSettings
  | some settings =>
    let station ← newStation setup settings
    fillSlot setup.slot (.bare station)
    return .nothing

def answerSlot (w : World) (tenant : Tenant) : SlotQuery → Reply :=
  let r := (w.station tenant.station).recompiler
  fun
  | .bridgeInfo =>
    match tenant with
    | .bare _ => .failed .noSlot
    | .bridge b =>
      .bridgeInfo
        { running := b.attachment.isActive
          startup := b.startup
          registry := (w.registry b.registry).render
          settings := r.settings
          queued := r.backlog.totalSize }
  | .state => .state r.state
  | .stats => .stats r.stats
  | .settings => .settings r.settings
  | .snapshot lane => .references (r.backlog.lane lane).entries
  | .contains lane blueprint => .flag (r.backlog.contains lane blueprint)
  | .find blueprint => .lane (r.backlog.find? blueprint)
  | .laneSize lane => .size (r.backlog.size lane) r.backlog.totalSize r.backlog.isEmpty

/-- Stops the bridge in a slot; tells whether it was running before and is after. -/
def performShutdown (slot : Nat) : Tenant → Act Reply
  | .bare _ => return .failed .noSlot
  | .bridge b => do
    let stopped ← detachBridge b
    change fun w => { w with slots := w.slots.insert slot (.bridge stopped) }
    return .running b.attachment.isActive stopped.attachment.isActive

def performDrop (slot : Nat) (tenant : Tenant) : Act Reply := do
  change fun w => { w with slots := w.slots.erase slot }
  dropTenant (some tenant)
  return .nothing

def performTenant (slot : Nat) (tenant : Tenant) : SlotStep → Act Reply
  | .ask query => do return answerSlot (← get) tenant query
  | .shutdown => performShutdown slot tenant
  | .drop => performDrop slot tenant
  | .trigger => holding tenant.station do
    return .outcome (← trigger run fuel tenant.station)
  | .assemblyLoaded assembly => holding tenant.station do
    return .outcome (← assemblyLoaded run fuel tenant.station assembly)
  | .queueClass ref => do
    return .lane (← intake tenant.station fun g b => Intake.queueClass g b ref)
  | .queueStruct ref => do
    intake_ tenant.station fun g b => Intake.queueStruct g b ref
    return .nothing
  | .queueEnum ref => do
    intake_ tenant.station fun g b => Intake.queueEnum g b ref
    return .nothing
  | .queueReferences refs => do
    intake_ tenant.station fun g b => Intake.queueReferences g b refs
    return .nothing
  | .reconcile => do return .count (← intake tenant.station Intake.reconcile)
  | .enqueue lane blueprint => do
    let added ← intake tenant.station fun _ b =>
      ⟨b.enqueue lane blueprint, b.enqueueRecords lane blueprint⟩
    return .flag added
  | .take lane => do
    let batch ← (World.recompilerPart tenant.station).step (Recompiler.takeLane lane)
    return .references batch

def performSlot (slot : Nat) (step : SlotStep) : Act Reply := do
  match (← get).slots.get? slot with
  | none => return .failed .noSlot
  | some tenant => performTenant run fuel slot tenant step

/-! ## Registries, layouts and exported calls -/

/-- Replaces a registry, if an operation on it succeeds. -/
def editRegistry (id : Nat) (records : List Record) :
    Except RegistryError CompilerRegistry → Act Reply
  | .ok registry => do
    change fun w => (w.setRegistry id registry).notes records
    return .nothing
  | .error e => return .failed (.registry e)

def ContextChoice.context (choice : ContextChoice) (r : CompilerRegistry)
    (target : CompileTarget) (options : CompileOptions) : CompileContext :=
  match choice with
  | registered => r.contextFor target options
  | standard => ⟨.standard, target⟩
  | managed => ⟨.managed options, target⟩

def performRegistry (id : Nat) (step : RegistryStep) : Act Reply := do
  let w ← get
  let r := w.registry id
  match step with
  | .installHook => editRegistry id [CompilerRegistry.hookRecord] r.installHook
  | .registerFactory kind name => editRegistry id [] (r.registerFactory kind (.named name))
  | .hasFactory kind => return .flag (r.hasFactory kind)
  | .addCompiler entry => editRegistry id [] (.ok (r.addCompiler entry))
  | .compilers => return .compilers r.compilers
  | .findCompiler kind => return .optionalText ((r.findCompiler? kind).map (·.name))
  | .compileWith choice target options =>
    let context := choice.context r target options
    change (showContext context options)
    let shown := if choice = .managed then some options else none
    return .compiledWith context shown (context.compile .empty)
  | .compile blueprint options => return .results (← compileThrough id blueprint options)
  | .text => return .text r.render

def performLayout : LayoutStep → Act Reply
  | .register ref layout => fun w =>
    match w.layouts.register ref layout with
    | .error e => .ok (.failed (.layout e)) w
    | .ok (before, layouts) => .ok (.layout before) { w with layouts }
  | .remove ref => fun w =>
    let (before, layouts) := w.layouts.remove ref
    .ok (.layout before) { w with layouts }

/-- Shows what happened to a handle through the installed callbacks. -/
def withCallbacks (f : RuntimeCallbacks → Bool × List HandleEffect) : Act Reply := fun w =>
  match w.bindings with
  | none => .ok (.failed .noCallbacks) w
  | some b =>
    let (value, effects) := f b.callbacks
    .ok (.flag value) (effects.foldl World.showHandle w)

/-- A look-up: its answer, with its records written. -/
def lookUp {α : Type} (reply : α → Reply) (found : World → Logged α) : Act Reply := fun w =>
  let result := found w
  .ok (reply result.value) (w.notes result.records)

def performExport : ExportStep → Act Reply
  | .findClass name => lookUp (fun r => .reference r) fun w => Export.findClass? w.host.graph name
  | .findStruct name => lookUp (fun r => .reference r) fun w => Export.findStruct? w.host.graph name
  | .install bindings => fun w =>
    match Export.install w.bindings bindings with
    | .error e => .ok (.failed (.binding e)) w
    | .ok bindings =>
      .ok .nothing ({ w with bindings := some bindings }.note Export.installedRecord)
  | .release address kind => withCallbacks fun callbacks =>
    let first := (Handle.adopt address kind).dispose (.runtime callbacks)
    let second := first.1.dispose (.runtime callbacks)
    (second.1.isNull, first.2 ++ second.2)
  | .disposeObject address => withCallbacks (·.disposeObject address)
  | .lookUpClass assembly «namespace» name => lookUp .word fun w =>
    Export.lookUp w.bindings (Export.findClass? w.host.graph) assembly «namespace» name
  | .lookUpStruct assembly «namespace» name => lookUp .word fun w =>
    Export.lookUp w.bindings (Export.findStruct? w.host.graph) assembly «namespace» name

/-! ## Steps -/

def perform : Step → Act Reply
  | .ask query => do return (← get).answer query
  | .edit edit => World.hostPart.step fun host =>
    let (reply, graph) := edit.apply host.graph
    (reply, { host with graph })
  | .host step => performHost run fuel step
  | .loadAssembly assembly steps missing => performLoad run fuel assembly steps missing
  | .observe event label scripts => performObserve event label scripts
  | .unobserve event issuer label => performUnobserve event issuer label
  | .startup setup => performStartup run fuel setup
  | .bare setup => performBare setup
  | .slot id step => performSlot run fuel id step
  | .scriptCompile blueprint steps messages => do
    change fun w => { w with compileScripts := w.compileScripts ++ [⟨blueprint, steps, messages⟩] }
    return .nothing
  | .scriptCollect steps => do
    change fun w => { w with collectScripts := w.collectScripts ++ [steps] }
    return .nothing
  | .registry id step => performRegistry id step
  | .layout step => performLayout step
  | .exported step => performExport step
  | .raise message => throw (.unwound message)

end

end BlueprintBridge.Session
