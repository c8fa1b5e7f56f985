import BlueprintBridge.Host.Announcement
import BlueprintBridge.Host.LoadLedger
import BlueprintBridge.Host.Parking

/-!
The host of managed assemblies: the type graph, the open loads, the parked definitions and the
channels on which it announces what it generates.

A host runs inside a larger state: `Site` says where it lies there, how a record is written and
what calling a handler does. Handlers are free to use the host again; each operation leaves the
host in order before it announces anything.
-/

namespace BlueprintBridge

set_option autoImplicit false

/-- Why a host refuses an operation. -/
inductive HostError where
  | graph (error : GraphError)
  /-- A load was finished that was not open. -/
  | assemblyNotLoading (assembly : String)
  /-- The package of this description is gone. -/
  | packageNotFound (package : String)
deriving DecidableEq, Repr

def HostError.message : HostError → String
  | graph error => error.message
  | assemblyNotLoading assembly => s!"Assembly '{assembly}' is not being loaded"
  | packageNotFound package => s!"Package '{package}' not found"

def TypeGraph.createBlueprint (g : TypeGraph) (package : PackageRef) (name : String) :
    Except HostError (BlueprintRef × TypeGraph) :=
  match g.package? package with
  | none => .error (.packageNotFound package.render)
  | some _ => .ok (g.addBlueprint ⟨name, .managed, some package, none⟩)

/-- A host whose handlers are described by `H`. -/
structure AssemblyHost (H : Type) where
  graph : TypeGraph := .initial
  loads : LoadLedger := {}
  /-- Definitions whose parent is not registered yet, in the order they came. -/
  parked : List ClassDefinition := []
  channels : Channels H := .initial

namespace AssemblyHost

variable {σ H : Type} {α : Type}

/-- Where a host lies in a larger state, and what its records and its handlers do there. -/
structure Site (σ H : Type) where
  host : Part σ (AssemblyHost H)
  note : Record → σ → σ
  call : Announcement → H → Action σ Unit

namespace Site

variable (site : Site σ H)

def write (records : List Record) : Action σ Unit := fun s =>
  .ok () (records.foldl (fun s record => site.note record s) s)

/-- Calls the handlers of the channel for an announcement; gives their number. -/
def announce (news : Announcement) : Action σ Nat := do
  let host ← site.host.get
  (host.channels.get news.kind).broadcast (site.call news)

/-! ## Loading -/

def beginLoad (assembly : String) : Action σ Unit := do
  site.write [⟨.debug, s!"Loading managed assembly '{assembly}'"⟩]
  site.host.modify fun host => { host with loads := host.loads.start assembly }

def finishLoad (assembly : String) : Action σ (Except HostError Unit) := do
  let finished ← site.host.step fun host =>
    let (finished, loads) := host.loads.finish assembly
    (finished, { host with loads })
  if finished then
    site.write [⟨.info, s!"Managed assembly '{assembly}' loaded"⟩]
    let _ ← site.announce (.assemblyLoaded assembly)
    return .ok ()
  else return .error (.assemblyNotLoading assembly)

/-- Ends a load that was cut short, without announcing the assembly. -/
def abortLoad (assembly : String) (s : σ) : σ :=
  site.host.update (fun host => { host with loads := (host.loads.finish assembly).2 })
    (site.note ⟨.warn, s!"Loading managed assembly '{assembly}' was aborted"⟩ s)

/-- Runs `generate` inside a load. The load ends however `generate` ends; it is announced unless
`generate` is cut short. An error of ending the load wins over one of `generate`. -/
def loadAssembly (assembly : String) (generate : Action σ (Except HostError α)) :
    Action σ (Except HostError α) := do
  site.beginLoad assembly
  let result ← generate.onInterrupt (site.abortLoad assembly)
  match ← site.finishLoad assembly with
  | .error e => return .error e
  | .ok () => return result

/-! ## Generating types -/

/-- Generates or regenerates a class and announces it. Without its parent it is parked. -/
def defineClass (d : ClassDefinition) : Action σ (Except HostError (Option ClassRef)) := do
  let generated ← site.host.step fun host =>
    let (generated, graph) := host.graph.generate d
    (generated, { host with graph })
  match generated with
  | .error e => return .error (.graph e)
  | .ok (some ref) =>
    site.write [TypeGraph.generatedRecord d ref]
    let _ ← site.announce (.newClass ref)
    return .ok (some ref)
  | .ok none =>
    site.write [⟨.debug, s!"Parking class '{d.name}' until its parent is generated"⟩]
    site.host.modify fun host => { host with parked := host.parked ++ [d] }
    return .ok none

/-- Tries the parked definitions until no more of them can be generated, announces the classes
in the order they were made, and then the pass itself. Gives the number of classes. -/
def processPending : Action σ Nat := do
  let settled ← site.host.step fun host =>
    let settled := host.graph.settle host.parked
    (settled, { host with graph := settled.value.graph, parked := settled.value.parked })
  site.write settled.records
  settled.value.generated.forM fun ref => do
    let _ ← site.announce (.newClass ref)
  let processed := settled.value.generated.length
  let remaining := (← site.host.get).parked.length
  if remaining > 0 then
    site.write
      [⟨.warn, s!"{remaining} managed class definitions still wait on a missing parent"⟩]
  let _ ← site.announce (.pendingProcessed processed remaining)
  return processed

def defineStruct (s : ManagedStruct) : Action σ (Except HostError StructRef) := do
  let host ← site.host.get
  match host.graph.defineStruct s with
  | .error e => return .error (.graph e)
  | .ok (ref, graph) =>
    site.host.modify fun host => { host with graph }
    let _ ← site.announce (.newStruct ref)
    return .ok ref

/-- Generates or regenerates an enum and announces it. -/
def defineEnum (e : ManagedEnum) : Action σ (Except HostError EnumRef) := do
  let host ← site.host.get
  match host.graph.defineEnum e with
  | .error e => return .error (.graph e)
  | .ok (ref, graph) =>
    site.host.modify fun host => { host with graph }
    let _ ← site.announce (.newEnum ref)
    return .ok ref

end Site

end AssemblyHost

end BlueprintBridge
