import BlueprintBridge.Bridge.Attachment
import BlueprintBridge.Compile.Intake
import BlueprintBridge.Session.Reply

/-!
The state of a session.

A station is a recompiler with the engine it drives. It outlives its place in a slot as long as
something still runs in it, which `holders` counts: the slot, each call of a handler that reached
it, each step made on it, and its start-up. A handler of a bridge does nothing once nobody holds
its station.
-/

namespace BlueprintBridge.Session

set_option autoImplicit false

/-- A recompiler and the engine behind it. -/
structure Station where
  recompiler : Recompiler := {}
  /-- The slot that traces of the engine name. -/
  slot : Nat := 0
  /-- The registry that compilations end in, if they do. -/
  registry : Option Nat := none
  holders : Nat := 0
deriving Inhabited

/-- A handler on a channel of the host. -/
inductive Handler where
  | observer (label : String) (id : Nat)
  /-- The handler of a bridge: feeds the intake of a station. -/
  | intake (station : Nat)
deriving DecidableEq, Repr

/-- A bridge between the host and a station. -/
structure Bridge where
  station : Nat
  registry : Nat
  attachment : Attachment
  /-- What the trigger at start-up did. -/
  startup : Outcome
deriving Repr

/-- What a slot holds. -/
inductive Tenant where
  | bridge (bridge : Bridge)
  | bare (station : Nat)
deriving Repr

def Tenant.station : Tenant → Nat
  | bridge b => b.station
  | bare station => station

/-- What the next compilation of a blueprint does. -/
structure CompileScript where
  blueprint : BlueprintRef
  steps : Script
  messages : List Message

/-- The state of a session. -/
structure World where
  host : AssemblyHost Handler := {}
  stations : Catalog Nat Station := .empty
  /-- The number of the next station. -/
  nextStation : Nat := 0
  slots : Catalog Nat Tenant := .empty
  registries : Catalog Nat CompilerRegistry := .empty
  layouts : LayoutTable := {}
  bindings : Option Bindings := none
  /-- The number of the next subscriber. -/
  nextSubscriber : Nat := 1
  /-- Tokens of observers by the channel that issued them and the label. -/
  tokens : Catalog (EventKind × String) Token := .empty
  /-- What each observer still has to run. -/
  observerScripts : Catalog Nat (List Script) := .empty
  compileScripts : List CompileScript := []
  collectScripts : List Script := []
  /-- The most talkative level the log keeps. -/
  verbosity : Option Level := some .warn
  /-- What happened since the step began, in order. -/
  trace : List TraceEntry := []

instance : Inhabited World := ⟨{}⟩

namespace World

def emit (w : World) (entry : TraceEntry) : World := { w with trace := w.trace ++ [entry] }

/-- Writes a record, if the log keeps it. -/
def note (w : World) (record : Record) : World :=
  if record.isKept w.verbosity then w.emit (.log record) else w

def notes (w : World) (records : List Record) : World := records.foldl note w

/-- Shows what happened to a handle: in the log if it is a warning, in the trace otherwise. -/
def showHandle (w : World) (effect : HandleEffect) : World :=
  match effect, effect.record? with
  | _, some record => w.note record
  | .dropped _ _, none => w
  | effect, none => w.emit (.handle effect)

def station (w : World) (id : Nat) : Station := (w.stations.get? id).getD default

def setStation (w : World) (id : Nat) (s : Station) : World :=
  { w with stations := w.stations.insert id s }

def registry (w : World) (id : Nat) : CompilerRegistry := (w.registries.get? id).getD default

def setRegistry (w : World) (id : Nat) (r : CompilerRegistry) : World :=
  { w with registries := w.registries.insert id r }

def sortedSlots (w : World) : List (Nat × Tenant) :=
  w.slots.entries.mergeSort fun a b => a.1 ≤ b.1

def hold (w : World) (id : Nat) : World :=
  let s := w.station id
  w.setStation id { s with holders := s.holders + 1 }

def letGo (w : World) (id : Nat) : World :=
  let s := w.station id
  w.setStation id { s with holders := s.holders - 1 }

def snapshot (w : World) : Snapshot where
  classes := w.host.graph.classCount
  pending := w.host.parked.length
  loading := w.host.loads.entries
  subscribers := EventKind.all.map fun kind => (w.host.channels.get kind).subscriberCount
  slots := w.sortedSlots.map fun slot => ⟨slot.1, (w.station slot.2.station).recompiler⟩

def hostPart : Part World (AssemblyHost Handler) where
  read w := w.host
  write host w := { w with host }

def recompilerPart (id : Nat) : Part World Recompiler where
  read w := (w.station id).recompiler
  write recompiler w := w.setStation id { w.station id with recompiler }

theorem hostPart_lawful : hostPart.Lawful where
  read_write _ _ := rfl
  write_write _ _ _ := rfl

theorem station_setStation (w : World) (id other : Nat) (s : Station) :
    (w.setStation id s).station other = if other = id then s else w.station other := by
  simp only [station, setStation, Catalog.get?_insert]
  split <;> simp_all

end World

end BlueprintBridge.Session
