import BlueprintBridge.Compile.Recompiler
import BlueprintBridge.Host.LoadLedger

/-!
# A recompiler at work

A workshop is a recompiler with the loads that hold it back and a journal of everything that
happened to it. An engine answers every call of the recompiler with a routine: a program that
looks at the workshop, queues blueprints, begins and finishes loads, triggers the recompiler
again, and ends with an answer or an exception, choosing each act by what came before. The
journal holds the whole past, so routines that look at it cover callbacks with a memory of
their own.
-/

namespace BlueprintBridge

set_option autoImplicit false

/-- What happens to a recompiler, in the order it happens. -/
inductive Event where
  /-- A blueprint was put into a lane; it is fresh if it waited in neither lane before. -/
  | queued (lane : Lane) (blueprint : BlueprintRef) (fresh : Bool)
  | loadBegun (assembly : String)
  /-- A load was asked to end; `found` if it was open. -/
  | loadEnded (assembly : String) (found : Bool)
  | triggered
  | answered (outcome : Outcome)
  /-- A trigger ended without an answer. -/
  | cutShort
  | compileCalled (blueprint : BlueprintRef) (options : CompileOptions)
  | compileReturned (blueprint : BlueprintRef) (log : MessageLog)
  | collectCalled (keep : ObjectFlags) (fullPurge : Bool)
  | collectReturned
deriving DecidableEq

/-- A recompiler, the open loads, and what has happened so far. -/
structure Workshop where
  recompiler : Recompiler := {}
  loads : LoadLedger := {}
  journal : List Event := []
deriving DecidableEq

namespace Workshop

def record (event : Event) (w : Workshop) : Workshop :=
  { w with journal := w.journal ++ [event] }

def queue (lane : Lane) (blueprint : BlueprintRef) (w : Workshop) : Bool × Workshop :=
  let fresh := (w.recompiler.backlog.find? blueprint).isNone
  let (added, recompiler) := w.recompiler.enqueue lane blueprint
  (added, { w with recompiler }.record (.queued lane blueprint fresh))

def beginLoad (assembly : String) (w : Workshop) : Workshop :=
  { w with loads := w.loads.start assembly }.record (.loadBegun assembly)

def finishLoad (assembly : String) (w : Workshop) : Bool × Workshop :=
  let (found, loads) := w.loads.finish assembly
  (found, { w with loads }.record (.loadEnded assembly found))

def mark (running : Bool) (w : Workshop) : Workshop :=
  { w with recompiler := { w.recompiler with compiling := running } }

def refused (w : Workshop) : Workshop :=
  { w.record .triggered with
    recompiler := w.recompiler.count fun s => { s with reentrant := s.reentrant + 1 } }.record
      (.answered .reentrant)

def recompilerPart : Part Workshop Recompiler where
  read w := w.recompiler
  write recompiler w := { w with recompiler }

end Workshop

/-- A program of acts on a workshop; each act says what comes after its answer. -/
inductive Routine (α : Type) where
  | done (answer : α)
  | raise (message : String)
  | look (next : Workshop → Routine α)
  | queue (lane : Lane) (blueprint : BlueprintRef) (next : Bool → Routine α)
  | beginLoad (assembly : String) (next : Routine α)
  | finishLoad (assembly : String) (next : Bool → Routine α)
  | trigger (next : Outcome → Routine α)

/-- Performs the acts of a routine; `trigger` is what triggering the recompiler does. -/
def Routine.run {α : Type} (trigger : Action Workshop Outcome) : Routine α → Action Workshop α
  | .done answer => pure answer
  | .raise message => throw (.unwound message)
  | .look next => fun w => (next w).run trigger w
  | .queue lane blueprint next => fun w =>
      let (added, w) := w.queue lane blueprint
      (next added).run trigger w
  | .beginLoad assembly next => fun w => next.run trigger (w.beginLoad assembly)
  | .finishLoad assembly next => fun w =>
      let (found, w) := w.finishLoad assembly
      (next found).run trigger w
  | .trigger next => fun w =>
      match trigger w with
      | .ok outcome w => (next outcome).run trigger w
      | .error interruption w => .error interruption w

structure Engine where
  compile : BlueprintRef → CompileOptions → Routine MessageLog
  collect : ObjectFlags → Bool → Routine Unit

namespace Engine

variable (engine : Engine)

/-- The workshop as the place of its recompiler. Calls of the engine are journaled, before and
after their routine runs; log records are not kept. -/
def site (nested : Action Workshop Outcome) : Recompiler.Site Workshop where
  recompiler := Workshop.recompilerPart
  note _ w := w
  isLoading w := w.loads.isLoadingAny
  compile blueprint options := fun w =>
    match (engine.compile blueprint options).run nested
        (w.record (.compileCalled blueprint options)) with
    | .ok log w => .ok log (w.record (.compileReturned blueprint log))
    | .error interruption w => .error interruption w
  collect keep fullPurge := fun w =>
    match (engine.collect keep fullPurge).run nested (w.record (.collectCalled keep fullPurge)) with
    | .ok () w => .ok () (w.record .collectReturned)
    | .error interruption w => .error interruption w

def triggerWith (nested : Action Workshop Outcome) (fuel : Nat) : Action Workshop Outcome := fun w =>
  match (engine.site nested).trigger fuel (w.record .triggered) with
  | .ok outcome w => .ok outcome (w.record (.answered outcome))
  | .error interruption w => .error interruption (w.record .cutShort)

/-- A trigger whose routines may trigger again, `depth` levels deep. Each drain makes at most
`fuel` batches of components. -/
def trigger (fuel : Nat) : Nat → Action Workshop Outcome
  | 0 => fun w => .error .outOfFuel w
  | depth + 1 => engine.triggerWith (trigger fuel depth) fuel

/-- The states between two moves from outside: a workshop starts empty, and each move queues a
blueprint, begins or finishes a load, or is a trigger that came to an answer or to an exception. -/
inductive Reachable (settings : Settings) : Workshop → Prop where
  | start : Reachable settings { recompiler := { settings } }
  | queue {w : Workshop} (earlier : Reachable settings w) (lane : Lane)
      (blueprint : BlueprintRef) : Reachable settings (w.queue lane blueprint).2
  | beginLoad {w : Workshop} (earlier : Reachable settings w) (assembly : String) :
      Reachable settings (w.beginLoad assembly)
  | finishLoad {w : Workshop} (earlier : Reachable settings w) (assembly : String) :
      Reachable settings (w.finishLoad assembly).2
  | answered {w next : Workshop} {outcome : Outcome} {fuel depth : Nat}
      (earlier : Reachable settings w)
      (run : engine.trigger fuel depth w = .ok outcome next) : Reachable settings next
  | unwound {w next : Workshop} {message : String} {fuel depth : Nat}
      (earlier : Reachable settings w)
      (run : engine.trigger fuel depth w = .error (.unwound message) next) :
      Reachable settings next

end Engine

end BlueprintBridge
