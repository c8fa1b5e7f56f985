import BlueprintBridge.Action
import BlueprintBridge.Compile.Backlog
import BlueprintBridge.Compile.MessageLog
import BlueprintBridge.Compile.Settings

/-!
The recompiler: drains the backlog once per load cycle.

A trigger drains the backlog unless a drain is running or an assembly is being loaded. A drain
compiles the components until no more of them come, then the classes waiting at that moment, and
collects garbage once. Compiling and collecting are the engine's work: callbacks that may put
more blueprints on the backlog, trigger again, or throw. Whatever they do, the mark of the
running drain is taken away when the drain ends.
-/

namespace BlueprintBridge

set_option autoImplicit false

/-- What a trigger did. -/
inductive Outcome where
  /-- An assembly is being loaded. -/
  | deferred
  /-- A drain was running already. -/
  | reentrant
  /-- Nothing was waiting. -/
  | empty
  /-- These blueprints were compiled, in this order, and garbage was collected. -/
  | compiled (components classes : List BlueprintRef)
deriving DecidableEq, Repr, Inhabited

def Outcome.blueprints : Outcome → List BlueprintRef
  | compiled components classes => components ++ classes
  | _ => []

/-- Running totals. -/
structure Stats where
  /-- Drains that came to their end. -/
  cycles : Nat := 0
  compiled : Nat := 0
  /-- Compilations with errors. -/
  failed : Nat := 0
  collections : Nat := 0
  deferred : Nat := 0
  reentrant : Nat := 0
deriving DecidableEq, Repr, Inhabited

def Stats.render (s : Stats) : String :=
  let fields := [("cycles", s.cycles), ("blueprints_compiled", s.compiled),
    ("blueprints_failed", s.failed), ("gc_passes", s.collections),
    ("deferred_triggers", s.deferred), ("reentrant_triggers", s.reentrant)]
  "SchedulerStats \x7b " ++ ", ".intercalate (fields.map fun f => f.1 ++ ": " ++ toString f.2) ++
    " \x7d"

/-- What can be seen of a recompiler. -/
inductive RecompilerState where
  | idle | pending | compiling
deriving DecidableEq, Repr

def RecompilerState.name : RecompilerState → String
  | idle => "Idle"
  | pending => "Pending"
  | compiling => "Compiling"

/-- A backlog, the settings of its drains, the mark of a running drain, and the totals. -/
structure Recompiler where
  settings : Settings := {}
  backlog : Backlog := {}
  compiling : Bool := false
  stats : Stats := {}
deriving DecidableEq, Repr, Inhabited

namespace Recompiler

def state (r : Recompiler) : RecompilerState :=
  if r.compiling then .compiling else if r.backlog.isEmpty then .idle else .pending

def count (f : Stats → Stats) (r : Recompiler) : Recompiler := { r with stats := f r.stats }

def countCompilation (failed : Bool) : Recompiler → Recompiler :=
  count fun s =>
    { s with compiled := s.compiled + 1, failed := s.failed + if failed then 1 else 0 }

def takeLane (lane : Lane) (r : Recompiler) : List BlueprintRef × Recompiler :=
  let (batch, backlog) := r.backlog.take lane
  (batch, { r with backlog })

def enqueue (lane : Lane) (blueprint : BlueprintRef) (r : Recompiler) : Bool × Recompiler :=
  let (added, backlog) := r.backlog.enqueue lane blueprint
  (added, { r with backlog })

/-- Where a recompiler lies in a larger state, whether an assembly is being loaded there, and
what the engine does there. -/
structure Site (σ : Type) where
  recompiler : Part σ Recompiler
  note : Record → σ → σ
  isLoading : σ → Bool
  compile : BlueprintRef → CompileOptions → Action σ MessageLog
  collect : ObjectFlags → Bool → Action σ Unit

def compiledRecord (lane : Lane) (blueprint : BlueprintRef) (log : MessageLog) : Record :=
  if log.hasErrors then
    ⟨.warn, s!"Blueprint {blueprint} ({lane}) failed to compile with {log.errors} errors"⟩
  else ⟨.debug, s!"Compiled blueprint {blueprint} ({lane})"⟩

namespace Site

variable {σ : Type} (site : Site σ)

def write (record : Record) : Action σ Unit := fun s => .ok () (site.note record s)

/-- Compiles the blueprints of a batch in order, each counted when it comes back. -/
def compileBatch (lane : Lane) (options : CompileOptions) : List BlueprintRef → Action σ Unit
  | [] => pure ()
  | blueprint :: rest => do
    let log ← site.compile blueprint options
    site.recompiler.modify (countCompilation log.hasErrors)
    site.write (compiledRecord lane blueprint log)
    compileBatch lane options rest

/-- Empties a lane and compiles what was in it. An exception loses the rest of the batch. -/
def compileLane (lane : Lane) : Action σ (List BlueprintRef) := do
  let batch ← site.recompiler.step (takeLane lane)
  let options := (← site.recompiler.get).settings.compileOptions
  site.compileBatch lane options batch
  return batch

/-- Compiles components until none is left waiting, at most `fuel` batches of them. -/
def drainComponents : Nat → Action σ (List BlueprintRef)
  | 0 => throw .outOfFuel
  | fuel + 1 => do
    let batch ← site.compileLane .components
    if batch.isEmpty then return []
    else return batch ++ (← drainComponents fuel)

/-- Compiles all components, then the classes waiting by then, then collects garbage. -/
def drain (fuel : Nat) : Action σ Outcome := do
  let components ← site.drainComponents fuel
  let classes ← site.compileLane .classes
  let settings := (← site.recompiler.get).settings
  site.collect settings.keepFlags settings.fullPurge
  site.recompiler.modify (count fun s =>
    { s with cycles := s.cycles + 1, collections := s.collections + 1 })
  site.write ⟨.info,
    s!"Recompiled {components.length} component and {classes.length} class blueprints"⟩
  return .compiled components classes

/-- A trigger outside of any drain: held back by a load, without effect on an empty backlog. -/
def attempt (fuel : Nat) : Action σ Outcome := fun s =>
  let r := site.recompiler.read s
  if site.isLoading s then
    (do
      site.write ⟨.debug,
        s!"Deferring recompile of {r.backlog.totalSize} blueprints until assemblies finish loading"⟩
      site.recompiler.modify (count fun t => { t with deferred := t.deferred + 1 })
      return .deferred : Action σ Outcome) s
  else if r.backlog.isEmpty then .ok .empty s
  else site.drain fuel s

/-- Compiles everything that waits, if that is allowed now; at most `fuel` batches of
components. -/
def trigger (fuel : Nat) : Action σ Outcome := fun s =>
  if (site.recompiler.read s).compiling then
    (do
      site.write ⟨.debug,
        "Recompile requested during a drain; leaving new entries to the running drain"⟩
      site.recompiler.modify (count fun t => { t with reentrant := t.reentrant + 1 })
      return .reentrant : Action σ Outcome) s
  else
    (site.attempt fuel).ensuring (site.recompiler.update fun r => { r with compiling := false })
      (site.recompiler.update (fun r => { r with compiling := true }) s)

end Site

end Recompiler

end BlueprintBridge
