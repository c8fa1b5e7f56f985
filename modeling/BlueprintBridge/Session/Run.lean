import BlueprintBridge.Session.Perform

/-!
Running a session.

Every script is run at most once, so scripts nest no deeper than there are steps in the session,
and a drain compiles no more batches of components than steps put blueprints on the backlog, and
two. The weight of the session therefore bounds every recursion.
-/

namespace BlueprintBridge.Session

set_option autoImplicit false

/-- Makes the steps of a script; each that comes back leaves its answer in the trace. -/
def runScript : Nat → Script → Act Unit
  | 0, _ => throw .outOfFuel
  | fuel + 1, script => script.forM fun (name, step) => do
    let reply ← perform (runScript fuel) fuel step
    change (·.emit (.made name reply))

def fuelFor (steps : List Step) : Nat :=
  steps.foldr (fun step weight => step.weight + weight) 0 + 3

/-- What a step answered, what happened meanwhile, and what can be seen afterwards. -/
structure Report where
  reply : Reply
  trace : List TraceEntry
  snapshot : Snapshot

/-- Makes one step of the session itself. An exception ends here, as the step's answer. -/
def top (fuel : Nat) (w : World) (step : Step) : Report × World :=
  let (reply, w) :=
    match perform (runScript fuel) fuel step { w with trace := [] } with
    | .ok reply w => (reply, w)
    | .error (.unwound message) w => (Reply.failed (.unwound message), w)
    | .error .outOfFuel w => (Reply.failed .outOfFuel, w)
  (⟨reply, w.trace, w.snapshot⟩, w)

def topAll (fuel : Nat) : World → List Step → List Report × World
  | w, [] => ([], w)
  | w, step :: rest =>
    let (report, w) := top fuel w step
    let (reports, w) := topAll fuel w rest
    (report :: reports, w)

/-- Empties all slots in the order of their numbers; gives what happens. -/
def close (w : World) : List TraceEntry :=
  let drops : Act Unit := w.sortedSlots.forM fun slot => dropTenant (some slot.2)
  match drops { w with trace := [] } with
  | .ok _ w => w.trace
  | .error _ w => w.trace

/-- The reports of a session's steps, and what happens when it is closed. -/
def run (verbosity : Option Level) (steps : List Step) : List Report × List TraceEntry :=
  let (reports, w) := topAll (fuelFor steps) { verbosity } steps
  (reports, close w)

end BlueprintBridge.Session
