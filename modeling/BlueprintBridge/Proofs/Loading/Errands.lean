import BlueprintBridge.Host.AssemblyHost
import BlueprintBridge.Proofs.Chronicle

/-!
# Errands: programs that load assemblies

An errand begins and finishes loads on a host, puts errands inside of loads, looks around, throws
and goes on after an exception, choosing each act by what came before. The subscribers of the host
run errands of their own when they are called. A dock is the host with a journal of its loads, and a
chronicle of both.
-/

namespace BlueprintBridge.Loading

set_option autoImplicit false

inductive LoadEvent where
  | begun (assembly : String)
  /-- A load is asked to end; `found` if one of this name is open. -/
  | ended (assembly : String) (found : Bool)
  /-- A load ends because an exception cuts short what is done inside of it. -/
  | aborted (assembly : String) (found : Bool)
  /-- The clerk hears of something. -/
  | heard (news : Announcement)
deriving DecidableEq

def LoadEvent.finish? : LoadEvent → Option (String × Bool)
  | ended assembly found => some (assembly, found)
  | aborted assembly found => some (assembly, found)
  | _ => none

/-- Subscribers of a host. The clerk does nothing but write down what it hears. -/
inductive Listener where
  | clerk
  | other (number : Nat)
deriving DecidableEq

/-- A host and what has happened to its loads so far. -/
structure Moment where
  host : AssemblyHost Listener := {}
  journal : List LoadEvent := []

namespace Moment

def record (event : LoadEvent) (m : Moment) : Moment := { m with journal := m.journal ++ [event] }

def ending (assembly : String) (m : Moment) : LoadEvent :=
  .ended assembly (m.host.loads.isLoading assembly)

def aborting (assembly : String) (m : Moment) : LoadEvent :=
  .aborted assembly (m.host.loads.isLoading assembly)

end Moment

abbrev Dock := Chronicle Moment

def note (event : Moment → LoadEvent) (w : Dock) : Dock := w.change fun m => m.record (event m)

def closing {α : Type} (assembly : String) (body : Action Dock α) : Action Dock α := fun w =>
  match body w with
  | .ok answer w => .ok answer (note (Moment.ending assembly) w)
  | .error e w => .error e (note (Moment.aborting assembly) w)

def siteWith (react : Nat → Announcement → Action Dock Unit) :
    AssemblyHost.Site Dock Listener where
  host :=
    { read := fun w => w.now.host
      write := fun host w => w.change fun m => { m with host } }
  note _ w := w
  call news
    | .clerk => fun w => .ok () (note (fun _ => .heard news) w)
    | .other number => react number news

/-- A program of acts on a dock; each act says what comes after its answer. -/
inductive Errand (R : Type) where
  | done (answer : Except HostError R)
  | raise (message : String)
  | look (next : Dock → Errand R)
  | beginLoad (assembly : String) (next : Errand R)
  | finishLoad (assembly : String) (next : Except HostError Unit → Errand R)
  /-- Runs an errand inside of a load. -/
  | loadAssembly (assembly : String) (generate : Errand R) (next : Except HostError R → Errand R)
  /-- Runs an errand, and goes on also if it throws. -/
  | attempt (inner : Errand R) (next : Option (Except HostError R) → Errand R)

def Errand.run {R : Type} (site : AssemblyHost.Site Dock Listener) :
    Errand R → Action Dock (Except HostError R)
  | .done answer => do
    Chronicle.mark
    return answer
  | .raise message => do
    Chronicle.mark
    throw (.unwound message)
  | .look next => do
    Chronicle.mark
    fun w => (next w).run site w
  | .beginLoad assembly next => do
    Chronicle.mark
    modify (note fun _ => .begun assembly)
    site.beginLoad assembly
    next.run site
  | .finishLoad assembly next => do
    Chronicle.mark
    modify (note (Moment.ending assembly))
    let answer ← site.finishLoad assembly
    (next answer).run site
  | .loadAssembly assembly generate next => do
    Chronicle.mark
    modify (note fun _ => .begun assembly)
    let answer ← site.loadAssembly assembly (closing assembly (generate.run site))
    (next answer).run site
  | .attempt inner next => do
    Chronicle.mark
    let answer ← (inner.run site).caught
    (next answer).run site

/-- The dock where the other subscribers run errands, which may make more calls, `depth` levels
deep. -/
def siteAt {R : Type} (react : Nat → Announcement → Errand R) :
    Nat → AssemblyHost.Site Dock Listener
  | 0 => siteWith fun _ _ => throw .outOfFuel
  | depth + 1 => siteWith fun number news => do
    let _ ← (react number news).run (siteAt react depth)

end BlueprintBridge.Loading
