import BlueprintBridge.Session.World

/-!
The answers of the steps that change nothing, and of the edits of the type graph.
-/

namespace BlueprintBridge.Session

set_option autoImplicit false

namespace World

def checkedCopy (reach : Nat) (src dest : Bytes) (copy : Bool × Bytes) : Reply :=
  match guardCopy reach src dest copy with
  | some (copied, bytes) => .copied copied (some bytes)
  | none => .failed .bufferTooSmall

def answer (w : World) : Query → Reply
  | .snapshot => .snapshot w.snapshot
  | .pendingCount => .count w.host.parked.length
  | .isLoading assembly => .flag (w.host.loads.isLoading assembly)
  | .loading => .loading w.host.loads.entries w.host.loads.isLoadingAny
  | .eventInfo event =>
    let c := w.host.channels.get event
    .eventInfo c.name c.subscriberCount c.isBound c.render
  | .eventsText => .text w.host.channels.render
  | .isObserved event issuer label =>
    match w.tokens.get? (issuer, label) with
    | some token => .flag ((w.host.channels.get event).isSubscribed token)
    | none => .failed .noToken
  | .ownerOf ref => .reference (w.host.graph.ownerOf? ref)
  | .isComponent ref => .flag (w.host.graph.isComponent ref)
  | .generatedClass owner => .reference (w.host.graph.generatedClass? owner)
  | .blueprintKind ref => .kind ((w.host.graph.blueprint? ref).map (·.kind))
  | .structReferences ref =>
    .managedReferences ((w.host.graph.struct? ref).map (·.references.entries))
  | .enumReferences ref => .managedReferences ((w.host.graph.enum? ref).map (·.references.entries))
  | .managedPackages => .references w.host.graph.managedPackages
  | .blueprintsIn package => .references (w.host.graph.blueprintsIn package)
  | .bases => .bases w.host.graph.objectClass w.host.graph.componentClass
  | .classAt ref => .classAt (w.host.graph.class? ref)
  | .findClass name => .reference (w.host.graph.findClass? name)
  | .findStruct name => .reference (w.host.graph.findStruct? name)
  | .findEnum name => .reference (w.host.graph.findEnum? name)
  | .derivesFrom ref base => .flag (w.host.graph.derivesFrom ref base)
  | .classCount => .count w.host.graph.classCount
  | .packageAt ref => .packageAt (w.host.graph.package? ref)
  | .findPackage name => .reference (w.host.graph.findPackage? name)
  | .blueprintAt ref => .blueprintAt (w.host.graph.blueprint? ref)
  | .structAt ref => .typeAt ((w.host.graph.struct? ref).map fun s => (s.name, s.references))
  | .enumAt ref => .typeAt ((w.host.graph.enum? ref).map fun e => (e.name, e.references))
  | .layoutOf ref => .layout (w.layouts.get? ref)
  | .layoutSize ref => .optionalWord (w.layouts.size? ref)
  | .layoutCount => .tally w.layouts.count (w.layouts.count = 0)
  | .layoutCopy ref src dest =>
    checkedCopy (w.layouts.copyReach ref) src dest (w.layouts.copy ref src dest)
  | .bindingsInfo => .bindingsInfo w.bindings
  | .exportTable => .exportTable w.bindings
  | .exportSize bits => .count (Export.structSize w.bindings w.layouts bits)
  | .exportCopy bits src dest =>
    let copy := Export.structCopy w.bindings w.layouts bits src dest
    match w.bindings, src, dest with
    | some _, some src, some before =>
      checkedCopy (w.layouts.copyReach (Ref.ofBits bits)) src before (copy.1, copy.2.getD before)
    | _, some _, some _ => .copied copy.1 copy.2
    | _, _, _ => .copied copy.1 none

end World

def replyOf {α ε : Type} (wrap : ε → Failure) (reply : α → Reply) : Except ε α → Reply
  | .ok a => reply a
  | .error e => .failed (wrap e)

/-- An edit that gives the next graph or fails. -/
def editOr {α : Type} (g : TypeGraph) (reply : α → Reply) :
    Except GraphError (α × TypeGraph) → Reply × TypeGraph
  | .ok (a, next) => (reply a, next)
  | .error e => (.failed (.graph e), g)

def GraphEdit.apply (g : TypeGraph) : GraphEdit → Reply × TypeGraph
  | .ensurePackage name =>
    let (ref, next) := g.ensurePackage name
    (.reference (some ref), next)
  | .createBlueprint package name =>
    match g.createBlueprint package name with
    | .ok (ref, next) => (.reference (some ref), next)
    | .error e => (.failed (.host e), g)
  | .destroyBlueprint ref =>
    let (removed, next) := g.removeBlueprint ref
    (.flag removed.isSome, next)
  | .addClass c => editOr g (fun ref => .reference (some ref)) (g.addClass c)
  | .removeClass ref =>
    let (removed, next) := g.removeClass ref
    (.classAt removed, next)
  | .editClass ref superClass generatedBy =>
    let (live, next) := g.editClass ref superClass generatedBy
    (.flag live, next)
  | .setSuper ref parent => editOr g (fun _ => .nothing) ((g.setSuper ref parent).map ((), ·))
  | .addPackage package =>
    let (ref, next) := g.addPackage package
    (.reference (some ref), next)
  | .addBlueprint blueprint =>
    let (ref, next) := g.addBlueprint blueprint
    (.reference (some ref), next)
  | .removeBlueprint ref =>
    let (removed, next) := g.removeBlueprint ref
    (.blueprintAt removed, next)
  | .bind owner ref => editOr g (fun _ => .nothing) ((g.bind owner ref).map ((), ·))
  | .addStruct s => editOr g (fun ref => .reference (some ref)) (g.addStruct s)
  | .addEnum e => editOr g (fun ref => .reference (some ref)) (g.addEnum e)
  | .setStructReferences ref refs =>
    editOr g (fun _ => .nothing) ((g.setStructReferences ref refs).map ((), ·))
  | .setEnumReferences ref refs =>
    let (live, next) := g.setEnumReferences ref refs
    (.flag live, next)

end BlueprintBridge.Session
