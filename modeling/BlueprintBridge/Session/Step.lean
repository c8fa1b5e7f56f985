import BlueprintBridge.Compile.MessageLog
import BlueprintBridge.Compile.Registry
import BlueprintBridge.Compile.Backlog
import BlueprintBridge.Export.Bindings
import BlueprintBridge.Host.Announcement

/-!
The steps of a session.

A session is one host with bridges and bare recompilers in numbered slots, numbered registries, a
layout table and the exported calls. Steps are sorted by what they touch: queries change nothing,
graph edits change the type graph and announce nothing, and so on. Four steps carry scripts, that
is, steps to be made later, inside a callback, each with a name for its answer.
-/

namespace BlueprintBridge.Session

set_option autoImplicit false

/-- Questions, which change nothing. -/
inductive Query where
  | snapshot
  -- the host
  | pendingCount
  | isLoading (assembly : String)
  | loading
  | eventInfo (event : EventKind)
  | eventsText
  | isObserved (event issuer : EventKind) (label : String)
  -- the type graph
  | ownerOf (ref : ClassRef)
  | isComponent (ref : ClassRef)
  | generatedClass (owner : BlueprintRef)
  | blueprintKind (ref : BlueprintRef)
  | structReferences (ref : StructRef)
  | enumReferences (ref : EnumRef)
  | managedPackages
  | blueprintsIn (package : PackageRef)
  | bases
  | classAt (ref : ClassRef)
  | findClass (name : TypeName)
  | findStruct (name : TypeName)
  | findEnum (name : TypeName)
  | derivesFrom (ref base : ClassRef)
  | classCount
  | packageAt (ref : PackageRef)
  | findPackage (name : String)
  | blueprintAt (ref : BlueprintRef)
  | structAt (ref : StructRef)
  | enumAt (ref : EnumRef)
  -- layouts
  | layoutOf (ref : StructRef)
  | layoutSize (ref : StructRef)
  | layoutCount
  | layoutCopy (ref : StructRef) (src dest : Bytes)
  -- exported calls without a trace
  | bindingsInfo
  | exportTable
  | exportSize (bits : UInt64)
  | exportCopy (bits : UInt64) (src dest : Option Bytes)
deriving Repr

/-- Changes of the type graph that nobody is told of. -/
inductive GraphEdit where
  | ensurePackage (name : String)
  | createBlueprint (package : PackageRef) (name : String)
  | destroyBlueprint (ref : BlueprintRef)
  | addClass (c : ManagedClass)
  | removeClass (ref : ClassRef)
  | editClass (ref : ClassRef) (superClass : Option ClassRef) (generatedBy : Option BlueprintRef)
  | setSuper (ref parent : ClassRef)
  | addPackage (package : Package)
  | addBlueprint (blueprint : Blueprint)
  | removeBlueprint (ref : BlueprintRef)
  | bind (owner : BlueprintRef) (ref : ClassRef)
  | addStruct (s : ManagedStruct)
  | addEnum (e : ManagedEnum)
  | setStructReferences (ref : StructRef) (refs : ReferenceSet)
  | setEnumReferences (ref : EnumRef) (refs : ReferenceSet)
deriving Repr

/-- Work of the host that may be announced. -/
inductive HostStep where
  | defineClass (d : ClassDefinition)
  | defineStruct (s : ManagedStruct)
  | defineEnum (e : ManagedEnum)
  | processPending
  | beginLoad (assembly : String)
  | finishLoad (assembly : String)
  /-- Opens a load without a word. -/
  | openGate (assembly : String)
  /-- Ends a load without a word. -/
  | closeGate (assembly : String)
deriving Repr

/-- Questions about the recompiler of a slot. -/
inductive SlotQuery where
  | bridgeInfo
  | state
  | stats
  | settings
  | snapshot (lane : Lane)
  | contains (lane : Lane) (blueprint : BlueprintRef)
  | find (blueprint : BlueprintRef)
  | laneSize (lane : Lane)
deriving Repr

/-- Work of the bridge or bare recompiler of a slot. -/
inductive SlotStep where
  | ask (query : SlotQuery)
  | shutdown
  | drop
  | trigger
  | assemblyLoaded (assembly : String)
  | queueClass (ref : ClassRef)
  | queueStruct (ref : StructRef)
  | queueEnum (ref : EnumRef)
  | queueReferences (refs : ReferenceSet)
  | reconcile
  | enqueue (lane : Lane) (blueprint : BlueprintRef)
  | take (lane : Lane)
deriving Repr

/-- Which context to make. -/
inductive ContextChoice where
  | registered | standard | managed
deriving DecidableEq, Repr

/-- Work of a registry. -/
inductive RegistryStep where
  | installHook
  | registerFactory (kind : BlueprintKind) (name : String)
  | hasFactory (kind : BlueprintKind)
  | addCompiler (entry : CompilerEntry)
  | compilers
  | findCompiler (kind : BlueprintKind)
  | compileWith (choice : ContextChoice) (target : CompileTarget) (options : CompileOptions)
  | compile (blueprint : BlueprintRef) (options : CompileOptions)
  | text
deriving Repr

/-- Changes of the layout table. -/
inductive LayoutStep where
  | register (ref : StructRef) (layout : NativeLayout)
  | remove (ref : StructRef)

/-- Look-ups by name and exported calls that leave a trace. -/
inductive ExportStep where
  | findClass (name : TypeName)
  | findStruct (name : TypeName)
  | install (bindings : Bindings)
  | release (address : UInt64) (kind : HandleKind)
  | disposeObject (address : UInt64)
  | lookUpClass (assembly «namespace» name : Option Bytes)
  | lookUpStruct (assembly «namespace» name : Option Bytes)
deriving Repr

/-- How a slot is filled. -/
structure Setup where
  slot : Nat
  registry : Nat
  /-- Whether compilations end in the registry. -/
  throughRegistry : Bool
  /-- Settings as a TOML document; without it they are the defaults. -/
  settings : Option String

/-- One step. -/
inductive Step where
  | ask (query : Query)
  | edit (edit : GraphEdit)
  | host (step : HostStep)
  /-- Makes steps while an assembly is loaded; the load then succeeds, or fails for want of a
  package. -/
  | loadAssembly (assembly : String) (steps : List (String × Step)) (missing : Option String)
  /-- Subscribes an observer, whose calls run these scripts, one each. -/
  | observe (event : EventKind) (label : String) (scripts : List (List (String × Step)))
  /-- Gives back an observer's token to the channel of `event`. -/
  | unobserve (event issuer : EventKind) (label : String)
  /-- Starts a bridge in a slot. -/
  | startup (setup : Setup)
  /-- Puts a recompiler without a bridge into a slot. -/
  | bare (setup : Setup)
  | slot (id : Nat) (step : SlotStep)
  /-- What the next compilation of a blueprint does, and what it says. -/
  | scriptCompile (blueprint : BlueprintRef) (steps : List (String × Step))
    (messages : List Message)
  /-- What the next collection does. -/
  | scriptCollect (steps : List (String × Step))
  | registry (id : Nat) (step : RegistryStep)
  | layout (step : LayoutStep)
  | exported (step : ExportStep)
  /-- Throws an exception. -/
  | raise (message : String)

/-- Steps made one after the other, each with the name under which its answer is traced. -/
abbrev Script := List (String × Step)

mutual

/-- How many steps there are in a step, itself and all scripts counted. -/
def Step.weight : Step → Nat
  | .loadAssembly _ steps _ => scriptWeight steps + 1
  | .observe _ _ scripts => scriptsWeight scripts + 1
  | .scriptCompile _ steps _ => scriptWeight steps + 1
  | .scriptCollect steps => scriptWeight steps + 1
  | _ => 1

def scriptWeight : List (String × Step) → Nat
  | [] => 0
  | (_, step) :: rest => step.weight + scriptWeight rest

def scriptsWeight : List (List (String × Step)) → Nat
  | [] => 0
  | script :: rest => scriptWeight script + scriptsWeight rest

end

end BlueprintBridge.Session
