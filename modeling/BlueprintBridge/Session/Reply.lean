import BlueprintBridge.Compile.Recompiler
import BlueprintBridge.Compile.Settings
import BlueprintBridge.Host.AssemblyHost
import BlueprintBridge.Session.Step

/-!
What the steps of a session answer, and the trace of what happens while they are made.
-/

namespace BlueprintBridge.Session

set_option autoImplicit false

/-- Why a step could not be made. -/
inductive Failure where
  | graph (error : GraphError)
  | host (error : HostError)
  | registry (error : RegistryError)
  | layout (error : LayoutError)
  | binding (error : BindingError)
  | invalidSettings
  /-- The slot is empty, or does not hold what the step needs. -/
  | noSlot
  /-- There is no token of that label. -/
  | noToken
  /-- A buffer is too short for the copy. -/
  | bufferTooSmall
  /-- No bindings are installed. -/
  | noCallbacks
  /-- A callback threw this. -/
  | unwound (message : String)
  | outOfFuel
deriving DecidableEq, Repr

/-- A recompiler as it can be seen from outside. -/
structure SlotView where
  slot : Nat
  recompiler : Recompiler
deriving DecidableEq, Repr

/-- The state of a session at a glance. -/
structure Snapshot where
  classes : Nat
  pending : Nat
  loading : List String
  /-- The number of handlers on each channel. -/
  subscribers : List Nat
  slots : List SlotView
deriving DecidableEq, Repr

/-- What is known of a running or stopped bridge. -/
structure BridgeInfo where
  running : Bool
  startup : Outcome
  registry : String
  settings : Settings
  queued : Nat
deriving DecidableEq, Repr

/-- What a step answers. -/
inductive Reply where
  | nothing
  | flag (value : Bool)
  | count (value : Nat)
  | text (value : String)
  | texts (values : List String)
  | optionalText (value : Option String)
  | word (value : UInt64)
  | optionalWord (value : Option UInt64)
  | reference {kind : ObjectKind} (ref : Option (Ref kind))
  | references {kind : ObjectKind} (refs : List (Ref kind))
  | managedReferences (refs : Option (List ManagedReference))
  | token (token : Token)
  | eventInfo (name : String) (subscribers : Nat) (bound : Bool) (text : String)
  | loading (names : List String) (any : Bool)
  | bases (object component : ClassRef)
  | classAt (c : Option ManagedClass)
  | blueprintAt (b : Option Blueprint)
  | packageAt (p : Option Package)
  | typeAt (entry : Option (TypeName × ReferenceSet))
  | kind (kind : Option BlueprintKind)
  | outcome (outcome : Outcome)
  | running (before after : Bool)
  | bridgeInfo (info : BridgeInfo)
  | state (state : RecompilerState)
  | stats (stats : Stats)
  | settings (settings : Settings)
  | lane (lane : Option Lane)
  | size (length total : Nat) (isEmpty : Bool)
  | tally (length : Nat) (isEmpty : Bool)
  | snapshot (snapshot : Snapshot)
  | compilers (entries : List CompilerEntry)
  | compiledWith (context : CompileContext) (options : Option CompileOptions) (log : MessageLog)
  | results (log : MessageLog)
  | layout (layout : Option NativeLayout)
  | copied (value : Bool) (dest : Option Bytes)
  | bindingsInfo (bindings : Option Bindings)
  | exportTable (bindings : Option Bindings)
  | failed (failure : Failure)

/-- Something that happened while a step was made. -/
inductive TraceEntry where
  | log (record : Record)
  /-- The step of this name in a script was made. -/
  | made (name : String) (reply : Reply)
  /-- An observer was called. -/
  | observed (label : String) (news : Announcement)
  /-- The engine of a slot was asked to compile. -/
  | compile (slot : Nat) (blueprint : BlueprintRef) (options : CompileOptions)
  /-- The registry compiled for a slot. -/
  | compiled (slot : Nat) (log : MessageLog)
  /-- The engine of a slot was asked to collect garbage. -/
  | collect (slot : Nat) (keep : ObjectFlags) (fullPurge : Bool)
  /-- A named factory made a context. -/
  | factory (name : String) (target : CompileTarget) (options : CompileOptions)
  | handle (effect : HandleEffect)

end BlueprintBridge.Session
