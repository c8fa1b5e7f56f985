import BlueprintBridge.Catalog
import BlueprintBridge.Compile.Flags
import BlueprintBridge.Compile.MessageLog
import BlueprintBridge.Log
import BlueprintBridge.Reflection.TypeGraph

/-!
The compiler registry: which context compiles the blueprints of a kind, and which compilers are
listed for it.

Without a factory for its kind a blueprint gets the default context. The hook for managed
blueprints takes the factory of their kind, once, and lists one compiler.
-/

namespace BlueprintBridge

set_option autoImplicit false

/-- What a context is asked to compile. -/
structure CompileTarget where
  blueprint : BlueprintRef
  kind : BlueprintKind
  generatedClass : Option ClassRef := none
deriving DecidableEq, Repr

/-- How a context compiles. -/
inductive ContextKind where
  | standard
  /-- Needs the generated class of the blueprint. -/
  | managed (options : CompileOptions)
  /-- Warns that it saw the blueprint. -/
  | named (name : String)
deriving DecidableEq, Repr

/-- One compilation about to be made. -/
structure CompileContext where
  kind : ContextKind
  target : CompileTarget
deriving DecidableEq, Repr

namespace CompileContext

def name (c : CompileContext) : String :=
  match c.kind with
  | .standard => "default"
  | .managed _ => "managed"
  | .named name => name

/-- Compiles the target and adds what there is to say about it to a log. -/
def compile (c : CompileContext) (log : MessageLog) : MessageLog :=
  let blueprint := c.target.blueprint
  match c.kind with
  | .standard => log.note s!"Compiled {blueprint} with the default context"
  | .managed _ =>
    if c.target.generatedClass.isNone then
      log.error s!"Managed blueprint {blueprint} has no generated class"
    else log.note s!"Compiled {blueprint} with the managed context"
  | .named name => log.warning s!"{name} saw {blueprint}"

end CompileContext

/-- What makes the contexts for the blueprints of one kind. -/
inductive ContextFactory where
  | managed
  | named (name : String)
deriving DecidableEq, Repr

def ContextFactory.make (f : ContextFactory) (target : CompileTarget)
    (options : CompileOptions) : CompileContext :=
  match f with
  | managed => ⟨.managed options, target⟩
  | named name => ⟨.named name, target⟩

/-- A listed compiler and the kinds it accepts. -/
structure CompilerEntry where
  name : String
  accepted : List BlueprintKind
deriving DecidableEq, Repr

namespace CompilerEntry

def accepts (c : CompilerEntry) (kind : BlueprintKind) : Bool := kind ∈ c.accepted

def managed : CompilerEntry := ⟨"ManagedBlueprintCompiler", [.managed]⟩

end CompilerEntry

/-- Why a registry refuses an operation. -/
inductive RegistryError where
  | factoryTaken (kind : BlueprintKind)
deriving DecidableEq, Repr

def RegistryError.message : RegistryError → String
  | factoryTaken kind => s!"A compiler context factory for {kind} blueprints is already registered"

/-- Factories by kind and compilers in the order they were listed. -/
structure CompilerRegistry where
  factories : Catalog BlueprintKind ContextFactory := .empty
  compilers : List CompilerEntry := []

instance : Inhabited CompilerRegistry := ⟨{}⟩

namespace CompilerRegistry

def hasFactory (r : CompilerRegistry) (kind : BlueprintKind) : Bool := r.factories.contains kind

/-- Gives a kind its factory; a kind has at most one. -/
def registerFactory (r : CompilerRegistry) (kind : BlueprintKind) (factory : ContextFactory) :
    Except RegistryError CompilerRegistry :=
  if r.hasFactory kind then .error (.factoryTaken kind)
  else .ok { r with factories := r.factories.insert kind factory }

def addCompiler (r : CompilerRegistry) (c : CompilerEntry) : CompilerRegistry :=
  { r with compilers := r.compilers ++ [c] }

/-- The first listed compiler that accepts a kind. -/
def findCompiler? (r : CompilerRegistry) (kind : BlueprintKind) : Option CompilerEntry :=
  r.compilers.find? (·.accepts kind)

/-- The context for a target: its kind's factory makes it, or it is the default one. -/
def contextFor (r : CompilerRegistry) (target : CompileTarget) (options : CompileOptions) :
    CompileContext :=
  match r.factories.get? target.kind with
  | some factory => factory.make target options
  | none => ⟨.standard, target⟩

/-- Takes the factory of managed blueprints and lists their compiler. -/
def installHook (r : CompilerRegistry) : Except RegistryError CompilerRegistry :=
  (r.registerFactory .managed .managed).map (·.addCompiler .managed)

def hookRecord : Record := ⟨.info, "Managed blueprint compiler registered"⟩

def contextOf? (r : CompilerRegistry) (g : TypeGraph) (blueprint : BlueprintRef)
    (options : CompileOptions) : Option CompileContext :=
  (g.blueprint? blueprint).map fun b =>
    r.contextFor ⟨blueprint, b.kind, g.generatedClass? blueprint⟩ options

def compilingRecord (c : CompileContext) : Record :=
  ⟨.trace, s!"Compiling {c.target.blueprint} with the {c.name} context"⟩

def compile (r : CompilerRegistry) (g : TypeGraph) (blueprint : BlueprintRef)
    (options : CompileOptions) : MessageLog :=
  match r.contextOf? g blueprint options with
  | none => MessageLog.empty.error s!"Blueprint {blueprint} no longer exists"
  | some c => c.compile .empty

def render (r : CompilerRegistry) : String :=
  let kinds := [BlueprintKind.native, .managed].filter r.hasFactory
  "KismetCompilerRegistry \x7b factories: [" ++ ", ".intercalate (kinds.map (·.word)) ++
    "], compilers: " ++ toString r.compilers.length ++ " \x7d"

end CompilerRegistry

end BlueprintBridge
