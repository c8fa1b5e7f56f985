import BlueprintBridge.Handle.Handle
import BlueprintBridge.Layout.LayoutTable
import BlueprintBridge.Reflection.TypeGraph
import BlueprintBridge.Text.Utf8

/-!
The exported calls: what the managed runtime may ask the engine for, and the bindings it asks
through.

Calls work on raw words, raw buffers and zero-terminated names. Until bindings are installed,
which is done once, they find nothing. Sizes cross as signed words of 32 bits, so a size beyond
the largest of these is reported as that one.
-/

namespace BlueprintBridge

set_option autoImplicit false

/-- Why bindings are refused. -/
inductive BindingError where
  | alreadyInstalled
deriving DecidableEq, Repr

def BindingError.message : BindingError → String
  | alreadyInstalled => "Export bindings are already installed"

/-- What the exported calls need to know. -/
structure Bindings where
  /-- The address of the engine's asset manager. -/
  assetManager : UInt64 := 0
  callbacks : RuntimeCallbacks := {}
deriving DecidableEq, Repr, Inhabited

namespace Export

def version : Nat := 1

/-- The largest size that crosses as it is. -/
def largestSize : Nat := 2147483647

def install (installed : Option Bindings) (bindings : Bindings) : Except BindingError Bindings :=
  match installed with
  | some _ => .error .alreadyInstalled
  | none => .ok bindings

def installedRecord : Record := ⟨.info, "Managed export bindings installed"⟩

/-- The address of the asset manager; zero without bindings. -/
def assetManager (installed : Option Bindings) : UInt64 := (installed.map (·.assetManager)).getD 0

/-- The size of a struct; zero for an unknown one. -/
def structSize (installed : Option Bindings) (layouts : LayoutTable) (bits : UInt64) : Nat :=
  match installed with
  | none => 0
  | some _ => min (((layouts.size? (Ref.ofBits bits)).map (·.toNat)).getD 0) largestSize

/-- Copies a struct from one buffer over another; a missing buffer is not copied. -/
def structCopy (installed : Option Bindings) (layouts : LayoutTable) (bits : UInt64)
    (src dest : Option Bytes) : Bool × Option Bytes :=
  match installed, src, dest with
  | some _, some src, some dest =>
    let (copied, bytes) := layouts.copy (Ref.ofBits bits) src dest
    (copied, some bytes)
  | _, _, _ => (false, dest)

/-! ## Names -/

def beforeZero (bytes : Bytes) : Bytes := bytes.takeWhile (· ≠ 0)

/-- The text of a zero-terminated name; one that is no UTF-8 is refused with a warning. -/
def nameText? (bytes : Bytes) : Logged (Option String) :=
  match Text.decodeUtf8 (beforeZero bytes) with
  | .ok text => pure (some text)
  | .error e =>
    ⟨none, [⟨.warn, s!"Managed runtime passed a non UTF-8 name: {e.message}"⟩]⟩

/-- The qualified name of three raw names, read in the order assembly, name, namespace up to the
first one that is refused. A missing namespace is the global one. -/
def typeName? (assembly «namespace» name : Option Bytes) : Logged (Option TypeName) := do
  let some assembly := assembly | return none
  let some assembly ← nameText? assembly | return none
  let some name := name | return none
  let some name ← nameText? name | return none
  match «namespace» with
  | none => return some ⟨assembly, "", name⟩
  | some bytes =>
    let some text ← nameText? bytes | return none
    return some ⟨assembly, text, name⟩

def findClass? (g : TypeGraph) (name : TypeName) : Logged (Option ClassRef) :=
  match g.findClass? name with
  | some ref => pure (some ref)
  | none => ⟨none, [⟨.debug, s!"No native class for '{name}'"⟩]⟩

def findStruct? (g : TypeGraph) (name : TypeName) : Logged (Option StructRef) :=
  match g.findStruct? name with
  | some ref => pure (some ref)
  | none => ⟨none, [⟨.debug, s!"No native struct for '{name}'"⟩]⟩

/-- The bits of the reference that a look-up by raw names finds, or those of the null reference.
The names are read, and a bad one is warned of, with or without bindings. -/
def lookUp {kind : ObjectKind} (installed : Option Bindings)
    (find : TypeName → Logged (Option (Ref kind))) (assembly «namespace» name : Option Bytes) :
    Logged UInt64 := do
  let found ← typeName? assembly «namespace» name
  match installed, found with
  | some _, some typeName => return ((← find typeName).getD .null).toBits
  | _, _ => return (Ref.null : Ref kind).toBits

end Export

end BlueprintBridge
