import BlueprintBridge.Compile.Flags

/-!
The settings of a recompiler.
-/

namespace BlueprintBridge

set_option autoImplicit false

/-- What can be set about recompilation and the collection after it. -/
structure Settings where
  /-- Objects with these flags survive the collection after a drain. -/
  keepFlags : ObjectFlags := .keepDuringCollection
  /-- Unreachable objects are purged at once. -/
  fullPurge : Bool := true
  /-- The engine's own collection after each compilation is skipped. -/
  skipCollections : Bool := true
  /-- Blueprints of the managed packages already loaded are queued at start-up. -/
  reconcileOnStartup : Bool := true
deriving DecidableEq, Repr, Inhabited

def Settings.compileOptions (s : Settings) : CompileOptions :=
  if s.skipCollections then .skipGarbageCollection else .none

end BlueprintBridge
