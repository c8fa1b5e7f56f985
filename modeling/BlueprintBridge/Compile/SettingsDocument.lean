import BlueprintBridge.Compile.FlagText
import BlueprintBridge.Compile.Settings
import BlueprintBridge.File.Tree
import BlueprintBridge.Toml.Document

/-!
Settings read from a document.

Each setting has a key of its own at the top of the document. A setting that is missing keeps its
default, and keys that name no setting are ignored.
-/

namespace BlueprintBridge

set_option autoImplicit false

/-- Why settings cannot be had. -/
inductive SettingsError where
  /-- The file at this path cannot be read as a text. -/
  | unreadable (path : String) (cause : FileError)
  /-- The document is malformed, or a setting has a value of the wrong type. -/
  | invalid
deriving DecidableEq, Repr

def SettingsError.message : SettingsError → String
  | unreadable path cause => s!"Failed to read settings '{path}': {cause.message}"
  | invalid => "Invalid settings"

namespace Settings

/-- The entry under a key as a value of some type, or a default where there is none. -/
def entryOr {α : Type} (entries : Catalog String Toml.Node) (key : String) (default : α)
    (read : Toml.Node → Option α) : Option α :=
  match entries.get? key with
  | some node => read node
  | none => some default

def flag? : Toml.Node → Option Bool
  | .boolean b => some b
  | _ => none

def objectFlags? : Toml.Node → Option ObjectFlags
  | .string text => ObjectFlags.parse? text
  | _ => none

def ofEntries? (entries : Catalog String Toml.Node) : Option Settings := do
  let standard : Settings := {}
  let keepFlags ← entryOr entries "gc_keep_flags" standard.keepFlags objectFlags?
  let fullPurge ← entryOr entries "full_purge" standard.fullPurge flag?
  let skipCollections ← entryOr entries "skip_per_blueprint_gc" standard.skipCollections flag?
  let reconcileOnStartup ←
    entryOr entries "reconcile_on_startup" standard.reconcileOnStartup flag?
  return { keepFlags, fullPurge, skipCollections, reconcileOnStartup }

def ofDocument? (document : String) : Except SettingsError Settings :=
  match (Toml.document? document).bind ofEntries? with
  | some settings => .ok settings
  | none => .error .invalid

def load (files : FileTree) (path : String) : Except SettingsError Settings :=
  match files.read ([files], .emptyDirectory) path >>= FileTree.textOf with
  | .ok document => ofDocument? document
  | .error cause => .error (.unreadable path cause)

end Settings

end BlueprintBridge
