/-!
Qualified names of managed types.

Names order by assembly, then namespace, then plain name, each by its code points.
-/

namespace BlueprintBridge

set_option autoImplicit false

/-- A type's assembly, its namespace (empty for the global one) and its plain name. -/
structure TypeName where
  assembly : String
  «namespace» : String
  name : String
deriving DecidableEq, Repr, Inhabited, Ord

namespace TypeName

def blank : TypeName := ⟨"", "", ""⟩

/-- The name as messages show it; the global namespace leaves no trace. -/
def render (n : TypeName) : String :=
  if n.namespace.isEmpty then s!"{n.assembly}::{n.name}"
  else s!"{n.assembly}::{n.namespace}.{n.name}"

instance : ToString TypeName := ⟨render⟩

end TypeName

end BlueprintBridge
