/-!
The open loads: which assemblies are being loaded, each as often as its load was begun.

Nothing is recompiled while a load is open, since half of an assembly is an incomplete graph.
-/

namespace BlueprintBridge

set_option autoImplicit false

/-- Names of the assemblies being loaded, in the order the loads were begun. -/
structure LoadLedger where
  entries : List String := []
deriving DecidableEq, Repr, Inhabited

namespace LoadLedger

def start (l : LoadLedger) (assembly : String) : LoadLedger := ⟨l.entries ++ [assembly]⟩

def isLoading (l : LoadLedger) (assembly : String) : Bool := assembly ∈ l.entries

def isLoadingAny (l : LoadLedger) : Bool := !l.entries.isEmpty

/-- Ends the load of this name begun first; tells whether there was one. -/
def finish (l : LoadLedger) (assembly : String) : Bool × LoadLedger :=
  (l.isLoading assembly, ⟨l.entries.erase assembly⟩)

def count (l : LoadLedger) (assembly : String) : Nat := l.entries.count assembly

theorem count_start (l : LoadLedger) (assembly other : String) :
    (l.start assembly).count other = l.count other + if assembly = other then 1 else 0 := by
  simp [start, count, List.count_singleton]

theorem finish_fst (l : LoadLedger) (assembly : String) :
    (l.finish assembly).1 = true ↔ 0 < l.count assembly := by
  simp [finish, isLoading, count, List.count_pos_iff]

theorem count_finish (l : LoadLedger) (assembly other : String) :
    (l.finish assembly).2.count other = l.count other - if assembly = other then 1 else 0 := by
  simp [finish, count, List.count_erase]

end LoadLedger

end BlueprintBridge
