import BlueprintBridge.Host.Parking

/-!
# The trials of parked definitions

Retrying parked definitions is one trial after the other: each goes on with the graph that the one
before it left, also when that one failed. The passes then give what their trials made, and keep
parked what found no parent.
-/

namespace BlueprintBridge

set_option autoImplicit false

/-- A parked definition that was tried, with the graphs before and after. -/
structure Trial where
  definition : ClassDefinition
  before : TypeGraph
  answer : Except GraphError (Option ClassRef)
  after : TypeGraph

namespace Trial

def made : Trial → Option ClassRef
  | ⟨_, _, .ok (some ref), _⟩ => some ref
  | _ => none

def records : Trial → List Record
  | ⟨d, _, .ok (some ref), _⟩ => [TypeGraph.generatedRecord d ref]
  | ⟨_, _, .ok none, _⟩ => []
  | ⟨d, _, .error e, _⟩ => [TypeGraph.droppedRecord d e]

def Successive : TypeGraph → List Trial → TypeGraph → Prop
  | first, [], last => first = last
  | first, trial :: rest, last =>
      trial.before = first ∧ first.generate trial.definition = (trial.answer, trial.after) ∧
        Successive trial.after rest last

/-- What trials made, wrote and left, taken together, is the outcome of a pass. -/
structure Account (g : TypeGraph) (trials : List Trial) (pass : Logged Pass) : Prop where
  successive : Successive g trials pass.value.graph
  generated : pass.value.generated = trials.filterMap made
  records : pass.records = trials.flatMap records

theorem Successive.append {first middle last : TypeGraph} {early late : List Trial}
    (before : Successive first early middle) (after : Successive middle late last) :
    Successive first (early ++ late) last := by
  induction early generalizing first with
  | nil =>
      cases before
      exact after
  | cons trial rest ih =>
      obtain ⟨same, run, later⟩ := before
      exact ⟨same, run, ih later⟩

theorem Account.append {g : TypeGraph} {early late : List Trial} {first next : Logged Pass}
    (before : Account g early first) (after : Account first.value.graph late next) :
    Account g (early ++ late)
      ⟨{ next.value with generated := first.value.generated ++ next.value.generated },
        first.records ++ next.records⟩ where
  successive := before.successive.append after.successive
  generated := by rw [List.filterMap_append, ← before.generated, ← after.generated]
  records := by rw [List.flatMap_append, ← before.records, ← after.records]

theorem Successive.generate {first last : TypeGraph} {trials : List Trial}
    (successive : Successive first trials last) {trial : Trial} (member : trial ∈ trials) :
    trial.before.generate trial.definition = (trial.answer, trial.after) := by
  induction trials generalizing first with
  | nil => cases member
  | cons head rest ih =>
      obtain ⟨rfl, run, later⟩ := successive
      rcases List.mem_cons.mp member with rfl | further
      · exact run
      · exact ih later further

end Trial

namespace TypeGraph

def trials (g : TypeGraph) : List ClassDefinition → List Trial
  | [] => []
  | d :: rest => ⟨d, g, (g.generate d).1, (g.generate d).2⟩ :: (g.generate d).2.trials rest

theorem retry_account (g : TypeGraph) (ds : List ClassDefinition) :
    Trial.Account g (g.trials ds) (g.retry ds) := by
  induction ds generalizing g with
  | nil => exact ⟨rfl, rfl, rfl⟩
  | cons d rest ih =>
      obtain ⟨successive, generated, records⟩ := ih (g.generate d).2
      unfold retry trials
      -- Made, kept or dropped: the pass goes on from what the trial left.
      split
      all_goals
        rename_i run
        rw [run] at successive generated records ⊢
        exact ⟨⟨rfl, run, successive⟩, by simp [List.filterMap_cons, Trial.made, generated],
          by simp [Trial.records, records]⟩

def allTrials (g : TypeGraph) (ds : List ClassDefinition) : List Trial :=
  let first := g.retry ds
  if _progress : first.value.parked.length ≠ ds.length ∧ first.value.parked ≠ [] then
    g.trials ds ++ allTrials first.value.graph first.value.parked
  else g.trials ds
termination_by ds.length
decreasing_by
  have bound : first.value.parked.length ≤ ds.length := length_parked_retry g ds
  exact Nat.lt_of_le_of_ne bound _progress.1

theorem mem_all_trials {g : TypeGraph} {ds : List ClassDefinition} {trial : Trial}
    (member : trial ∈ g.trials ds) : trial ∈ g.allTrials ds := by
  rw [allTrials]
  by_cases progress : (g.retry ds).value.parked.length ≠ ds.length ∧ (g.retry ds).value.parked ≠ []
  · rw [dif_pos progress]
    exact List.mem_append_left _ member
  · rw [dif_neg progress]
    exact member

theorem settle_account (g : TypeGraph) (ds : List ClassDefinition) :
    Trial.Account g (g.allTrials ds) (g.settle ds) := by
  induction g, ds using allTrials.induct with
  | case1 g ds first progress later =>
      unfold settle allTrials
      rw [dif_pos progress, dif_pos progress]
      exact (g.retry_account ds).append later
  | case2 g ds first stuck =>
      unfold settle allTrials
      rw [dif_neg stuck, dif_neg stuck]
      exact g.retry_account ds

end TypeGraph

end BlueprintBridge
