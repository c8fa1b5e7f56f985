import BlueprintBridge.Proofs.Graph.Planting
import BlueprintBridge.Proofs.Host.Trials

/-!
# What becomes of parked definitions

Passes over parked definitions come to an end, because each but the last leaves fewer of them. Then
every definition has gone one way: its class was made, it was dropped, or it is still parked. The
last pass changed nothing, so what is still parked waits for a name that is not registered; and no
class was made while its parent's name was missing.
-/

namespace BlueprintBridge

set_option autoImplicit false

namespace Trial

def madeFrom? : Trial → Option ClassDefinition
  | ⟨d, _, .ok (some _), _⟩ => some d
  | _ => none

def droppedFrom? : Trial → Option ClassDefinition
  | ⟨d, _, .error _, _⟩ => some d
  | _ => none

end Trial

def ClassDefinition.WaitsIn (d : ClassDefinition) (g : TypeGraph) : Prop :=
  ∃ name, d.superName = some name ∧ g.findClass? name = none

structure Settlement (g : TypeGraph) (ds : List ClassDefinition) (trials : List Trial)
    (pass : Logged Pass) : Prop where
  account : Trial.Account g trials pass
  /-- Passes end: so few trials are made. -/
  bounded : 2 * trials.length ≤ ds.length * (ds.length + 1)
  /-- Each definition went one way. -/
  once : ds.Perm (trials.filterMap Trial.madeFrom? ++ trials.filterMap Trial.droppedFrom? ++
    pass.value.parked)
  ordered : pass.value.parked.Sublist ds
  waiting : ∀ d ∈ pass.value.parked, d.WaitsIn pass.value.graph
  /-- A class is made under a registered name, if it asks for a parent. -/
  parented : ∀ trial ∈ trials, ∀ ref, trial.made = some ref → ¬ trial.definition.WaitsIn trial.before

namespace TypeGraph

variable {g : TypeGraph} {d : ClassDefinition} {ds : List ClassDefinition}

theorem parent_for_eq_none_iff : g.parentFor? d = none ↔ d.WaitsIn g := by
  unfold parentFor? ClassDefinition.WaitsIn
  cases d.superName with
  | none => simp
  | some name => simp

theorem generate_of_waiting (waits : d.WaitsIn g) : g.generate d = (.ok none, g) :=
  generate_orphan (parent_for_eq_none_iff.mpr waits)

theorem waits_of_generate {next : TypeGraph} (run : g.generate d = (.ok none, next)) :
    d.WaitsIn g ∧ next = g := by
  cases generate_cases run with
  | orphan orphan => exact ⟨parent_for_eq_none_iff.mp orphan, rfl⟩

theorem not_waits_of_made {trial : Trial} {ref : ClassRef}
    (run : trial.before.generate trial.definition = (trial.answer, trial.after))
    (made : trial.made = some ref) : ¬ trial.definition.WaitsIn trial.before := by
  intro waits
  obtain ⟨d, before, answer, after⟩ := trial
  rw [generate_of_waiting waits] at run
  cases run
  cases made

theorem retry_parted (g : TypeGraph) (ds : List ClassDefinition) :
    ds.Perm ((g.trials ds).filterMap Trial.madeFrom? ++
      (g.trials ds).filterMap Trial.droppedFrom? ++ (g.retry ds).value.parked) := by
  rw [List.perm_iff_count]
  intro x
  induction ds generalizing g with
  | nil => rfl
  | cons d rest ih =>
      have later := ih (g.generate d).2
      unfold retry trials
      -- Made, kept or dropped: the definition counts once more in one of the three lists.
      split
      all_goals
        rename_i run
        rw [run] at later ⊢
        simp only [List.filterMap_cons, Trial.madeFrom?, Trial.droppedFrom?, List.count_append,
          List.count_cons] at later ⊢
        omega

theorem retry_sublist (g : TypeGraph) (ds : List ClassDefinition) :
    (g.retry ds).value.parked.Sublist ds := by
  induction ds generalizing g with
  | nil => exact .slnil
  | cons d rest ih =>
      unfold retry
      split
      · exact (ih _).cons d
      · exact (ih _).cons_cons d
      · exact (ih _).cons d

theorem length_trials (g : TypeGraph) (ds : List ClassDefinition) :
    (g.trials ds).length = ds.length := by
  induction ds generalizing g with
  | nil => rfl
  | cons d rest ih => exact congrArg Nat.succ (ih _)

theorem retry_of_stuck (stuck : (g.retry ds).value.parked.length = ds.length) :
    (g.retry ds).value.graph = g ∧ ∀ d ∈ ds, d.WaitsIn g := by
  induction ds generalizing g with
  | nil => exact ⟨rfl, by simp⟩
  | cons d rest ih =>
      unfold retry at stuck ⊢
      split at stuck
      · next next run =>
          have bound := length_parked_retry next rest
          rw [List.length_cons] at stuck
          dsimp only at stuck
          omega
      · next next run =>
          obtain ⟨waits, rfl⟩ := waits_of_generate run
          obtain ⟨same, others⟩ := ih (Nat.succ.inj stuck)
          exact ⟨same, List.forall_mem_cons.mpr ⟨waits, others⟩⟩
      · next next run =>
          have bound := length_parked_retry next rest
          rw [List.length_cons] at stuck
          dsimp only at stuck
          omega

theorem retry_of_waiting (waiting : ∀ d ∈ ds, d.WaitsIn g) :
    g.retry ds = ⟨⟨g, [], ds⟩, []⟩ := by
  induction ds with
  | nil => rfl
  | cons d rest ih =>
      obtain ⟨waits, others⟩ := List.forall_mem_cons.mp waiting
      unfold retry
      rw [generate_of_waiting waits]
      dsimp only
      rw [ih others]

theorem settle_of_waiting (waiting : ∀ d ∈ ds, d.WaitsIn g) :
    g.settle ds = ⟨⟨g, [], ds⟩, []⟩ := by
  unfold settle
  rw [retry_of_waiting waiting]
  simp

theorem parented_of_account {trials : List Trial} {pass : Logged Pass}
    (account : Trial.Account g trials pass) : ∀ trial ∈ trials, ∀ ref, trial.made = some ref →
      ¬ trial.definition.WaitsIn trial.before :=
  fun _ member _ => not_waits_of_made (account.successive.generate member)

theorem settlement_of_last
    (last : ¬ ((g.retry ds).value.parked.length ≠ ds.length ∧ (g.retry ds).value.parked ≠ [])) :
    Settlement g ds (g.trials ds) (g.retry ds) where
  account := g.retry_account ds
  bounded := by
    rw [length_trials]
    cases ds.length with
    | zero => exact Nat.le_refl _
    | succ n =>
        rw [Nat.mul_comm]
        exact Nat.mul_le_mul_left _ (by omega)
  once := retry_parted g ds
  ordered := retry_sublist g ds
  waiting := by
    by_cases empty : (g.retry ds).value.parked = []
    · simp [empty]
    · have stuck : (g.retry ds).value.parked.length = ds.length := by
        by_contra moved
        exact last ⟨moved, empty⟩
      obtain ⟨same, waiting⟩ := retry_of_stuck stuck
      rw [same]
      exact fun d member => waiting d ((retry_sublist g ds).subset member)
  parented := parented_of_account (g.retry_account ds)

theorem settlement_of_progress {trials : List Trial} {later : Logged Pass}
    (progress : (g.retry ds).value.parked.length ≠ ds.length)
    (later_settled : Settlement (g.retry ds).value.graph (g.retry ds).value.parked trials later) :
    Settlement g ds (g.trials ds ++ trials)
      ⟨{ later.value with generated := (g.retry ds).value.generated ++ later.value.generated },
        (g.retry ds).records ++ later.records⟩ := by
  have account := (g.retry_account ds).append later_settled.account
  constructor
  case account => exact account
  case ordered => exact later_settled.ordered.trans (retry_sublist g ds)
  case waiting => exact later_settled.waiting
  case parented => exact parented_of_account account
  case bounded =>
    have fewer : (g.retry ds).value.parked.length + 1 ≤ ds.length :=
      Nat.lt_of_le_of_ne (length_parked_retry g ds) progress
    have bound := later_settled.bounded
    have wide := Nat.mul_le_mul_left (g.retry ds).value.parked.length fewer
    have high := Nat.mul_le_mul_right ds.length fewer
    rw [List.length_append, length_trials]
    rw [Nat.add_mul, Nat.one_mul] at high
    rw [Nat.mul_add ds.length, Nat.mul_one]
    omega
  case once =>
    have early := retry_parted g ds
    have late := later_settled.once
    rw [List.perm_iff_count] at early late ⊢
    intro x
    have early := early x
    have late := late x
    simp only [List.filterMap_append, List.count_append] at early late ⊢
    omega

/-- However definitions are parked, trying them again ends and takes each of them one way. -/
theorem settlement (g : TypeGraph) (ds : List ClassDefinition) :
    Settlement g ds (g.allTrials ds) (g.settle ds) := by
  induction g, ds using allTrials.induct with
  | case1 g ds first progress later =>
      rw [allTrials, settle, dif_pos progress, dif_pos progress]
      exact settlement_of_progress progress.1 later
  | case2 g ds first last =>
      rw [allTrials, settle, dif_neg last, dif_neg last]
      exact settlement_of_last last

end TypeGraph

end BlueprintBridge
