import BlueprintBridge.Proofs.Action

/-!
# Chronicles

The present of a system, kept together with every moment at which somebody made an act. What is
true at each of them was true at every moment of the run.
-/

namespace BlueprintBridge

set_option autoImplicit false

structure Chronicle (μ : Type) where
  now : μ
  past : List μ := []

namespace Chronicle

variable {μ : Type} {c : Chronicle μ} {P : μ → Prop} {E : Chronicle μ → Prop}

def moments (c : Chronicle μ) : List μ := c.past ++ [c.now]

def change (f : μ → μ) (c : Chronicle μ) : Chronicle μ := { c with now := f c.now }

def mark : Action (Chronicle μ) Unit := fun c => .ok () { c with past := c.moments }

def Always (P : μ → Prop) (c : Chronicle μ) : Prop := ∀ m ∈ c.moments, P m

theorem always_iff : c.Always P ↔ (∀ m ∈ c.past, P m) ∧ P c.now := by
  simp [Always, moments, or_imp, forall_and]

theorem Always.now (always : c.Always P) : P c.now := by
  apply always
  simp [moments]

theorem Always.moved {next : Chronicle μ} (always : c.Always P) (past : next.past = c.past)
    (now : P next.now) : next.Always P := by
  intro m member
  rw [moments, past] at member
  rcases List.mem_append.mp member with earlier | last
  · apply always
    exact List.mem_append_left _ earlier
  · rw [List.mem_singleton.mp last]
    exact now

/-- Marking a moment adds none that was not there. -/
theorem always_marked : Always P { c with past := c.moments } ↔ c.Always P := by
  rw [always_iff]
  constructor
  · rintro ⟨all, _⟩
    exact all
  · intro always
    exact ⟨always, always.now⟩

theorem mark_takes : Action.Takes (Always P) (Always P) E mark := by
  intro c always m member
  rcases List.mem_append.mp member with earlier | last
  · exact always m earlier
  · rw [List.mem_singleton.mp last]
    exact always.now

end Chronicle

end BlueprintBridge
