import BlueprintBridge.Proofs.Alike
import BlueprintBridge.Proofs.Drain.Workshop

/-!
# Sites that cannot be told apart

Two sites that answer alike where an invariant holds, and keep it, drain alike: the recompiler
between two calls of the engine changes nothing the invariant speaks of. With one site in both
places this is what a whole drain keeps.
-/

namespace BlueprintBridge

set_option autoImplicit false

variable {σ : Type} {P : σ → Prop}

theorem Action.agree_iff_match {α : Type} {first second : Action σ α} :
    Action.Agree P first second ↔ Action.Match id P P second first := by
  refine forall₂_congr fun s _ => and_congr ?_ ?_
  · cases second s <;> rfl
  · cases second s <;> rfl

namespace Recompiler.Site

/-- Two sites that differ at most in what their engines do where the property fails. What the
recompiler does between two calls of the engine keeps the property. -/
structure Agree (P : σ → Prop) (first second : Site σ) : Prop where
  recompiler : first.recompiler = second.recompiler
  note : first.note = second.note
  isLoading : first.isLoading = second.isLoading
  compile : ∀ blueprint options,
    Action.Agree P (first.compile blueprint options) (second.compile blueprint options)
  collect : ∀ keep fullPurge,
    Action.Agree P (first.collect keep fullPurge) (second.collect keep fullPurge)
  updated : ∀ (change : Recompiler → Recompiler) (s : σ),
    (∀ r, (change r).compiling = r.compiling) → P s → P (second.recompiler.update change s)
  noted : ∀ record s, P s → P (second.note record s)

variable {first second : Site σ} (agree : Agree P first second)

include agree

theorem Agree.alike : Alike id P P second first where
  read s := by rw [agree.recompiler, id]
  loading s := by rw [agree.isLoading, id]
  write r s := by rw [agree.recompiler, id, id]
  note record s := by rw [agree.note, id, id]
  updated := agree.updated
  noted := agree.noted
  compiled blueprint options := Action.agree_iff_match.mp (agree.compile blueprint options)
  collected keep fullPurge := Action.agree_iff_match.mp (agree.collect keep fullPurge)

theorem Agree.drain (bound : Nat) : Action.Agree P (first.drain bound) (second.drain bound) :=
  Action.agree_iff_match.mpr (agree.alike.drain (fun _ held => held) bound)

theorem Agree.attempt (bound : Nat) :
    Action.Agree P (first.attempt bound) (second.attempt bound) :=
  Action.agree_iff_match.mpr (agree.alike.attempt (fun _ held => held) bound)

end Recompiler.Site

def Event.isOfCall : Event → Bool
  | compileCalled _ _ => true
  | compileReturned _ _ => true
  | collectCalled _ _ => true
  | collectReturned => true
  | _ => false

namespace Engine

theorem sites_agree {P : Workshop → Prop} {one other : Engine}
    {first second : Action Workshop Outcome}
    (compile : ∀ blueprint options, Action.Agree P ((one.compile blueprint options).run first)
      ((other.compile blueprint options).run second))
    (collect : ∀ keep fullPurge, Action.Agree P ((one.collect keep fullPurge).run first)
      ((other.collect keep fullPurge).run second))
    (recorded : ∀ event w, event.isOfCall = true → P w → P (w.record event))
    (updated : ∀ (change : Recompiler → Recompiler) (w : Workshop),
      (∀ r, (change r).compiling = r.compiling) → P w →
        P { w with recompiler := change w.recompiler }) :
    Recompiler.Site.Agree P (one.site first) (other.site second) where
  recompiler := rfl
  note := rfl
  isLoading := rfl
  compile blueprint options := by
    intro w held
    have called := recorded (.compileCalled blueprint options) w rfl held
    obtain ⟨same, acted⟩ := compile blueprint options _ called
    simp only [site]
    rw [same]
    split
    · next log finish run =>
        rw [run] at acted
        exact ⟨rfl, recorded (.compileReturned blueprint log) finish rfl acted⟩
    · next interruption finish run =>
        rw [run] at acted
        exact ⟨rfl, acted⟩
  collect keep fullPurge := by
    intro w held
    have called := recorded (.collectCalled keep fullPurge) w rfl held
    obtain ⟨same, acted⟩ := collect keep fullPurge _ called
    simp only [site]
    rw [same]
    split
    · next finish run =>
        rw [run] at acted
        exact ⟨rfl, recorded .collectReturned finish rfl acted⟩
    · next interruption finish run =>
        rw [run] at acted
        exact ⟨rfl, acted⟩
  updated := updated
  noted _ _ held := held

end Engine

end BlueprintBridge
