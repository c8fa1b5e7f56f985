import BlueprintBridge.Event.Channel
import BlueprintBridge.Proofs.Splits

/-!
# Giving a token back to a channel

Where the handlers of a channel have numbers of their own, a token takes off the one handler that
has its number, and a token of another channel takes off nobody.
-/

namespace BlueprintBridge.Channel

set_option autoImplicit false

variable {H : Type} {c : Channel H} {token : Token}

theorem unsubscribe_foreign (foreign : c.isSubscribed token = false) :
    (c.unsubscribe token).2 = c := by
  have kept : c.handlers.filter (fun h => h.1 ≠ token.id) = c.handlers := by
    apply List.filter_eq_self.mpr
    intro h attached
    apply decide_eq_true
    intro same
    have here : c.isSubscribed token = true :=
      List.any_eq_true.mpr ⟨h, attached, decide_eq_true same⟩
    rw [foreign] at here
    cases here
  rw [unsubscribe, kept]

theorem unsubscribe_own (apart : (c.handlers.map Prod.fst).Nodup) {h : Nat × H}
    (attached : h ∈ c.handlers) (number : h.1 = token.id) :
    ∃ before after, c.handlers = before ++ h :: after ∧
      (c.unsubscribe token).2 = { c with handlers := before ++ after } := by
  obtain ⟨before, after, split⟩ := List.append_of_mem attached
  rw [split] at apart
  have left := filter_key_of_split apart
  rw [number] at left
  refine ⟨before, after, split, ?_⟩
  rw [unsubscribe, split, left]

end BlueprintBridge.Channel
