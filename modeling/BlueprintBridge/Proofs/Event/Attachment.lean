import BlueprintBridge.Bridge.Attachment

/-!
# Attaching to all channels and detaching again

An attachment puts one handler at the end of each of its channels, numbered in the order of the
channels, and giving its tokens back takes off what has these numbers there.
-/

namespace BlueprintBridge.Attachment

set_option autoImplicit false

variable {H : Type}

def numbers (a : Attachment) : List (EventKind × Nat) := a.tokens.map fun t => (t.1, t.2.id)

theorem numbers_attach_to (handler : H) (kinds : List EventKind) (id : Nat)
    (channels : Channels H) :
    (attachTo handler kinds id channels).value.1.numbers = kinds.zipIdx id := by
  induction kinds generalizing id channels with
  | nil => rfl
  | cons kind rest ih =>
      rw [List.zipIdx_cons, ← ih (id + 1)]
      rfl

theorem handlers_attach_to (handler : H) (kinds : List EventKind) (id : Nat)
    (channels : Channels H) (kind : EventKind) :
    ((attachTo handler kinds id channels).value.2.get kind).handlers =
      (channels.get kind).handlers ++
        ((kinds.zipIdx id).filter fun n => n.1 = kind).map fun n => (n.2, handler) := by
  induction kinds generalizing id channels with
  | nil => exact (List.append_nil _).symm
  | cons first rest ih =>
      simp only [attachTo, Logged.value_bind, Logged.value_pure]
      rw [ih, Channels.get_set, List.zipIdx_cons]
      by_cases same : kind = first
      · subst same
        simp [Channel.subscribe]
      · simp [same, Ne.symm same]

/-- Tokens take off the handlers with their numbers, each on its own channel. -/
theorem get_give_back (tokens : List (EventKind × Token)) (channels : Channels H)
    (kind : EventKind) :
    (giveBack tokens channels).value.2.get kind = { channels.get kind with
      handlers := (channels.get kind).handlers.filter fun h =>
        (kind, h.1) ∉ tokens.map fun t => (t.1, t.2.id) } := by
  induction tokens generalizing channels with
  | nil =>
      have all : (channels.get kind).handlers.filter (fun h => (kind, h.1) ∉ List.map (fun t =>
          (t.1, t.2.id)) ([] : List (EventKind × Token))) = (channels.get kind).handlers :=
        List.filter_eq_self.mpr fun _ _ => rfl
      rw [all]
      rfl
  | cons first rest ih =>
      obtain ⟨own, token⟩ := first
      simp only [giveBack, Logged.value_bind, Logged.value_pure]
      rw [ih, Channels.get_set]
      by_cases same : kind = own
      · subst same
        simp only [if_true, Channel.unsubscribe, List.filter_filter, Channel.mk.injEq, true_and]
        apply List.filter_congr
        intro h _
        rw [Bool.eq_iff_iff]
        simp only [Bool.and_eq_true, decide_eq_true_eq, List.map_cons, List.mem_cons,
          Prod.mk.injEq, true_and, not_or]
        exact and_comm
      · simp only [if_neg same, Channel.mk.injEq, true_and]
        apply List.filter_congr
        intro h _
        rw [Bool.eq_iff_iff]
        simp only [decide_eq_true_eq, List.map_cons, List.mem_cons, Prod.mk.injEq, same,
          false_and, false_or]

end BlueprintBridge.Attachment
