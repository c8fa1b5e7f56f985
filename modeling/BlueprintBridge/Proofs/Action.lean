import BlueprintBridge.Action

/-!
# Taking actions apart

An action that came to a value did so step by step: each part of it came to a value, and the next
part went on from the state that was left.
-/

namespace BlueprintBridge

set_option autoImplicit false

theorem map_eq_ok {ε α β : Type} {result : Except ε α} {f : α → β} {answer : β}
    (mapped : result.map f = .ok answer) : ∃ value, result = .ok value ∧ f value = answer := by
  cases result with
  | error e => cases mapped
  | ok value =>
      cases mapped
      exact ⟨value, rfl, rfl⟩

def stateAfter {σ α : Type} : EStateM.Result Interruption σ α → σ
  | .ok _ state => state
  | .error _ state => state

def valueOf? {σ α : Type} : EStateM.Result Interruption σ α → Option α
  | .ok value _ => some value
  | .error _ _ => none

theorem eq_ok_of_value {σ α : Type} {result : EStateM.Result Interruption σ α} {value : α}
    (reached : valueOf? result = some value) : result = .ok value (stateAfter result) := by
  cases result with
  | ok =>
      cases reached
      rfl
  | error => cases reached

def thrown? {σ α : Type} : EStateM.Result Interruption σ α → Option Interruption
  | .ok _ _ => none
  | .error interruption _ => some interruption

theorem eq_error_of_thrown {σ α : Type} {result : EStateM.Result Interruption σ α}
    {interruption : Interruption} (thrown : thrown? result = some interruption) :
    result = .error interruption (stateAfter result) := by
  cases result with
  | ok => cases thrown
  | error =>
      cases thrown
      rfl

theorem Action.bind_eq_ok {σ α β : Type} {first : Action σ α} {next : α → Action σ β}
    {start finish : σ} {answer : β} :
    (first >>= next) start = .ok answer finish ↔
      ∃ value middle, first start = .ok value middle ∧ next value middle = .ok answer finish := by
  change EStateM.bind first next start = _ ↔ _
  unfold EStateM.bind
  cases first start with
  | ok value middle =>
      constructor
      · intro run
        exact ⟨value, middle, rfl, run⟩
      · rintro ⟨_, _, same, run⟩
        cases same
        exact run
  | error interruption middle => simp

theorem Action.bind_eq_error {σ α β : Type} {first : Action σ α} {next : α → Action σ β}
    {start finish : σ} {interruption : Interruption} :
    (first >>= next) start = .error interruption finish ↔
      first start = .error interruption finish ∨
        ∃ value middle, first start = .ok value middle ∧
          next value middle = .error interruption finish := by
  change EStateM.bind first next start = _ ↔ _
  unfold EStateM.bind
  cases first start with
  | ok value middle =>
      constructor
      · intro run
        exact .inr ⟨value, middle, rfl, run⟩
      · rintro (same | ⟨_, _, same, run⟩)
        · cases same
        · cases same
          exact run
  | error thrown middle => simp

theorem Action.on_interrupt_eq_error {σ α : Type} {cleanup : σ → σ} {body : Action σ α}
    {start finish : σ} {interruption : Interruption} :
    body.onInterrupt cleanup start = .error interruption finish ↔
      ∃ middle, body start = .error interruption middle ∧ finish = cleanup middle := by
  unfold Action.onInterrupt
  cases body start with
  | ok => simp
  | error thrown middle =>
      constructor
      · rintro ⟨⟩
        exact ⟨middle, rfl, rfl⟩
      · rintro ⟨_, ⟨⟩, rfl⟩
        rfl

namespace Action

variable {σ α β : Type} {P : σ → Prop}

theorem bind_of_ok {first : Action σ α} {next : α → Action σ β} {start middle : σ} {value : α}
    (run : first start = .ok value middle) : (first >>= next) start = next value middle := by
  change EStateM.bind first next start = _
  unfold EStateM.bind
  rw [run]

theorem bind_of_eq {first second : Action σ α} {next : α → Action σ β} {start other : σ}
    (same : first start = second other) : (first >>= next) start = (second >>= next) other := by
  change EStateM.bind first next start = EStateM.bind second next other
  unfold EStateM.bind
  rw [same]

def Keeps (P : σ → Prop) (action : Action σ α) : Prop := ∀ s, P s → P (stateAfter (action s))

def caught (body : Action σ α) : Action σ (Option α) := fun s =>
  match body s with
  | .ok answer t => .ok (some answer) t
  | .error (.unwound _) t => .ok none t
  | .error .outOfFuel t => .error .outOfFuel t

/-- From where `P` holds, an action comes back where `Q` holds, or is interrupted where `E` does. -/
def Takes (P Q E : σ → Prop) (action : Action σ α) : Prop :=
  ∀ s, P s →
    match action s with
    | .ok _ t => Q t
    | .error _ t => E t

variable {Q E R : σ → Prop}

theorem keeps_iff_takes {action : Action σ α} : Keeps P action ↔ Takes P P P action := by
  constructor
  · intro keeps s held
    have left := keeps s held
    cases run : action s with
    | ok | error =>
        rw [run] at left
        exact left
  · intro takes s held
    have left := takes s held
    cases run : action s with
    | ok | error =>
        rw [run] at left
        exact left

namespace Takes

theorem pure (value : α) : Takes P P E (Pure.pure value : Action σ α) := fun _ held => held

theorem throw {interruption : Interruption} (thrown : ∀ s, P s → E s) :
    Takes P Q E (MonadExcept.throw interruption : Action σ α) := thrown

theorem bind {first : Action σ α} {next : α → Action σ β} (before : Takes P Q E first)
    (after : ∀ value, Takes Q R E (next value)) : Takes P R E (first >>= next) := by
  intro s held
  have middle := before s held
  cases run : first s with
  | ok value t =>
      rw [run] at middle
      rw [bind_of_ok run]
      exact after value t middle
  | error interruption t =>
      rw [run] at middle
      rw [bind_eq_error.mpr (.inl run)]
      exact middle

theorem forM {χ : Type} {action : χ → Action σ Unit} {items : List χ}
    (each : ∀ item ∈ items, Takes P P E (action item)) : Takes P P E (items.forM action) := by
  induction items with
  | nil => exact pure ()
  | cons item rest ih =>
      apply bind
      · exact each item (List.mem_cons_self ..)
      · intro _
        apply ih
        exact fun other member => each other (List.mem_cons_of_mem _ member)

theorem onInterrupt {cleanup : σ → σ} {body : Action σ α} (inside : Takes P Q E body)
    (cleaned : ∀ s, E s → R (cleanup s)) : Takes P Q R (body.onInterrupt cleanup) := by
  intro s held
  have left := inside s held
  unfold Action.onInterrupt
  cases run : body s with
  | ok value t =>
      rw [run] at left
      exact left
  | error interruption t =>
      rw [run] at left
      exact cleaned t left

theorem caught {body : Action σ α} (inside : Takes P Q Q body) : Takes P Q Q body.caught := by
  intro s held
  have left := inside s held
  unfold Action.caught
  cases run : body s with
  | ok value t =>
      rw [run] at left
      exact left
  | error interruption t =>
      rw [run] at left
      cases interruption with
      | unwound | outOfFuel => exact left

end Takes

def Agree (P : σ → Prop) (first second : Action σ α) : Prop :=
  ∀ s, P s → first s = second s ∧ P (stateAfter (second s))

theorem Agree.of_keeps {action : Action σ α} (keeps : Keeps P action) : Agree P action action :=
  fun s held => ⟨rfl, keeps s held⟩

theorem Agree.keeps {first second : Action σ α} (agree : Agree P first second) :
    Keeps P second :=
  fun s held => (agree s held).2

end Action

end BlueprintBridge
