/-!
Actions: computations over a state that a callback may cut short.

An action ends with a value, unwinds with the message of the exception that a callback threw,
or runs out of the fuel that bounds it. Whichever way it ends, the state it leaves is kept: an
exception undoes nothing. `ensuring` is the only way to act on the way out.
-/

namespace BlueprintBridge

set_option autoImplicit false

/-- Why an action ended without a value. -/
inductive Interruption where
  /-- A callback threw an exception with this message. -/
  | unwound (message : String)
  /-- The bound on the run was too small. -/
  | outOfFuel
deriving DecidableEq, Repr, Inhabited

/-- A computation over `σ` whose changes stay when it is interrupted. -/
abbrev Action (σ α : Type) : Type := EStateM Interruption σ α

namespace Action

variable {σ α : Type}

/-- Runs `body`, then `cleanup` however `body` ended. -/
def ensuring (cleanup : σ → σ) (body : Action σ α) : Action σ α := fun s =>
  match body s with
  | .ok a t => .ok a (cleanup t)
  | .error e t => .error e (cleanup t)

/-- Runs `body`, and `cleanup` only if `body` was interrupted. -/
def onInterrupt (cleanup : σ → σ) (body : Action σ α) : Action σ α := fun s =>
  match body s with
  | .ok a t => .ok a t
  | .error e t => .error e (cleanup t)

theorem ensuring_of_ok {cleanup : σ → σ} {body : Action σ α} {s t : σ} {a : α}
    (h : body s = .ok a t) : ensuring cleanup body s = .ok a (cleanup t) := by
  simp [ensuring, h]

theorem ensuring_of_error {cleanup : σ → σ} {body : Action σ α} {s t : σ} {e : Interruption}
    (h : body s = .error e t) : ensuring cleanup body s = .error e (cleanup t) := by
  simp [ensuring, h]

end Action

/-- A part of a larger state: how it is read, and how it is replaced. -/
structure Part (σ α : Type) where
  read : σ → α
  write : α → σ → σ

namespace Part

variable {σ α β : Type}

/-- Reading gives what was written last, and writing back what was read changes nothing more. -/
structure Lawful (part : Part σ α) : Prop where
  read_write : ∀ a s, part.read (part.write a s) = a
  write_write : ∀ a b s, part.write a (part.write b s) = part.write a s

def update (part : Part σ α) (f : α → α) (s : σ) : σ := part.write (f (part.read s)) s

def get (part : Part σ α) : Action σ α := fun s => .ok (part.read s) s

def modify (part : Part σ α) (f : α → α) : Action σ Unit := fun s => .ok () (part.update f s)

/-- Runs a step on the part that gives a value and the part's next state. -/
def step (part : Part σ α) (f : α → β × α) : Action σ β := fun s =>
  let (b, a) := f (part.read s)
  .ok b (part.write a s)

theorem read_update {part : Part σ α} (h : part.Lawful) (f : α → α) (s : σ) :
    part.read (part.update f s) = f (part.read s) := h.read_write _ s

end Part

end BlueprintBridge
