/-!
Log records and the values computed while writing them.

`Logged α` is a value together with the records written on the way to it, in order, so that a
computation that only logs stays a plain function.
-/

namespace BlueprintBridge

set_option autoImplicit false

/-- How grave a record is. -/
inductive Level where
  | error | warn | info | debug | trace
deriving DecidableEq, Repr, Inhabited

namespace Level

/-- The gravest level comes first. -/
def rank : Level → Nat
  | error => 1
  | warn => 2
  | info => 3
  | debug => 4
  | trace => 5

def word : Level → String
  | error => "ERROR"
  | warn => "WARN"
  | info => "INFO"
  | debug => "DEBUG"
  | trace => "TRACE"

end Level

/-- One line of the log. -/
structure Record where
  level : Level
  text : String
deriving DecidableEq, Repr, Inhabited

/-- Whether a log that keeps records up to `limit` keeps this one; no limit means no log. -/
def Record.isKept (record : Record) : Option Level → Bool
  | none => false
  | some limit => record.level.rank ≤ limit.rank

/-- A value with the records written while it was computed. -/
structure Logged (α : Type) where
  value : α
  records : List Record
deriving Repr

namespace Logged

variable {α β : Type}

def note (level : Level) (text : String) : Logged Unit := ⟨(), [⟨level, text⟩]⟩

instance : Monad Logged where
  pure a := ⟨a, []⟩
  bind x f := ⟨(f x.value).value, x.records ++ (f x.value).records⟩

@[simp] theorem value_pure (a : α) : (pure a : Logged α).value = a := rfl

@[simp] theorem records_pure (a : α) : (pure a : Logged α).records = [] := rfl

@[simp] theorem value_bind (x : Logged α) (f : α → Logged β) :
    (x >>= f).value = (f x.value).value := rfl

@[simp] theorem records_bind (x : Logged α) (f : α → Logged β) :
    (x >>= f).records = x.records ++ (f x.value).records := rfl

@[simp] theorem value_note (level : Level) (text : String) : (note level text).value = () := rfl

instance : LawfulMonad Logged := LawfulMonad.mk' Logged
  (fun x => by simp [Functor.map])
  (fun a f => by simp [bind, pure])
  (fun x f g => by simp [bind, List.append_assoc])

end Logged

end BlueprintBridge
