/-!
The messages of one compilation, with a count of its warnings and of its errors.
-/

namespace BlueprintBridge

set_option autoImplicit false

/-- How bad a message is. -/
inductive Severity where
  | note | warning | error
deriving DecidableEq, Repr, Inhabited, Ord

namespace Severity

def word : Severity → String
  | note => "note"
  | warning => "warning"
  | error => "error"

def name : Severity → String
  | note => "Note"
  | warning => "Warning"
  | error => "Error"

def max (a b : Severity) : Severity := if (compare a b).isLE then b else a

end Severity

/-- One message. -/
structure Message where
  severity : Severity
  text : String
deriving DecidableEq, Repr

def Message.render (m : Message) : String := s!"{m.severity.word}: {m.text}"

/-- Messages in the order they were written. -/
structure MessageLog where
  messages : List Message := []
  warnings : Nat := 0
  errors : Nat := 0
deriving DecidableEq, Repr, Inhabited

namespace MessageLog

/-- The log without a message. -/
def empty : MessageLog := {}

def add (log : MessageLog) (m : Message) : MessageLog where
  messages := log.messages ++ [m]
  warnings := log.warnings + if m.severity = .warning then 1 else 0
  errors := log.errors + if m.severity = .error then 1 else 0

def ofList (messages : List Message) : MessageLog := messages.foldl add empty

def note (log : MessageLog) (text : String) : MessageLog := log.add ⟨.note, text⟩

def warning (log : MessageLog) (text : String) : MessageLog := log.add ⟨.warning, text⟩

def error (log : MessageLog) (text : String) : MessageLog := log.add ⟨.error, text⟩

def hasErrors (log : MessageLog) : Bool := log.errors > 0

def worst? (log : MessageLog) : Option Severity :=
  match log.messages.map (·.severity) with
  | [] => none
  | first :: rest => some (rest.foldl Severity.max first)

theorem errors_add (log : MessageLog) (m : Message) :
    (log.add m).errors = log.errors + if m.severity = .error then 1 else 0 := rfl

end MessageLog

end BlueprintBridge
