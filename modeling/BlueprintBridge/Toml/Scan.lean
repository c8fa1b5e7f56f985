/-!
Scanners: functions that take something off the front of a list of characters, or refuse.

A scanner that is tried in vain takes nothing. `many` repeats a scanner as long as it takes at
least one character, so it always ends.
-/

namespace BlueprintBridge.Toml

set_option autoImplicit false

/-- Takes something off the front of a text, or refuses it. -/
abbrev Scan (α : Type) := StateT (List Char) Option α

namespace Scan

variable {α β : Type}

def one (test : Char → Bool) : Scan Char
  | c :: rest => if test c then some (c, rest) else none
  | [] => none

def char (c : Char) : Scan Unit := do
  let _ ← one (· = c)

def word (w : String) : Scan Unit := w.toList.forM char

/-- Takes the longest piece whose characters satisfy a test. -/
def takeWhile (test : Char → Bool) : Scan (List Char) := fun cs =>
  some (cs.takeWhile test, cs.dropWhile test)

/-- Refuses unless a condition holds. -/
def require (condition : Bool) : Scan Unit := if condition then pure () else failure

def attempt (p : Scan α) : Scan (Option α) := fun cs =>
  match p cs with
  | some (a, rest) => some (some a, rest)
  | none => some (none, cs)

def many (p : Scan α) (cs : List Char) : Option (List α × List Char) :=
  match p cs with
  | none => some ([], cs)
  | some (a, rest) =>
    if rest.length < cs.length then (many p rest).map fun (as, left) => (a :: as, left)
    else some ([], cs)
termination_by cs.length

def separated (item : Scan α) (separator : Scan β) : Scan (List α) := do
  let first ← item
  let more ← many (separator *> item)
  return first :: more

def atEnd : Scan Unit := fun cs => if cs.isEmpty then some ((), cs) else none

def readAll (p : Scan α) (cs : List Char) : Option α :=
  ((p <* atEnd).run cs).map (·.1)

end Scan

/-! ## Blanks, line ends and comments -/

def isBlank (c : Char) : Bool := c = ' ' || c = '\t'

/-- Whether a character may stand in a comment or, most of them, in a string. -/
def isPlain (c : Char) : Bool := c = '\t' || (0x20 ≤ c.toNat && c.toNat ≠ 0x7f)

def blanks : Scan Unit := do
  let _ ← Scan.takeWhile isBlank

/-- The end of a line, with or without a carriage return. -/
def lineEnd : Scan Unit
  | '\n' :: rest => some ((), rest)
  | '\r' :: '\n' :: rest => some ((), rest)
  | _ => none

def comment : Scan Unit := do
  Scan.char '#'
  let _ ← Scan.takeWhile isPlain

/-- What may follow on a line: blanks, a comment, and its end or that of the text. -/
def restOfLine : Scan Unit := do
  blanks
  let _ ← Scan.attempt comment
  lineEnd <|> Scan.atEnd

/-- Blanks, line ends and comments between the items of an array. -/
def gap : Scan Unit := do
  blanks
  let _ ← Scan.many ((Scan.attempt comment *> lineEnd) *> blanks)

end BlueprintBridge.Toml
