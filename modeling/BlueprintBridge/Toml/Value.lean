import BlueprintBridge.Toml.Numbers
import BlueprintBridge.Toml.Strings
import BlueprintBridge.Toml.Table

/-!
Keys and values.

Arrays and tables in braces nest to a limit, and a key has fewer names than that.
-/

namespace BlueprintBridge.Toml

set_option autoImplicit false

/-- The number of names that a key stays below, and the number of levels that a value does. -/
def nestingLimit : Nat := 80

/-! ## Keys -/

/-- Whether a character may stand in a name without quotes. -/
def isBare (c : Char) : Bool := c.isAlphanum || c = '_' || c = '-'

def name : Scan String := lineString <|> do
  let first ← Scan.one isBare
  let rest ← Scan.takeWhile isBare
  return String.ofList (first :: rest)

def key : Scan Key := do
  let names ← Scan.separated (blanks *> name <* blanks) (Scan.char '.')
  Scan.require (names.length < nestingLimit)
  match names.getLast? with
  | some last => return ⟨names.dropLast, last⟩
  | none => failure

def entry (value : Scan Node) : Scan (Key × Node) := do
  let key ← key
  Scan.char '='
  blanks
  let node ← value
  return (key, node)

/-! ## Values -/

def leaf : Scan Node :=
  (do return .string (← anyString)) <|>
  (do Scan.word "true"; return .boolean true) <|>
  (do Scan.word "false"; return .boolean false) <|>
  (do number; return .other)

/-- An array of values. It may span lines, and a comma may follow the last value. -/
def array (value : Scan Node) : Scan Node := do
  Scan.char '['
  let items ← Scan.attempt (Scan.separated (gap *> value <* gap) (Scan.char ','))
  if items.isSome then
    let _ ← Scan.attempt (Scan.char ',')
  gap
  Scan.char ']'
  return .other

def braces (value : Scan Node) : Scan Node := do
  Scan.char '\x7b'
  let items ← Scan.attempt (Scan.separated (entry value <* blanks) (Scan.char ','))
  blanks
  Scan.char '\x7d'
  match (items.getD []).foldlM (fun t item => t.add item.1 item.2) (⟨.stated, .empty⟩ : Table) with
  | some _ => return .other
  | none => failure

/-- A value in which values nest at most so many levels deep. -/
def value : Nat → Scan Node
  | 0 => leaf
  | depth + 1 => leaf <|> array (value depth) <|> braces (value depth)

end BlueprintBridge.Toml
