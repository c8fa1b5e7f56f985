import BlueprintBridge.Toml.Value

/-!
Documents: lines that state tables and add entries to the one stated last.

A document is read line by line; the lines are then applied in order to an empty table.
-/

namespace BlueprintBridge.Toml

set_option autoImplicit false

/-- What a line says. -/
inductive Line where
  | blank
  /-- The table that entries belong to from here on. -/
  | header (key : Key)
  /-- Likewise, with a new table in a list of tables. -/
  | listHeader (key : Key)
  | entry (key : Key) (node : Node)

def line : Scan Line :=
  (do
    blanks
    Scan.word "[["
    let key ← key
    Scan.word "]]"
    restOfLine
    return .listHeader key) <|>
  (do
    blanks
    Scan.char '['
    let key ← key
    Scan.char ']'
    restOfLine
    return .header key) <|>
  (do
    let (key, node) ← entry (value (nestingLimit - 1))
    restOfLine
    return .entry key node) <|>
  (do
    restOfLine
    return .blank)

/-- The lines of a document, a byte order mark in front left out. -/
def lines? (document : String) : Option (List Line) :=
  Scan.readAll (Scan.attempt (Scan.char '\ufeff') *> Scan.many line) document.toList

/-- A document so far: all of it, and the way to the table that entries belong to. -/
structure Draft where
  root : Table := {}
  current : List String := []

def Draft.apply (draft : Draft) : Line → Option Draft
  | .blank => some draft
  | .header key => (draft.root.state key).map (⟨·, key.path⟩)
  | .listHeader key => (draft.root.append key).map (⟨·, key.path⟩)
  | .entry key node =>
    (draft.root.change .passed (fun t => t.add key node) draft.current).map (⟨·, draft.current⟩)

/-- The entries of a document, if it is well-formed. -/
def document? (document : String) : Option (Catalog String Node) := do
  let lines ← lines? document
  let draft ← lines.foldlM Draft.apply {}
  return draft.root.entries

end BlueprintBridge.Toml
