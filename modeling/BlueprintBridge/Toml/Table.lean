import BlueprintBridge.Catalog

/-!
Tables under construction.

Which table may be extended, and how, depends on where it came from. A table that a header or
braces state is complete but for headers of tables inside it. One that keys with dots made can be
extended by such keys alone, and one that was only passed on the way to another can still be
stated, once.
-/

namespace BlueprintBridge.Toml

set_option autoImplicit false

/-- Where a table came from. -/
inductive Origin where
  /-- A header or braces state it, or it is the document itself. -/
  | stated
  /-- A header states a table inside it. -/
  | passed
  /-- A key with dots leads through it. -/
  | dotted
deriving DecidableEq, Repr

/-- A table whose entries are of some type. -/
structure TableOf (α : Type) where
  origin : Origin := .stated
  entries : Catalog String α := .empty

/-- What a key stands for. -/
inductive Node where
  | string (text : String)
  | boolean (value : Bool)
  /-- A number, a date, an array or a table in braces; they are checked and not kept. -/
  | other
  | table (inner : TableOf Node)
  /-- A list of tables. Nothing is added to any but the last, so that one alone is kept. -/
  | tables (last : TableOf Node)

abbrev Table := TableOf Node

/-- A key: the names it leads through, and the last one. -/
structure Key where
  parents : List String
  name : String
deriving DecidableEq, Repr

def Key.path (key : Key) : List String := key.parents ++ [key.name]

namespace TableOf

/-- Puts a node into a table under a name, in place of what was there. -/
def put (t : Table) (name : String) (node : Node) : Table :=
  { t with entries := t.entries.insert name node }

/-- Changes the table that a path leads to. Tables missing on the way are made, with the given
origin; keys with dots do not lead into a table that is stated. -/
def change (made : Origin) (edit : Table → Option Table) : List String → Table → Option Table
  | [], t => edit t
  | name :: path, t =>
    match t.entries.get? name with
    | none => (change made edit path ⟨made, .empty⟩).map fun inner => t.put name (.table inner)
    | some (.table inner) =>
      if made = .dotted && inner.origin = .stated then none
      else (change made edit path inner).map fun inner => t.put name (.table inner)
    | some (.tables last) =>
      (change made edit path last).map fun last => t.put name (.tables last)
    | some _ => none

/-- Adds an entry. A key with dots has to end in a table made by such keys, and one without must
not; no key is given twice. -/
def add (t : Table) (key : Key) (node : Node) : Option Table :=
  t.change .dotted (fun inner =>
    if (inner.origin = .dotted) = (key.parents = []) then none
    else if inner.entries.contains key.name then none
    else some (inner.put key.name node)) key.parents

/-- States a table: a new one, or one only passed so far. -/
def state (t : Table) (key : Key) : Option Table :=
  t.change .passed (fun inner =>
    match inner.entries.get? key.name with
    | none => some (inner.put key.name (.table ⟨.stated, .empty⟩))
    | some (.table old) =>
      if old.origin = .passed then some (inner.put key.name (.table ⟨.stated, old.entries⟩))
      else none
    | some _ => none) key.parents

def append (t : Table) (key : Key) : Option Table :=
  t.change .passed (fun inner =>
    match inner.entries.get? key.name with
    | none | some (.tables _) => some (inner.put key.name (.tables ⟨.stated, .empty⟩))
    | some _ => none) key.parents

end TableOf

end BlueprintBridge.Toml
