import BlueprintBridge.Export.Bindings
import BlueprintBridge.Proofs.Graph.Requests
import BlueprintBridge.Proofs.Text.Utf8

/-!
# Looking types up by name

After any requests a name leads to the live class, struct or enum that bears it, and to nothing if
none does. The managed runtime asks with raw names, which are read up to their first zero: it gets
the bits of that very reference, or the word with all bits set, which no live reference has.
-/

namespace BlueprintBridge.Export

set_option autoImplicit false

variable {kind : ObjectKind}

def zeroTerminated (text : String) (behind : Bytes) : Bytes :=
  text.toUTF8.data.toList ++ 0 :: behind

/-- A raw name that no text is the reading of. -/
def Malformed (bytes : Bytes) : Prop := ∀ text : String, beforeZero bytes ≠ text.toUTF8.data.toList

def Speakable (text : String) : Prop := Char.ofNat 0 ∉ text.toList

theorem before_zero_terminated {text : String} (speakable : Speakable text) (behind : Bytes) :
    beforeZero (zeroTerminated text behind) = text.toUTF8.data.toList := by
  unfold beforeZero zeroTerminated
  rw [List.takeWhile_append_of_pos]
  · simp
  · intro byte member
    simpa using Text.utf8_ne_zero speakable member

theorem name_text_of_terminated {text : String} (speakable : Speakable text) (behind : Bytes) :
    (nameText? (zeroTerminated text behind)).value = some text := by
  have decoded : Text.decodeUtf8 (beforeZero (zeroTerminated text behind)) = .ok text :=
    Text.decode_utf8_iff.mpr (before_zero_terminated speakable behind)
  unfold nameText?
  rw [decoded]
  rfl

theorem name_text_of_malformed {bytes : Bytes} (malformed : Malformed bytes) :
    (nameText? bytes).value = none := by
  unfold nameText?
  cases decoded : Text.decodeUtf8 (beforeZero bytes) with
  | ok text => exact absurd (Text.decode_utf8_iff.mp decoded) (malformed text)
  | error e => rfl

structure Reads (assembly «namespace» name : Option Bytes) (read : TypeName) : Prop where
  assembly : Speakable read.assembly ∧ ∃ behind, assembly = some (zeroTerminated read.assembly behind)
  name : Speakable read.name ∧ ∃ behind, name = some (zeroTerminated read.name behind)
  «namespace» : «namespace» = none ∧ read.namespace = "" ∨
    Speakable read.namespace ∧
      ∃ behind, «namespace» = some (zeroTerminated read.namespace behind)

def Unreadable (assembly «namespace» name : Option Bytes) : Prop :=
  assembly = none ∨ name = none ∨
    ∃ bytes, Malformed bytes ∧ (assembly = some bytes ∨ «namespace» = some bytes ∨ name = some bytes)

variable {assembly «namespace» name : Option Bytes} {read : TypeName}

theorem Reads.type_name (reads : Reads assembly «namespace» name read) :
    (typeName? assembly «namespace» name).value = some read := by
  obtain ⟨⟨speakable, behind, rfl⟩, ⟨speakableToo, behindToo, rfl⟩, spaces⟩ := reads
  have first := name_text_of_terminated speakable behind
  have last := name_text_of_terminated speakableToo behindToo
  rcases spaces with ⟨rfl, empty⟩ | ⟨between, behindThat, rfl⟩
  · simp [typeName?, first, last, ← empty]
  · have middle := name_text_of_terminated between behindThat
    simp [typeName?, first, last, middle]

theorem Unreadable.type_name (unreadable : Unreadable assembly «namespace» name) :
    (typeName? assembly «namespace» name).value = none := by
  unfold typeName?
  rcases unreadable with rfl | rfl | ⟨bytes, malformed, rfl | rfl | rfl⟩
  · rfl
  · cases assembly with
    | none => rfl
    | some first => cases early : (nameText? first).value <;> simp [early]
  · simp [name_text_of_malformed malformed]
  · have refused := name_text_of_malformed malformed
    cases assembly with
    | none => rfl
    | some first =>
        cases name with
        | none => cases early : (nameText? first).value <;> simp [early]
        | some last =>
            cases early : (nameText? first).value <;> cases late : (nameText? last).value <;>
              simp [early, late, refused]
  · have refused := name_text_of_malformed malformed
    cases assembly with
    | none => rfl
    | some first => cases early : (nameText? first).value <;> simp [early, refused]

/-- A word that stands for the live value of a name; without one it has all bits set. -/
structure Denotes {α : Type} (t : SlotTable kind α) (nameOf : α → TypeName) (name : TypeName)
    (word : UInt64) : Prop where
  live : ∀ ref value, t.get? ref = some value → nameOf value = name → word = ref.toBits
  missing : word = 18446744073709551615 ↔
    ∀ ref value, t.get? ref = some value → nameOf value ≠ name

theorem null_to_bits : (Ref.null : Ref kind).toBits = 18446744073709551615 := by
  cases kind <;> decide

/-- The null reference is never live, so its bits are those of no live reference. -/
theorem denotes_of_filed {α : Type} {t : SlotTable kind α} {names : Catalog TypeName (Ref kind)}
    {nameOf : α → TypeName} (filed : t.Filed names nameOf) (name : TypeName) :
    Denotes t nameOf name ((names.get? name).getD .null).toBits := by
  constructor
  · intro ref value live same
    rw [(filed.named name ref).mpr ⟨value, live, same⟩, Option.getD_some]
  · cases found : names.get? name with
    | none =>
        rw [Option.getD_none, null_to_bits]
        apply iff_of_true rfl
        intro ref value live same
        have filedThere := (filed.named name ref).mpr ⟨value, live, same⟩
        rw [found] at filedThere
        cases filedThere
    | some ref =>
        obtain ⟨value, live, same⟩ := (filed.named name ref).mp found
        rw [Option.getD_some]
        apply iff_of_false
        · intro word
          rw [← null_to_bits] at word
          exact (SlotTable.get_eq_some.mp live).1 (Ref.toBits_injective word)
        · intro none
          exact none ref value live same

theorem look_up_of_read (installed : Bindings) (find : TypeName → Logged (Option (Ref kind)))
    (reads : Reads assembly «namespace» name read) :
    (lookUp (some installed) find assembly «namespace» name).value =
      ((find read).value.getD .null).toBits := by
  unfold lookUp
  rw [Logged.value_bind, reads.type_name]
  rfl

theorem look_up_of_unreadable (installed : Bindings)
    (find : TypeName → Logged (Option (Ref kind)))
    (unreadable : Unreadable assembly «namespace» name) :
    (lookUp (some installed) find assembly «namespace» name).value = 18446744073709551615 := by
  unfold lookUp
  rw [Logged.value_bind, unreadable.type_name, ← null_to_bits]
  rfl

theorem find_class_value (g : TypeGraph) (name : TypeName) :
    (findClass? g name).value = g.classNames.get? name := by
  unfold findClass? TypeGraph.findClass?
  cases g.classNames.get? name <;> rfl

theorem find_struct_value (g : TypeGraph) (name : TypeName) :
    (findStruct? g name).value = g.structNames.get? name := by
  unfold findStruct? TypeGraph.findStruct?
  cases g.structNames.get? name <;> rfl

/-- What names lead to in a graph, and which words the managed runtime gets for them. -/
structure Answering (g : TypeGraph) : Prop where
  classes : ∀ name ref, g.findClass? name = some ref ↔ ∃ c, g.class? ref = some c ∧ c.name = name
  structs : ∀ name ref, g.findStruct? name = some ref ↔ ∃ s, g.struct? ref = some s ∧ s.name = name
  enums : ∀ name ref, g.findEnum? name = some ref ↔ ∃ e, g.enum? ref = some e ∧ e.name = name
  classes_apart : ∀ ref other c d, g.class? ref = some c → g.class? other = some d →
    c.name = d.name → ref = other
  structs_apart : ∀ ref other c d, g.struct? ref = some c → g.struct? other = some d →
    c.name = d.name → ref = other
  enums_apart : ∀ ref other c d, g.enum? ref = some c → g.enum? other = some d →
    c.name = d.name → ref = other
  /-- The name of a class that is removed can be given again, and leads to the new one alone. -/
  registered_again : ∀ old c again, g.class? old = some c →
    old.generation.toNat + 1 < UInt32.size → again.name = c.name →
    (∀ parent ∈ again.superClass, (g.removeClass old).2.classes.contains parent = true) →
    ∃ ref next, (g.removeClass old).2.addClass again = .ok (ref, next) ∧ ref ≠ old ∧
      next.class? old = none ∧ next.class? ref = some again ∧
      ∀ other, next.findClass? c.name = some other ↔ other = ref
  class_words : ∀ installed assembly «namespace» name read, Reads assembly «namespace» name read →
    Denotes g.classes ManagedClass.name read
      (lookUp (some installed) (findClass? g) assembly «namespace» name).value
  struct_words : ∀ installed assembly «namespace» name read, Reads assembly «namespace» name read →
    Denotes g.structs ManagedStruct.name read
      (lookUp (some installed) (findStruct? g) assembly «namespace» name).value
  unreadable : ∀ installed assembly «namespace» name, Unreadable assembly «namespace» name →
    (lookUp (some installed) (findClass? g) assembly «namespace» name).value =
      18446744073709551615 ∧
    (lookUp (some installed) (findStruct? g) assembly «namespace» name).value =
      18446744073709551615

/-- After any requests names lead to the live types that bear them, and the managed runtime gets
the bits of just these. -/
theorem names_lead_to_live_types (requests : List TypeGraph.Request)
    (classes : (TypeGraph.initial.performAll requests).classes.slots.length + 1 < UInt32.size)
    (structs : (TypeGraph.initial.performAll requests).structs.slots.length + 1 < UInt32.size)
    (enums : (TypeGraph.initial.performAll requests).enums.slots.length + 1 < UInt32.size) :
    Answering (TypeGraph.initial.performAll requests) := by
  have catalogued := TypeGraph.catalogued_after requests (Nat.lt_of_succ_lt classes)
    (Nat.lt_of_succ_lt structs) (Nat.lt_of_succ_lt enums)
  exact {
    classes := catalogued.classes.named
    structs := catalogued.structs.named
    enums := catalogued.enums.named
    classes_apart := fun _ _ _ _ => catalogued.classes.unique
    structs_apart := fun _ _ _ _ => catalogued.structs.unique
    enums_apart := fun _ _ _ _ => catalogued.enums.unique
    registered_again := fun old c again live unwrapped same parents =>
      (TypeGraph.indexed_iff.mpr catalogued.classes).register_again live unwrapped classes same
        parents
    class_words := by
      intro installed assembly «namespace» name read reads
      rw [look_up_of_read installed _ reads, find_class_value]
      exact denotes_of_filed catalogued.classes read
    struct_words := by
      intro installed assembly «namespace» name read reads
      rw [look_up_of_read installed _ reads, find_struct_value]
      exact denotes_of_filed catalogued.structs read
    unreadable := fun installed _ _ _ unreadable =>
      ⟨look_up_of_unreadable installed _ unreadable, look_up_of_unreadable installed _ unreadable⟩ }

def refitted : List TypeGraph.Request :=
  [.edit (.addClass { name := ⟨"Game", "", "Door"⟩ }), .edit (.removeClass ⟨2, 0⟩),
    .edit (.addClass { name := ⟨"Game", "", "Door"⟩ }),
    .defineStruct { name := ⟨"Game", "", "Pane"⟩ }, .defineEnum { name := ⟨"Game", "", "Wood"⟩ }]

/-- The runtime gets the second door. -/
theorem refitted_door_found :
    (TypeGraph.initial.performAll refitted).classes.slots.length + 1 < UInt32.size ∧
    (TypeGraph.initial.performAll refitted).structs.slots.length + 1 < UInt32.size ∧
    (TypeGraph.initial.performAll refitted).enums.slots.length + 1 < UInt32.size ∧
    Answering (TypeGraph.initial.performAll refitted) ∧
    (lookUp (some {}) (findClass? (TypeGraph.initial.performAll refitted))
      (some (zeroTerminated "Game" [])) none (some (zeroTerminated "Door" [7]))).value =
        (⟨2, 1⟩ : ClassRef).toBits := by
  have classes : (TypeGraph.initial.performAll refitted).classes.slots.length + 1 < UInt32.size := by
    decide
  have structs : (TypeGraph.initial.performAll refitted).structs.slots.length + 1 < UInt32.size := by
    decide
  have enums : (TypeGraph.initial.performAll refitted).enums.slots.length + 1 < UInt32.size := by
    decide
  exact ⟨classes, structs, enums, names_lead_to_live_types refitted classes structs enums,
    by decide +kernel⟩

end BlueprintBridge.Export
