import BlueprintBridge.Proofs.Graph.Change
import BlueprintBridge.Proofs.SlotTable.Directory

/-!
# The names of the classes

As long as the class slots can be numbered, a name is on file exactly if a live class bears it, and
for that class. Unchecked edits of a class and removals that wrap a generation do no harm here:
neither changes the name of a class that stays.
-/

namespace BlueprintBridge.TypeGraph

set_option autoImplicit false

inductive Edited : TypeGraph → TypeGraph → Prop where
  | change {g next : TypeGraph} (change : Change g next) : Edited g next
  | removeBlueprint (g : TypeGraph) (ref : BlueprintRef) : Edited g (g.removeBlueprint ref).2
  | removeClass (g : TypeGraph) (ref : ClassRef) : Edited g (g.removeClass ref).2
  | editClass (g : TypeGraph) (ref : ClassRef) (superClass : Option ClassRef)
      (generatedBy : Option BlueprintRef) : Edited g (g.editClass ref superClass generatedBy).2

/-- The graphs that operations of any kind lead to. -/
abbrev Attainable : TypeGraph → Prop := Relation.ReflTransGen Edited initial

structure Indexed (g : TypeGraph) : Prop where
  table : g.classes.Sound
  named : ∀ name ref, g.findClass? name = some ref ↔ ∃ c, g.class? ref = some c ∧ c.name = name

variable {g next : TypeGraph}

inductive Filing (g next : TypeGraph) : Prop where
  | kept (classes : next.classes = g.classes) (names : next.classNames = g.classNames)
  | added (c : ManagedClass) (free : g.findClass? c.name = none)
      (classes : next.classes = (g.classes.insert c).2)
      (names : next.classNames = g.classNames.insert c.name (g.classes.insert c).1)
  | removed (ref : ClassRef) (c : ManagedClass) (live : g.class? ref = some c)
      (classes : next.classes = (g.classes.remove ref).2)
      (names : next.classNames = g.classNames.erase c.name)
  | changed (ref : ClassRef) (f : ManagedClass → ManagedClass)
      (classes : next.classes = g.classes.modify ref f) (names : next.classNames = g.classNames)
      (kept : ∀ c, (f c).name = c.name)

theorem unnamed_of_free {name : TypeName} (free : g.classNames.contains name = false) :
    g.findClass? name = none := by
  cases found : g.classNames.get? name with
  | none => exact found
  | some ref =>
      rw [Catalog.contains, found] at free
      cases free

theorem remove_class_eq {ref : ClassRef} {c : ManagedClass} (live : g.class? ref = some c) :
    (g.removeClass ref).2 = { g with
      classes := (g.classes.remove ref).2
      classNames := g.classNames.erase c.name } := by
  have taken := SlotTable.remove_of_some live
  unfold removeClass
  rw [taken]

theorem remove_class_filing (g : TypeGraph) (ref : ClassRef) : Filing g (g.removeClass ref).2 := by
  cases live : g.class? ref with
  | none =>
      have missing := SlotTable.remove_of_none live
      have same : (g.removeClass ref).2 = g := by
        unfold removeClass
        rw [missing]
      rw [same]
      exact .kept rfl rfl
  | some c =>
      rw [remove_class_eq live]
      exact .removed ref c live rfl rfl

theorem Change.filing (change : Change g next) : Filing g next := by
  cases change with
  | addPackage | addBlueprint | removeBlueprint | setEnumReferences => exact .kept rfl rfl
  | addClass added =>
      obtain ⟨free, _, same, rfl⟩ := add_class_ok added
      subst same
      exact .added _ (unnamed_of_free free) rfl rfl
  | removeClass ref => exact g.remove_class_filing ref
  | setSuper moved =>
      obtain ⟨_, _, _, rfl⟩ := set_super_ok moved
      exact .changed _ _ rfl rfl fun _ => rfl
  | bind bound =>
      obtain ⟨_, _, rfl⟩ := bind_ok bound
      exact .changed _ _ rfl rfl fun _ => rfl
  | addStruct added =>
      obtain ⟨_, _, rfl⟩ := add_struct_ok added
      exact .kept rfl rfl
  | setStructReferences changed =>
      obtain ⟨_, rfl⟩ := set_struct_references_ok changed
      exact .kept rfl rfl
  | addEnum added =>
      obtain ⟨_, _, rfl⟩ := add_enum_ok added
      exact .kept rfl rfl

theorem Edited.filing (edited : Edited g next) : Filing g next := by
  cases edited with
  | change change => exact change.filing
  | removeBlueprint => exact .kept rfl rfl
  | removeClass ref => exact g.remove_class_filing ref
  | editClass ref => exact .changed ref _ rfl rfl fun _ => rfl

theorem Filing.refiling (filing : Filing g next) :
    SlotTable.Refiling ManagedClass.name g.classes g.classNames next.classes next.classNames := by
  cases filing with
  | kept classes names =>
      rw [classes, names]
      exact .kept
  | added c free classes names =>
      rw [classes, names]
      exact .added c free
  | removed ref c live classes names =>
      rw [classes, names]
      exact .removed live
  | changed ref f classes names kept =>
      rw [classes, names]
      exact .changed ref f kept

theorem Filing.sound (filing : Filing g next) (sound : g.classes.Sound) : next.classes.Sound := by
  cases filing with
  | kept classes => exact classes ▸ sound
  | added c _ classes => exact classes ▸ sound.insert c
  | removed ref _ _ classes => exact classes ▸ sound.remove ref
  | changed ref f classes => exact classes ▸ sound.modify ref f

theorem indexed_iff : g.Indexed ↔ g.classes.Filed g.classNames ManagedClass.name :=
  ⟨fun indexed => ⟨indexed.table, indexed.named⟩, fun filed => ⟨filed.table, filed.named⟩⟩

theorem Indexed.added (indexed : g.Indexed) {c : ManagedClass}
    (free : g.findClass? c.name = none) (classes : next.classes = (g.classes.insert c).2)
    (names : next.classNames = g.classNames.insert c.name (g.classes.insert c).1)
    (short : next.classes.slots.length < UInt32.size) : next.Indexed := by
  rw [classes] at short
  rw [indexed_iff, classes, names]
  exact (indexed_iff.mp indexed).insert free short

theorem Indexed.changed (indexed : g.Indexed) {ref : ClassRef} {f : ManagedClass → ManagedClass}
    (classes : next.classes = g.classes.modify ref f) (names : next.classNames = g.classNames)
    (kept : ∀ c, (f c).name = c.name) : next.Indexed := by
  rw [indexed_iff, classes, names]
  exact (indexed_iff.mp indexed).modify ref kept

theorem indexed_empty : Indexed { initial with classes := .empty, classNames := .empty } :=
  indexed_iff.mpr SlotTable.filed_empty

theorem indexed_initial : initial.Indexed := by
  -- The two base classes are added one after the other.
  have object : Indexed { initial with
      classes := (SlotTable.empty.insert { name := objectName }).2
      classNames := Catalog.empty.insert objectName initial.objectClass } :=
    indexed_empty.added (c := { name := objectName }) rfl rfl rfl (by decide)
  exact object.added (c := { name := componentName, superClass := some initial.objectClass })
    (by decide) rfl rfl (by decide)

theorem Attainable.sound (attainable : Attainable g) : g.classes.Sound := by
  induction attainable with
  | refl => exact indexed_initial.table
  | tail _ edited ih => exact edited.filing.sound ih

theorem Attainable.indexed (attainable : Attainable g)
    (short : g.classes.slots.length < UInt32.size) : g.Indexed := by
  rw [indexed_iff]
  apply SlotTable.filed_of_operations (fun _ _ edited => edited.filing.refiling) attainable _ short
  exact indexed_iff.mp indexed_initial

theorem Indexed.live (indexed : g.Indexed) {name : TypeName} {ref : ClassRef}
    (found : g.findClass? name = some ref) : g.classes.contains ref = true :=
  (indexed_iff.mp indexed).live found

/-- The name of a class that was removed can be given again. It leads to the new class then, and
the old reference to nothing. -/
theorem Indexed.register_again (indexed : g.Indexed) {old : ClassRef} {c again : ManagedClass}
    (live : g.class? old = some c) (unwrapped : old.generation.toNat + 1 < UInt32.size)
    (short : g.classes.slots.length + 1 < UInt32.size) (same : again.name = c.name)
    (parents : ∀ parent ∈ again.superClass, (g.removeClass old).2.classes.contains parent = true) :
    ∃ ref next, (g.removeClass old).2.addClass again = .ok (ref, next) ∧ ref ≠ old ∧
      next.class? old = none ∧ next.class? ref = some again ∧
      ∀ other, next.findClass? c.name = some other ↔ other = ref := by
  have freed := remove_class_eq live
  generalize (g.removeClass old).2 = vacant at freed parents ⊢
  have classes : vacant.classes = (g.classes.remove old).2 := by rw [freed]
  have free : vacant.findClass? again.name = none := by
    rw [freed, same]
    exact Catalog.get?_erase_self _ _
  have room : (vacant.classes.insert again).2.slots.length < UInt32.size := by
    have grown := (vacant.classes.length_insert_le again).2
    rw [classes, SlotTable.length_remove] at grown
    rw [classes]
    omega
  have table : vacant.classes.Sound := classes ▸ indexed.table.remove old
  have issued : vacant.classes.Issued old := by
    rw [classes]
    apply SlotTable.Issued.remove
    · exact SlotTable.issued_of_contains (SlotTable.contains_iff.mpr ⟨c, live⟩)
    · exact fun _ => unwrapped
  obtain ⟨fresh, lookup⟩ := table.get_insert_of_short again room
  have apart : old ≠ (vacant.classes.insert again).1 := fun equal => fresh (equal ▸ issued)
  refine ⟨_, _, add_class_eq free parents, apart.symm, ?_, ?_, ?_⟩
  · change (vacant.classes.insert again).2.get? old = none
    rw [lookup, if_neg apart, classes, SlotTable.get_remove, if_pos rfl]
  · change (vacant.classes.insert again).2.get? _ = some again
    rw [lookup, if_pos rfl]
  · intro other
    change (vacant.classNames.insert again.name _).get? c.name = some other ↔ _
    rw [same, Catalog.get?_insert_self, Option.some_inj, eq_comm]

end BlueprintBridge.TypeGraph
