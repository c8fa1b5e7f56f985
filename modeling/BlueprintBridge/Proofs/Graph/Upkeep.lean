import BlueprintBridge.Proofs.Graph.Ancestry
import BlueprintBridge.Proofs.Graph.Requests
import BlueprintBridge.Proofs.SlotTable.Packed

/-!
# A hierarchy with one root

By its own operations a host takes no class, struct or enum away. So every name leads to a live
reference, every class but the root has a live parent, and the way up from a class ends at the root,
which no definition can move: whatever it would be put under derives from it. A definition is
refused for two reasons only. Its class would derive from itself, or its blueprint is gone.
-/

namespace BlueprintBridge

set_option autoImplicit false

/-- What a host does to its graph by its own operations, one at a time. Retrying parked definitions
is defining their classes. -/
inductive Chore where
  | defineClass (d : ClassDefinition)
  | defineStruct (s : ManagedStruct)
  | defineEnum (e : ManagedEnum)
  | ensurePackage (name : String)
  | createBlueprint (package : PackageRef) (name : String)
  | destroyBlueprint (ref : BlueprintRef)

namespace Chore

def request : Chore → TypeGraph.Request
  | defineClass d => .generate d
  | defineStruct s => .defineStruct s
  | defineEnum e => .defineEnum e
  | ensurePackage name => .edit (.ensurePackage name)
  | createBlueprint package name => .edit (.createBlueprint package name)
  | destroyBlueprint ref => .edit (.destroyBlueprint ref)

def struct? : Chore → Option ManagedStruct
  | defineStruct s => some s
  | _ => none

def enum? : Chore → Option ManagedEnum
  | defineEnum e => some e
  | _ => none

end Chore

namespace TypeGraph

variable {g next : TypeGraph} {ref parent : ClassRef} {d : ClassDefinition}

def doChore (g : TypeGraph) (chore : Chore) : TypeGraph := g.perform chore.request

def graphAfter (chores : List Chore) : TypeGraph := chores.foldl doChore initial

theorem graph_after_append (chores more : List Chore) :
    graphAfter (chores ++ more) = more.foldl doChore (graphAfter chores) := List.foldl_append

theorem graph_after_snoc (chores : List Chore) (chore : Chore) :
    graphAfter (chores ++ [chore]) = (graphAfter chores).doChore chore := graph_after_append ..

structure Hung (g : TypeGraph) : Prop where
  objectLive : g.classes.contains g.objectClass = true
  top : g.parent? g.objectClass = none
  parented : ∀ ref, g.classes.contains ref = true → ref ≠ g.objectClass →
    ∃ parent, g.parent? ref = some parent ∧ g.classes.contains parent = true

/-- A hierarchy with one root, in a graph from which nothing was ever taken away. -/
structure OneRoot (g : TypeGraph) : Prop extends Hung g where
  rooted : g.Rooted
  classes : g.classes.Packed g.classNames
  structs : g.structs.Packed g.structNames
  enums : g.enums.Packed g.enumNames
  object : g.objectClass = initial.objectClass

inductive Objection (g : TypeGraph) (d : ClassDefinition) : GraphError → Prop where
  /-- The class is registered, and its parent would derive from it. -/
  | cyclic {ref parent : ClassRef} {c : ManagedClass} (registered : g.findClass? d.name = some ref)
      (known : g.class? ref = some c) (resolved : g.parentFor? d = some parent)
      (below : g.derivesFrom parent ref = true) : Objection g d (.cyclicInheritance c.name)
  | gone {owner : BlueprintRef} (named : d.blueprint = some owner)
      (gone : g.blueprints.contains owner = false) : Objection g d (.staleReference .blueprint)

theorem one_root_initial : initial.OneRoot where
  rooted := rooted_initial
  classes := (SlotTable.packed_empty.insert objectName _).insert componentName _
  structs := SlotTable.packed_empty
  enums := SlotTable.packed_empty
  object := rfl
  objectLive := by decide
  top := rfl
  parented ref live apart := by
    obtain ⟨first, inside⟩ :=
      ((SlotTable.packed_empty.insert objectName _).insert componentName _).contains_iff.mp live
    obtain ⟨index, generation⟩ := ref
    cases first
    match number : index.toNat with
    | 0 =>
        have zero : index = 0 := UInt32.toNat_inj.mp number
        exact absurd (zero ▸ rfl) apart
    | 1 =>
        have one : index = 1 := UInt32.toNat_inj.mp number
        rw [one]
        exact ⟨initial.objectClass, rfl, by decide⟩
    | position + 2 =>
        rw [number] at inside
        exact absurd inside (by simp [SlotTable.insert, SlotTable.empty])

/-- What an operation on classes makes of a graph: it still has one root and the classes it had, and
nothing else is touched. -/
structure Regrouped (g next : TypeGraph) : Prop where
  one : next.OneRoot
  stays : ∀ ref, g.classes.contains ref = true → next.classes.contains ref = true
  structs : next.structs = g.structs
  structNames : next.structNames = g.structNames
  enums : next.enums = g.enums
  enumNames : next.enumNames = g.enumNames

theorem Regrouped.trans {last : TypeGraph} (first : g.Regrouped next)
    (second : next.Regrouped last) : g.Regrouped last where
  one := second.one
  stays ref live := second.stays ref (first.stays ref live)
  structs := second.structs.trans first.structs
  structNames := second.structNames.trans first.structNames
  enums := second.enums.trans first.enums
  enumNames := second.enumNames.trans first.enumNames

namespace OneRoot

theorem of_classes (one : g.OneRoot) (classes : next.classes = g.classes)
    (names : next.classNames = g.classNames) (object : next.objectClass = g.objectClass)
    (structs : next.structs.Packed next.structNames) (enums : next.enums.Packed next.enumNames) :
    next.OneRoot where
  rooted := one.rooted.of_classes classes
  classes := by
    rw [classes, names]
    exact one.classes
  structs := structs
  enums := enums
  object := object.trans one.object
  objectLive := by
    rw [classes, object]
    exact one.objectLive
  top := by
    rw [parent_of_classes classes, object]
    exact one.top
  parented ref live apart := by
    rw [classes] at live ⊢
    rw [parent_of_classes classes]
    exact one.parented ref live (object ▸ apart)

theorem derives (one : g.OneRoot) (live : g.classes.contains ref = true) :
    g.derivesFrom ref g.objectClass = true := by
  rw [one.rooted.derives_iff]
  obtain ⟨visited, -, search⟩ := one.rooted.search ref g.objectClass
  generalize g.derivesFrom ref g.objectClass = answer at search
  -- The climb can only end at the root: below it each class has a live parent.
  induction search with
  | found => exact .refl
  | lost apart top =>
      obtain ⟨_, link, _⟩ := one.parented _ live apart
      rw [top] at link
      cases link
  | up apart link later ih =>
      obtain ⟨_, same, above⟩ := one.parented _ live apart
      rw [link] at same
      cases same
      exact .head (link_iff.mpr link) (ih above)

theorem parent_for_live (one : g.OneRoot) (resolved : g.parentFor? d = some parent) :
    g.classes.contains parent = true := by
  unfold parentFor? at resolved
  split at resolved
  · exact one.classes.listed _ _ resolved
  · cases resolved
    exact one.objectLive

theorem with_class_lookup (one : g.OneRoot) (name : TypeName) (parent : ClassRef) :
    (∀ ref, (g.withClass name parent).2.class? ref = g.class? ref) ∨
      ¬ g.classes.Issued (g.withClass name parent).1 ∧
        ∀ ref, (g.withClass name parent).2.class? ref =
          if ref = (g.withClass name parent).1 then some { name, superClass := some parent }
          else g.class? ref :=
  one.rooted.table.get_insert_cases _

theorem hung_with_class (one : g.OneRoot) (name : TypeName)
    (live : g.classes.contains parent = true) : (g.withClass name parent).2.Hung := by
  have stays {ref : ClassRef} (live : g.classes.contains ref = true) :
      (g.withClass name parent).2.classes.contains ref = true :=
    one.classes.contains_insert_of_live _ live
  have lookup := one.with_class_lookup name parent
  have object : (g.withClass name parent).2.objectClass = g.objectClass := rfl
  generalize (g.withClass name parent).1 = new, (g.withClass name parent).2 = next
    at stays lookup object ⊢
  have there : next.classes.contains next.objectClass = true := by
    rw [object]
    exact stays one.objectLive
  rcases lookup with same | ⟨fresh, lookup⟩
  -- The new class may be out of reach, and then nothing that can be looked up changes.
  · have parents (ref : ClassRef) : next.parent? ref = g.parent? ref := by
      rw [parent?, same, parent?]
    refine ⟨there, (parents _).trans (object ▸ one.top), ?_⟩
    intro ref refLive apart
    obtain ⟨c, found⟩ := SlotTable.contains_iff.mp refLive
    have before := SlotTable.contains_iff.mpr ⟨c, (same ref).symm.trans found⟩
    obtain ⟨above, link, aboveLive⟩ := one.parented ref before (object ▸ apart)
    exact ⟨above, (parents ref).trans link, stays aboveLive⟩
  · have root : g.objectClass ≠ new := by
      rintro rfl
      exact fresh (SlotTable.issued_of_contains one.objectLive)
    refine ⟨there, ?_, ?_⟩
    · rw [object, parent?, lookup, if_neg root]
      exact one.top
    · intro ref refLive apart
      rw [object] at apart
      rw [parent?, lookup]
      obtain ⟨c, found⟩ := SlotTable.contains_iff.mp refLive
      have found := (lookup ref).symm.trans found
      split at found
      · next made =>
          rw [if_pos made]
          exact ⟨parent, rfl, stays live⟩
      · next old =>
          rw [if_neg old]
          have before := SlotTable.contains_iff.mpr ⟨c, found⟩
          obtain ⟨above, link, aboveLive⟩ := one.parented ref before apart
          exact ⟨above, link, stays aboveLive⟩

theorem with_class (one : g.OneRoot) {name : TypeName} (free : g.findClass? name = none)
    (live : g.classes.contains parent = true) : g.Regrouped (g.withClass name parent).2 := by
  have change := place_class_change (place_class_free free live)
  have after : (g.withClass name parent).2.OneRoot :=
    { toHung := one.hung_with_class name live
      rooted := change.rooted one.rooted
      classes := one.classes.insert name _
      structs := one.structs
      enums := one.enums
      object := one.object }
  exact ⟨after, fun _ there => one.classes.contains_insert_of_live _ there, rfl, rfl, rfl, rfl⟩

theorem with_super (one : g.OneRoot) (live : g.classes.contains ref = true)
    (parentLive : g.classes.contains parent = true) (apart : g.derivesFrom parent ref = false) :
    g.Regrouped (g.withSuper ref parent) := by
  have moved := set_super_eq live parentLive apart
  have parents := set_super_parents moved
  have there (other : ClassRef) :
      (g.withSuper ref parent).classes.contains other = g.classes.contains other :=
    SlotTable.contains_modify ..
  have notRoot : g.objectClass ≠ ref := by
    rintro rfl
    rw [one.derives parentLive] at apart
    cases apart
  have after : (g.withSuper ref parent).OneRoot :=
    { rooted := (Change.setSuper moved).rooted one.rooted
      classes := one.classes.modify ref _
      structs := one.structs
      enums := one.enums
      object := one.object
      objectLive := (there _).trans one.objectLive
      top := by
        change (g.withSuper ref parent).parent? g.objectClass = none
        rw [parents, if_neg notRoot, one.top]
      parented := by
        intro other otherLive otherApart
        rw [there] at otherLive
        rw [parents]
        split
        · exact ⟨parent, rfl, (there _).trans parentLive⟩
        · obtain ⟨above, link, aboveLive⟩ := one.parented other otherLive otherApart
          exact ⟨above, link, (there _).trans aboveLive⟩ }
  exact ⟨after, fun other otherLive => (there other).trans otherLive, rfl, rfl, rfl, rfl⟩

theorem bind (one : g.OneRoot) {owner : BlueprintRef} (bound : g.bind owner ref = .ok next) :
    g.Regrouped next := by
  have parents := bind_parents bound
  have rooted := (Change.bind bound).rooted one.rooted
  obtain ⟨_, _, rfl⟩ := bind_ok bound
  have there (other : ClassRef) :
      (g.classes.modify ref fun c => { c with generatedBy := some owner }).contains other =
        g.classes.contains other :=
    SlotTable.contains_modify ..
  refine ⟨?_, fun other live => (there other).trans live, rfl, rfl, rfl, rfl⟩
  exact {
    rooted := rooted
    classes := one.classes.modify ref _
    structs := one.structs
    enums := one.enums
    object := one.object
    objectLive := (there _).trans one.objectLive
    top := (parents _).trans one.top
    parented := by
      intro other live apart
      rw [there] at live
      obtain ⟨above, link, aboveLive⟩ := one.parented other live apart
      exact ⟨above, (parents other).trans link, (there above).trans aboveLive⟩ }

theorem place_class (one : g.OneRoot) {name : TypeName}
    (placed : g.placeClass name parent = .ok (ref, next)) :
    g.Regrouped next ∧ next.classes.contains ref = true ∧ next.blueprints = g.blueprints := by
  rcases place_class_ok placed with ⟨free, live, same⟩ | ⟨_, live, parentLive, apart, rfl⟩
  · have regrouped := one.with_class free live
    have made := one.classes.contains_insert { name, superClass := some parent }
    cases same
    exact ⟨regrouped, made, rfl⟩
  · have regrouped := one.with_super live parentLive apart
    exact ⟨regrouped, regrouped.stays ref live, rfl⟩

theorem misplaced (one : g.OneRoot) {e : GraphError} (resolved : g.parentFor? d = some parent)
    (misplaced : g.placeClass d.name parent = .error e) : g.Objection d e := by
  have parentLive := one.parent_for_live resolved
  cases registered : g.findClass? d.name with
  | none =>
      rw [place_class_free registered parentLive] at misplaced
      cases misplaced
  | some ref =>
      obtain ⟨c, known⟩ := SlotTable.contains_iff.mp (one.classes.listed _ _ registered)
      have known : g.class? ref = some c := known
      cases below : g.derivesFrom parent ref with
      | false =>
          rw [place_class_registered registered (one.classes.listed _ _ registered) parentLive
            below] at misplaced
          cases misplaced
      | true =>
          simp only [placeClass, registered, setSuper, known, parentLive, below, Except.map,
            Bool.not_true, Bool.false_eq_true, if_false, if_true] at misplaced
          cases misplaced
          exact .cyclic registered known resolved below

theorem unbound {owner : BlueprintRef} {e : GraphError} (live : g.classes.contains ref = true)
    (unbound : g.bind owner ref = .error e) :
    e = .staleReference .blueprint ∧ g.blueprints.contains owner = false := by
  rcases bind_error_iff.mp ⟨e, unbound⟩ with gone | gone
  · rw [live] at gone
    cases gone
  · simp only [TypeGraph.bind, live, gone] at unbound
    cases unbound
    exact ⟨rfl, gone⟩

/-- A definition keeps the one root, whichever way it ends. The class it gives is live, and it is
refused for an objection only. -/
theorem generate (one : g.OneRoot) {answer : Except GraphError (Option ClassRef)}
    (run : g.generate d = (answer, next)) :
    g.Regrouped next ∧ (∀ ref, answer = .ok (some ref) → next.classes.contains ref = true) ∧
      ∀ e, answer = .error e → g.Objection d e := by
  have kept : g.Regrouped g := ⟨one, fun _ live => live, rfl, rfl, rfl, rfl⟩
  cases generate_cases run with
  | orphan =>
      refine ⟨kept, ?_, ?_⟩
      · rintro _ ⟨⟩
      · rintro _ ⟨⟩
  | misplaced resolved misplaced =>
      refine ⟨kept, ?_, ?_⟩
      · rintro _ ⟨⟩
      · rintro _ ⟨⟩
        exact one.misplaced resolved misplaced
  | unowned resolved placing =>
      obtain ⟨regrouped, made, _⟩ := one.place_class placing
      refine ⟨regrouped, ?_, ?_⟩
      · rintro _ ⟨⟩
        exact made
      · rintro _ ⟨⟩
  | unbound resolved placing named unbound =>
      obtain ⟨regrouped, made, blueprints⟩ := one.place_class placing
      obtain ⟨same, gone⟩ := OneRoot.unbound made unbound
      refine ⟨regrouped, ?_, ?_⟩
      · rintro _ ⟨⟩
      · rintro _ ⟨⟩
        rw [same]
        rw [blueprints] at gone
        exact .gone named gone
  | bound resolved placing named binding =>
      obtain ⟨regrouped, made, _⟩ := one.place_class placing
      have bound := regrouped.one.bind binding
      refine ⟨regrouped.trans bound, ?_, ?_⟩
      · rintro _ ⟨⟩
        exact bound.stays _ made
      · rintro _ ⟨⟩

theorem successive {trials : List Trial} (one : g.OneRoot)
    (successive : Trial.Successive g trials next) {trial : Trial} (member : trial ∈ trials) :
    trial.before.OneRoot := by
  induction trials generalizing g with
  | nil => cases member
  | cons head rest ih =>
      obtain ⟨same, run, later⟩ := successive
      rcases List.mem_cons.mp member with rfl | further
      · rw [same]
        exact one
      · exact ih (one.generate run).1.one later further

theorem define_struct (one : g.OneRoot) (s : ManagedStruct) :
    ∃ ref structs structNames, g.defineStruct s = .ok (ref, { g with structs, structNames }) ∧
      g.structs.Restocked ManagedStruct.name g.structNames (some s) structs structNames ∧
      structNames.get? s.name = some ref := by
  cases found : g.findStruct? s.name with
  | none =>
      have free : g.structNames.contains s.name = false := by
        rw [Catalog.contains, show g.structNames.get? s.name = none from found]
        rfl
      refine ⟨_, _, _, ?_, .added found, Catalog.get?_insert_self ..⟩
      simp only [defineStruct, found, addStruct, free]
      rfl
  | some ref =>
      have live := one.structs.listed _ _ found
      let f (old : ManagedStruct) : ManagedStruct := { old with references := s.references }
      refine ⟨ref, g.structs.modify ref f, _, ?_, .changed found (fun _ => rfl) ?_, found⟩
      · simp only [defineStruct, found, setStructReferences, live, if_true]
        rfl
      · intro old same
        cases s
        cases same
        rfl

end OneRoot

theorem define_enum_restocked (g : TypeGraph) (e : ManagedEnum) :
    ∃ ref enums enumNames, g.defineEnum e = .ok (ref, { g with enums, enumNames }) ∧
      g.enums.Restocked ManagedEnum.name g.enumNames (some e) enums enumNames ∧
      enumNames.get? e.name = some ref := by
  cases found : g.findEnum? e.name with
  | none =>
      have free : g.enumNames.contains e.name = false := by
        rw [Catalog.contains, show g.enumNames.get? e.name = none from found]
        rfl
      refine ⟨_, _, _, ?_, .added found, Catalog.get?_insert_self ..⟩
      simp only [defineEnum, found, addEnum, free]
      rfl
  | some ref =>
      let f (old : ManagedEnum) : ManagedEnum := { old with references := e.references }
      refine ⟨ref, g.enums.modify ref f, _, ?_, .changed found (fun _ => rfl) ?_, found⟩
      · simp only [defineEnum, found, setEnumReferences]
        rfl
      · intro old same
        cases e
        cases same
        rfl

structure Upkept (g : TypeGraph) (chore : Chore) (next : TypeGraph) : Prop where
  one : next.OneRoot
  stays : ∀ ref, g.classes.contains ref = true → next.classes.contains ref = true
  structs : g.structs.Restocked ManagedStruct.name g.structNames chore.struct? next.structs
    next.structNames
  enums : g.enums.Restocked ManagedEnum.name g.enumNames chore.enum? next.enums next.enumNames

theorem OneRoot.upkept_elsewhere (one : g.OneRoot) {chore : Chore} (struct : chore.struct? = none)
    (enum : chore.enum? = none) (packages : SlotTable .package Package)
    (blueprints : SlotTable .blueprint Blueprint) :
    g.Upkept chore { g with packages, blueprints } where
  one := one.of_classes rfl rfl rfl one.structs one.enums
  stays _ live := live
  structs := by
    rw [struct]
    exact .kept
  enums := by
    rw [enum]
    exact .kept

theorem OneRoot.do_chore (one : g.OneRoot) (chore : Chore) : g.Upkept chore (g.doChore chore) := by
  cases chore with
  | defineClass d =>
      obtain ⟨answer, next, run⟩ : ∃ answer next, g.generate d = (answer, next) := ⟨_, _, rfl⟩
      have after : g.doChore (.defineClass d) = next := congrArg Prod.snd run
      obtain ⟨regrouped, _, _⟩ := one.generate run
      rw [after]
      refine ⟨regrouped.one, regrouped.stays, ?_, ?_⟩
      · rw [regrouped.structs, regrouped.structNames]
        exact .kept
      · rw [regrouped.enums, regrouped.enumNames]
        exact .kept
  | defineStruct s =>
      obtain ⟨ref, structs, structNames, run, restocked, _⟩ := one.define_struct s
      have after : g.doChore (.defineStruct s) = { g with structs, structNames } :=
        congrArg g.attempted run
      rw [after]
      exact {
        one := one.of_classes rfl rfl rfl (restocked.packed one.structs) one.enums
        stays := fun _ live => live
        structs := restocked
        enums := .kept }
  | defineEnum e =>
      obtain ⟨ref, enums, enumNames, run, restocked, _⟩ := g.define_enum_restocked e
      have after : g.doChore (.defineEnum e) = { g with enums, enumNames } :=
        congrArg g.attempted run
      rw [after]
      exact {
        one := one.of_classes rfl rfl rfl one.structs (restocked.packed one.enums)
        stays := fun _ live => live
        structs := .kept
        enums := restocked }
  | ensurePackage name =>
      change g.Upkept _ (g.ensurePackage name).2
      unfold ensurePackage
      split
      · exact one.upkept_elsewhere rfl rfl g.packages g.blueprints
      · exact one.upkept_elsewhere rfl rfl _ g.blueprints
  | createBlueprint package name =>
      change g.Upkept _ (Session.GraphEdit.apply g (.createBlueprint package name)).2
      simp only [Session.GraphEdit.apply, createBlueprint]
      cases g.package? package with
      | none => exact one.upkept_elsewhere rfl rfl g.packages g.blueprints
      | some _ => exact one.upkept_elsewhere rfl rfl g.packages _
  | destroyBlueprint ref => exact one.upkept_elsewhere rfl rfl g.packages _

theorem one_root_after (chores : List Chore) : (graphAfter chores).OneRoot := by
  induction chores using List.reverseRecOn with
  | nil => exact one_root_initial
  | append_singleton chores last ih =>
      rw [graph_after_snoc]
      exact (ih.do_chore last).one

theorem upkept_after (chores : List Chore) (last : Chore) :
    (graphAfter chores).Upkept last (graphAfter (chores ++ [last])) := by
  rw [graph_after_snoc]
  exact (one_root_after chores).do_chore last

/-- What no chore ends holds ever after. -/
theorem holds_ever_after {P : TypeGraph → Prop}
    (step : ∀ chore g next, Upkept g chore next → P g → P next) {chores : List Chore}
    (now : P (graphAfter chores)) (more : List Chore) : P (graphAfter (chores ++ more)) := by
  induction more using List.reverseRecOn with
  | nil => rwa [List.append_nil]
  | append_singleton more last ih =>
      rw [← List.append_assoc]
      exact step last _ _ (upkept_after (chores ++ more) last) ih

theorem class_stays {chores : List Chore}
    (live : (graphAfter chores).classes.contains ref = true) (more : List Chore) :
    (graphAfter (chores ++ more)).classes.contains ref = true :=
  holds_ever_after (fun _ _ _ upkept => upkept.stays ref) live more

theorem struct_stays {chores : List Chore} {name : TypeName} {ref : StructRef}
    (found : (graphAfter chores).findStruct? name = some ref) (more : List Chore) :
    (graphAfter (chores ++ more)).findStruct? name = some ref :=
  holds_ever_after (P := fun g => g.findStruct? name = some ref)
    (fun _ _ _ upkept => upkept.structs.found) found more

theorem enum_stays {chores : List Chore} {name : TypeName} {ref : EnumRef}
    (found : (graphAfter chores).findEnum? name = some ref) (more : List Chore) :
    (graphAfter (chores ++ more)).findEnum? name = some ref :=
  holds_ever_after (P := fun g => g.findEnum? name = some ref)
    (fun _ _ _ upkept => upkept.enums.found) found more

theorem struct_recorded {chores : List Chore}
    (short : (graphAfter chores).structs.slots.length < UInt32.size) {name : TypeName}
    {ref : StructRef} (found : (graphAfter chores).findStruct? name = some ref) :
    (graphAfter chores).struct? ref =
      SlotTable.lastNamed? ManagedStruct.name (chores.filterMap Chore.struct?) name := by
  have recorded := SlotTable.recorded_eq_last_named (fun chores => (graphAfter chores).structs)
    (fun chores => (graphAfter chores).structNames) Chore.struct? rfl rfl
    (fun chores last => (upkept_after chores last).structs) chores short
  have filed : (graphAfter chores).structNames.get? name = some ref := found
  rw [← recorded.2 name, SlotTable.recorded?, filed]
  rfl

theorem enum_recorded {chores : List Chore}
    (short : (graphAfter chores).enums.slots.length < UInt32.size) {name : TypeName}
    {ref : EnumRef} (found : (graphAfter chores).findEnum? name = some ref) :
    (graphAfter chores).enum? ref =
      SlotTable.lastNamed? ManagedEnum.name (chores.filterMap Chore.enum?) name := by
  have recorded := SlotTable.recorded_eq_last_named (fun chores => (graphAfter chores).enums)
    (fun chores => (graphAfter chores).enumNames) Chore.enum? rfl rfl
    (fun chores last => (upkept_after chores last).enums) chores short
  have filed : (graphAfter chores).enumNames.get? name = some ref := found
  rw [← recorded.2 name, SlotTable.recorded?, filed]
  rfl

end TypeGraph

end BlueprintBridge
