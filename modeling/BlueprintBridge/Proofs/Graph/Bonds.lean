import BlueprintBridge.Proofs.Graph.Requests
import BlueprintBridge.Proofs.SlotTable.Links

/-!
# Who owns a class

A bond is made when a binding succeeds, by itself or as the end of a definition. As long as no class
is added with an owner or edited unchecked and no removal wraps a generation, a class is owned by
the blueprint of its last bond and a blueprint generates the class of its own last bond, while both
partners live. A blueprint that is added with a class has that one before its first bond. Neither
passes to a successor in the slot of a partner that is gone.
-/

namespace BlueprintBridge.TypeGraph

set_option autoImplicit false

structure Bond where
  owner : BlueprintRef
  ref : ClassRef
deriving DecidableEq

def Bond.ofClass (bond : Bond) : ClassRef × BlueprintRef := (bond.ref, bond.owner)

def Bond.ofBlueprint (bond : Bond) : BlueprintRef × ClassRef := (bond.owner, bond.ref)

def bond? (g : TypeGraph) : Request → Option Bond
  | .edit (.bind owner ref) =>
    match g.bind owner ref with
    | .ok _ => some ⟨owner, ref⟩
    | .error _ => none
  | .generate d =>
    match d.blueprint, (g.generate d).1 with
    | some owner, .ok (some ref) => some ⟨owner, ref⟩
    | _, _ => none
  | _ => none

def bonds (g : TypeGraph) : List Request → List Bond
  | [] => []
  | request :: rest => (g.bond? request).toList ++ (g.perform request).bonds rest

def preset? (g : TypeGraph) : Request → Option (BlueprintRef × ClassRef)
  | .edit (.addBlueprint blueprint) => g.blueprints.givenLink? Blueprint.generatedClass blueprint
  | _ => none

def presets (g : TypeGraph) : List Request → List (BlueprintRef × ClassRef)
  | [] => []
  | request :: rest => (g.preset? request).toList ++ (g.perform request).presets rest

/-- Whether a request adds nothing with a partner, edits nothing unchecked and wraps no
generation. -/
def Fits (g : TypeGraph) : Request → Prop
  | .edit (.addClass c) => c.generatedBy = none
  | .edit (.addBlueprint blueprint) => blueprint.generatedClass = none
  | .edit (.editClass _ _ _) => False
  | .edit (.removeClass ref) =>
    g.classes.contains ref = true → ref.generation.toNat + 1 < UInt32.size
  | .edit (.removeBlueprint ref) | .edit (.destroyBlueprint ref) =>
    g.blueprints.contains ref = true → ref.generation.toNat + 1 < UInt32.size
  | _ => True

def FitAll (g : TypeGraph) : List Request → Prop
  | [] => True
  | request :: rest => g.Fits request ∧ (g.perform request).FitAll rest

/-- Whether a request fits but for the class that it may add a blueprint with. -/
def FitsBesidePresets (g : TypeGraph) : Request → Prop
  | .edit (.addBlueprint _) => True
  | request => g.Fits request

def FitAllBesidePresets (g : TypeGraph) : List Request → Prop
  | [] => True
  | request :: rest =>
    g.FitsBesidePresets request ∧ (g.perform request).FitAllBesidePresets rest

def lastOwner? (bonds : List Bond) (ref : ClassRef) : Option BlueprintRef :=
  SlotTable.lastLink? (bonds.map Bond.ofClass) ref

def lastClass? (bonds : List Bond) (owner : BlueprintRef) : Option ClassRef :=
  SlotTable.lastLink? (bonds.map Bond.ofBlueprint) owner

/-- A blueprint was added without a class, or has been in a bond since. -/
def Unpreset (given : List (BlueprintRef × ClassRef)) (made : List Bond) (owner : BlueprintRef) :
    Prop :=
  SlotTable.lastLink? given owner = none ∨ (lastClass? made owner).isSome = true

variable {g next middle : TypeGraph} {given : List (BlueprintRef × ClassRef)} {made : List Bond}
  {request : Request}

inductive Tending (g next : TypeGraph) : Prop where
  | kept (classes : next.classes = g.classes) (blueprints : next.blueprints = g.blueprints)
  | classAdded (c : ManagedClass) (bare : c.generatedBy = none)
      (classes : next.classes = (g.classes.insert c).2) (blueprints : next.blueprints = g.blueprints)
  | classChanged (ref : ClassRef) (f : ManagedClass → ManagedClass)
      (owned : ∀ c, (f c).generatedBy = c.generatedBy)
      (classes : next.classes = g.classes.modify ref f) (blueprints : next.blueprints = g.blueprints)
  | blueprintAdded (blueprint : Blueprint) (bare : blueprint.generatedClass = none)
      (classes : next.classes = g.classes)
      (blueprints : next.blueprints = (g.blueprints.insert blueprint).2)

/-- What a request does to partners, with the bond it makes. -/
inductive Pairing (g next : TypeGraph) : Option Bond → Prop where
  | tended (tending : Tending g next) : Pairing g next none
  | classRemoved (ref : ClassRef)
      (unwrapped : g.classes.contains ref = true → ref.generation.toNat + 1 < UInt32.size)
      (classes : next.classes = (g.classes.remove ref).2)
      (blueprints : next.blueprints = g.blueprints) : Pairing g next none
  | blueprintRemoved (ref : BlueprintRef)
      (unwrapped : g.blueprints.contains ref = true → ref.generation.toNat + 1 < UInt32.size)
      (classes : next.classes = g.classes)
      (blueprints : next.blueprints = (g.blueprints.remove ref).2) : Pairing g next none
  | bound {middle : TypeGraph} {owner : BlueprintRef} {ref : ClassRef} (tending : Tending g middle)
      (binding : middle.bind owner ref = .ok next) : Pairing g next (some ⟨owner, ref⟩)

theorem Tending.refl (g : TypeGraph) : Tending g g := .kept rfl rfl

theorem add_class_tending {c : ManagedClass} {ref : ClassRef} (bare : c.generatedBy = none)
    (added : g.addClass c = .ok (ref, next)) : Tending g next := by
  obtain ⟨_, _, _, rfl⟩ := add_class_ok added
  exact .classAdded c bare rfl rfl

theorem set_super_tending {ref parent : ClassRef} (moved : g.setSuper ref parent = .ok next) :
    Tending g next := by
  obtain ⟨_, _, _, rfl⟩ := set_super_ok moved
  exact .classChanged ref (fun c => { c with superClass := some parent }) (fun _ => rfl) rfl rfl

theorem place_class_tending {name : TypeName} {parent ref : ClassRef}
    (placed : g.placeClass name parent = .ok (ref, next)) : Tending g next := by
  unfold placeClass at placed
  split at placed
  · obtain ⟨graph, moved, same⟩ := map_eq_ok placed
    cases same
    exact set_super_tending moved
  · exact add_class_tending rfl placed

theorem attempted_pairing {ε α : Type} {result : Except ε (α × TypeGraph)}
    (reached : ∀ answer next, result = .ok (answer, next) → Tending g next) :
    Pairing g (g.attempted result) none := by
  cases result with
  | error e => exact .tended (.refl g)
  | ok pair => exact .tended (reached pair.1 pair.2 rfl)

theorem generate_pairing (g : TypeGraph) (d : ClassDefinition) :
    Pairing g (g.generate d).2 (g.bond? (.generate d)) := by
  obtain ⟨answer, next, run⟩ : ∃ answer next, g.generate d = (answer, next) := ⟨_, _, rfl⟩
  simp only [bond?, run]
  cases generate_cases run with
  | orphan | misplaced => simpa using .tended (.refl g)
  | unowned _ placing unowned => simpa [unowned] using .tended (place_class_tending placing)
  | unbound _ placing => simpa using .tended (place_class_tending placing)
  | bound _ placing named binding =>
      simpa [named] using .bound (place_class_tending placing) binding

theorem bind_pairing (g : TypeGraph) (owner : BlueprintRef) (ref : ClassRef) :
    Pairing g (g.perform (.edit (.bind owner ref))) (g.bond? (.edit (.bind owner ref))) := by
  simp only [perform, Session.GraphEdit.apply, edit_or_graph, bond?]
  cases binding : g.bind owner ref with
  | error e => exact .tended (.refl g)
  | ok next => exact .bound (.refl g) binding

theorem edit_pairing {edit : Session.GraphEdit} (fits : g.Fits (.edit edit)) :
    Pairing g (g.perform (.edit edit)) (g.bond? (.edit edit)) := by
  cases edit with
  | bind owner ref => exact g.bind_pairing owner ref
  | editClass => exact fits.elim
  | removeClass ref =>
      obtain ⟨classNames, same⟩ := g.remove_class_frame ref
      have after : g.perform (.edit (.removeClass ref)) = (g.removeClass ref).2 := rfl
      rw [after, same]
      exact .classRemoved ref fits rfl rfl
  | removeBlueprint ref | destroyBlueprint ref => exact .blueprintRemoved ref fits rfl rfl
  | ensurePackage name =>
      apply Pairing.tended
      simp only [perform, Session.GraphEdit.apply, ensurePackage]
      split
      · exact .refl g
      · exact .kept rfl rfl
  | createBlueprint package name =>
      apply Pairing.tended
      simp only [perform, Session.GraphEdit.apply, createBlueprint]
      cases g.package? package with
      | none => exact .refl g
      | some _ => exact .blueprintAdded ⟨name, .managed, some package, none⟩ rfl rfl rfl
  | addPackage package => exact .tended (.kept rfl rfl)
  | addBlueprint blueprint => exact .tended (.blueprintAdded blueprint fits rfl rfl)
  | setEnumReferences ref refs => exact .tended (.kept rfl rfl)
  | addClass c =>
      simp only [perform, Session.GraphEdit.apply, edit_or_graph]
      exact attempted_pairing fun _ _ added => add_class_tending fits added
  | setSuper ref parent =>
      simp only [perform, Session.GraphEdit.apply, edit_or_graph]
      apply attempted_pairing
      intro _ _ changed
      obtain ⟨_, moved, same⟩ := map_eq_ok changed
      cases same
      exact set_super_tending moved
  | addStruct s =>
      simp only [perform, Session.GraphEdit.apply, edit_or_graph]
      apply attempted_pairing
      intro _ _ added
      obtain ⟨_, _, rfl⟩ := add_struct_ok added
      exact .kept rfl rfl
  | addEnum e =>
      simp only [perform, Session.GraphEdit.apply, edit_or_graph]
      apply attempted_pairing
      intro _ _ added
      obtain ⟨_, _, rfl⟩ := add_enum_ok added
      exact .kept rfl rfl
  | setStructReferences ref refs =>
      simp only [perform, Session.GraphEdit.apply, edit_or_graph]
      apply attempted_pairing
      intro _ _ changed
      obtain ⟨_, replaced, same⟩ := map_eq_ok changed
      cases same
      obtain ⟨_, rfl⟩ := set_struct_references_ok replaced
      exact .kept rfl rfl

theorem perform_pairing (fits : g.Fits request) :
    Pairing g (g.perform request) (g.bond? request) := by
  cases request with
  | edit edit => exact edit_pairing fits
  | generate d => exact g.generate_pairing d
  | defineStruct s =>
      apply attempted_pairing
      intro _ _ defined
      obtain ⟨structs, structNames, rfl⟩ := define_struct_frame defined
      exact .kept rfl rfl
  | defineEnum e =>
      apply attempted_pairing
      intro _ _ defined
      obtain ⟨enums, enumNames, rfl⟩ := define_enum_frame defined
      exact .kept rfl rfl

/-- A graph whose links are those that blueprints were added with, and then those of the bonds that
were made. -/
structure Bonded (g : TypeGraph) (given : List (BlueprintRef × ClassRef)) (made : List Bond) :
    Prop where
  classes : g.classes.Linked ManagedClass.generatedBy (made.map Bond.ofClass)
  blueprints : g.blueprints.Linked Blueprint.generatedClass (given ++ made.map Bond.ofBlueprint)

theorem bonded_initial : initial.Bonded [] [] where
  classes := by
    have empty : (SlotTable.empty : SlotTable .managedClass ManagedClass).Linked
        ManagedClass.generatedBy [] := ⟨SlotTable.sound_empty, by simp, by simp⟩
    have object : (SlotTable.empty.insert { name := objectName }).2.Linked
        ManagedClass.generatedBy [] := empty.insert rfl
    exact object.insert rfl
  blueprints := ⟨SlotTable.sound_empty, by simp, by simp [initial]⟩

theorem Tending.bonded (tending : Tending g next) (bonded : g.Bonded given made) :
    next.Bonded given made := by
  constructor
  · cases tending with
    | kept classes | blueprintAdded _ _ classes =>
        rw [classes]
        exact bonded.classes
    | classAdded c bare classes =>
        rw [classes]
        exact bonded.classes.insert bare
    | classChanged ref f owned classes =>
        rw [classes]
        exact bonded.classes.modify ref owned
  · cases tending with
    | kept _ blueprints | classAdded _ _ _ blueprints | classChanged _ _ _ _ blueprints =>
        rw [blueprints]
        exact bonded.blueprints
    | blueprintAdded blueprint bare _ blueprints =>
        rw [blueprints]
        exact bonded.blueprints.insert bare

theorem bind_bonded {owner : BlueprintRef} {ref : ClassRef} (bonded : g.Bonded given made)
    (binding : g.bind owner ref = .ok next) : next.Bonded given (made ++ [⟨owner, ref⟩]) := by
  obtain ⟨live, owned, rfl⟩ := bind_ok binding
  constructor
  · rw [List.map_append]
    exact bonded.classes.join live fun _ => rfl
  · rw [List.map_append, ← List.append_assoc]
    exact bonded.blueprints.join owned fun _ => rfl

theorem Pairing.bonded {bond : Option Bond} (pairing : Pairing g next bond)
    (bonded : g.Bonded given made) : next.Bonded given (made ++ bond.toList) := by
  cases pairing with
  | tended tending =>
      rw [Option.toList_none, List.append_nil]
      exact tending.bonded bonded
  | classRemoved ref unwrapped classes blueprints =>
      rw [Option.toList_none, List.append_nil]
      constructor
      · rw [classes]
        exact bonded.classes.remove unwrapped
      · rw [blueprints]
        exact bonded.blueprints
  | blueprintRemoved ref unwrapped classes blueprints =>
      rw [Option.toList_none, List.append_nil]
      constructor
      · rw [classes]
        exact bonded.classes
      · rw [blueprints]
        exact bonded.blueprints.remove unwrapped
  | bound tending binding => exact bind_bonded (tending.bonded bonded) binding

theorem Fits.preset (fits : g.Fits request) : g.preset? request = none := by
  unfold preset?
  split
  · next blueprint =>
      have bare : blueprint.generatedClass = none := fits
      simp [SlotTable.givenLink?, bare]
  · rfl

theorem FitAll.beside_presets {requests : List Request} (fit : g.FitAll requests) :
    g.FitAllBesidePresets requests ∧ g.presets requests = [] := by
  induction requests generalizing g with
  | nil => exact ⟨trivial, rfl⟩
  | cons request rest ih =>
      obtain ⟨fits, later⟩ := fit
      obtain ⟨rest_fit, bare⟩ := ih later
      refine ⟨⟨?_, rest_fit⟩, by rw [presets, fits.preset, bare]; rfl⟩
      unfold FitsBesidePresets
      split
      · trivial
      · exact fits

theorem perform_bonded (bonded : g.Bonded given made) (fits : g.FitsBesidePresets request) :
    (g.perform request).Bonded (given ++ (g.preset? request).toList)
      (made ++ (g.bond? request).toList) := by
  unfold FitsBesidePresets at fits
  split at fits
  · next blueprint =>
      refine ⟨?_, ?_⟩
      · change g.classes.Linked _ ((made ++ []).map Bond.ofClass)
        rw [List.append_nil]
        exact bonded.classes
      · change (g.blueprints.insert blueprint).2.Linked _ (_ ++ (made ++ []).map Bond.ofBlueprint)
        rw [List.append_nil]
        exact bonded.blueprints.insert_given blueprint
  · rw [fits.preset, Option.toList_none, List.append_nil]
    exact (perform_pairing fits).bonded bonded

theorem perform_all_bonded (bonded : g.Bonded given made) {requests : List Request}
    (fit : g.FitAllBesidePresets requests) :
    (g.performAll requests).Bonded (given ++ g.presets requests) (made ++ g.bonds requests) := by
  induction requests generalizing g given made with
  | nil =>
      rw [bonds, presets, List.append_nil, List.append_nil]
      exact bonded
  | cons request rest ih =>
      obtain ⟨fits, later⟩ := fit
      have next := perform_bonded bonded fits
      rw [bonds, presets, ← List.append_assoc, ← List.append_assoc]
      exact ih next later

def SamePartners (g next : TypeGraph) : Prop :=
  (∀ ref, next.ownerOf? ref = g.ownerOf? ref) ∧
    ∀ owner, next.generatedClass? owner = g.generatedClass? owner

theorem SamePartners.refl (g : TypeGraph) : SamePartners g g := ⟨fun _ => rfl, fun _ => rfl⟩

theorem owner_eq_follow (g : TypeGraph) (ref : ClassRef) :
    g.ownerOf? ref = g.classes.follow? ManagedClass.generatedBy g.blueprints ref := rfl

theorem generated_class_eq_follow (g : TypeGraph) (owner : BlueprintRef) :
    g.generatedClass? owner = g.blueprints.follow? Blueprint.generatedClass g.classes owner := rfl

theorem Unpreset.last_class {owner : BlueprintRef} (unpreset : Unpreset given made owner) :
    (lastClass? made owner).or (SlotTable.lastLink? given owner) = lastClass? made owner := by
  rcases unpreset with bare | bound
  · rw [bare, Option.or_none]
  · obtain ⟨ref, last⟩ := Option.isSome_iff_exists.mp bound
    rw [last, Option.some_or]

namespace Bonded

theorem owner_iff (bonded : g.Bonded given made) (ref : ClassRef) (owner : BlueprintRef) :
    g.ownerOf? ref = some owner ↔ g.classes.contains ref = true ∧
      g.blueprints.contains owner = true ∧ lastOwner? made ref = some owner :=
  bonded.classes.follow_iff

theorem class_iff (bonded : g.Bonded given made) (owner : BlueprintRef) (ref : ClassRef) :
    g.generatedClass? owner = some ref ↔ g.blueprints.contains owner = true ∧
      g.classes.contains ref = true ∧
      (lastClass? made owner).or (SlotTable.lastLink? given owner) = some ref := by
  rw [lastClass?, ← SlotTable.last_link_append]
  exact bonded.blueprints.follow_iff

/-- A blueprint is linked by a bond to a class that was handed out by then. -/
theorem class_issued (bonded : g.Bonded given made) {owner : BlueprintRef}
    (unpreset : Unpreset given made owner) {ref : ClassRef}
    (held : (g.blueprints.get? owner).bind Blueprint.generatedClass = some ref) :
    g.classes.Issued ref := by
  obtain ⟨blueprint, live, linked⟩ := Option.bind_eq_some_iff.mp held
  rw [bonded.blueprints.last owner blueprint live, SlotTable.last_link_append] at linked
  have last : lastClass? made owner = some ref := unpreset.last_class ▸ linked
  obtain ⟨bond, member, same⟩ := List.mem_map.mp (SlotTable.mem_of_last_link last)
  cases same
  exact bonded.classes.issued _ (List.mem_map_of_mem member)

theorem owner_issued (bonded : g.Bonded given made) {ref : ClassRef} {owner : BlueprintRef}
    (held : (g.classes.get? ref).bind ManagedClass.generatedBy = some owner) :
    g.blueprints.Issued owner := by
  obtain ⟨c, live, linked⟩ := Option.bind_eq_some_iff.mp held
  rw [bonded.classes.last ref c live] at linked
  obtain ⟨bond, member, same⟩ := List.mem_map.mp (SlotTable.mem_of_last_link linked)
  cases same
  exact bonded.blueprints.issued _ (List.mem_append_right _ (List.mem_map_of_mem member))

theorem same_owner (bonded : g.Bonded given made) (tending : Tending g next) (ref : ClassRef) :
    next.ownerOf? ref = g.ownerOf? ref := by
  rw [owner_eq_follow, owner_eq_follow]
  cases tending with
  | kept classes blueprints => rw [classes, blueprints]
  | classAdded c bare classes blueprints =>
      rw [classes, blueprints, bonded.classes.table.follow_insert bare]
  | classChanged changed f owned classes blueprints =>
      rw [classes, blueprints, SlotTable.follow_modify owned]
  | blueprintAdded blueprint bare classes blueprints =>
      rw [classes, blueprints]
      exact SlotTable.follow_insert_other bonded.blueprints.table blueprint
        fun _ held => bonded.owner_issued held

theorem same_generated_class (bonded : g.Bonded given made) (tending : Tending g next)
    {owner : BlueprintRef} (unpreset : Unpreset given made owner) :
    next.generatedClass? owner = g.generatedClass? owner := by
  rw [generated_class_eq_follow, generated_class_eq_follow]
  cases tending with
  | kept classes blueprints => rw [classes, blueprints]
  | classAdded c bare classes blueprints =>
      rw [classes, blueprints]
      exact SlotTable.follow_insert_other bonded.classes.table c
        fun _ held => bonded.class_issued unpreset held
  | classChanged changed f owned classes blueprints =>
      rw [classes, blueprints, SlotTable.follow_modify_other]
  | blueprintAdded blueprint bare classes blueprints =>
      rw [classes, blueprints, bonded.blueprints.table.follow_insert bare]

theorem same_partners (bonded : g.Bonded [] made) (tending : Tending g next) :
    SamePartners g next :=
  ⟨bonded.same_owner tending, fun _ => bonded.same_generated_class tending (.inl rfl)⟩

end Bonded

end BlueprintBridge.TypeGraph
