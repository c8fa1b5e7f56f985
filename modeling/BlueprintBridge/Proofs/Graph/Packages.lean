import BlueprintBridge.Compile.Intake
import BlueprintBridge.Proofs.Graph.Requests
import BlueprintBridge.Proofs.SlotTable.History
import BlueprintBridge.Proofs.SlotTable.Packed

/-!
# Packages found by name

Packages are only ever added, so what is asked for by name is the package that came first under the
name, for ever. It is a managed one, listed as such and with its blueprints visited once each,
unless the first package of that name was put in as a native one: that one is handed out as well,
and whatever is created in it is never visited.
-/

namespace BlueprintBridge

set_option autoImplicit false

namespace SlotTable

variable {kind : ObjectKind} {α : Type} {t : SlotTable kind α}

theorem count_listed (short : t.slots.length < UInt32.size) {ref : Ref kind} {value : α}
    (live : t.get? ref = some value) (wanted : α → Bool) :
    ((t.toList.filter fun pair => wanted pair.2).map Prod.fst).count ref =
      if wanted value then 1 else 0 := by
  have nodup : ((t.toList.filter fun pair => wanted pair.2).map Prod.fst).Nodup :=
    (nodup_references short).sublist (List.filter_sublist.map Prod.fst)
  have mem_iff : ref ∈ (t.toList.filter fun pair => wanted pair.2).map Prod.fst ↔
      wanted value = true := by
    rw [mem_listed_iff short, live]
    simp
  rw [nodup.count]
  simp only [mem_iff]

end SlotTable

namespace TypeGraph

def missing? (packages : List Package) (name : String) : Option Package :=
  if packages.any fun package => package.name = name then none else some ⟨name, true⟩

def newPackage? (packages : List Package) : Request → Option Package
  | .edit (.addPackage package) => some package
  | .edit (.ensurePackage name) => missing? packages name
  | _ => none

def stock (packages : List Package) (request : Request) : List Package :=
  packages ++ (newPackage? packages request).toList

def stockOf (requests : List Request) : List Package := requests.foldl stock []

def naming? (name : String) : Request → Option Bool
  | .edit (.addPackage package) => if package.name = name then some package.isManaged else none
  | .edit (.ensurePackage asked) => if asked = name then some true else none
  | _ => none

def firstKind? (name : String) (requests : List Request) : Option Bool :=
  requests.findSome? (naming? name)

theorem stock_of_snoc (requests : List Request) (request : Request) :
    stockOf (requests ++ [request]) = stock (stockOf requests) request := by
  rw [stockOf, List.foldl_append]
  rfl

theorem find_stock (packages : List Package) (request : Request) (name : String) :
    ((stock packages request).find? fun package => package.name = name).map Package.isManaged =
      ((packages.find? fun package => package.name = name).map Package.isManaged).or
        (naming? name request) := by
  have added : ((newPackage? packages request).toList.find? fun package => package.name = name).map
      Package.isManaged = naming? name request ∨
        ((packages.find? fun package => package.name = name).isSome = true) := by
    cases request with
    | generate | defineStruct | defineEnum => exact .inl rfl
    | edit edit =>
        cases edit with
        | addPackage package =>
            left
            by_cases same : package.name = name <;> simp [newPackage?, naming?, same]
        | ensurePackage asked =>
            change ((missing? packages asked).toList.find? _).map _ =
              (if asked = name then some true else none) ∨ _
            unfold missing?
            by_cases known : (packages.any fun package => package.name = asked) = true
            · by_cases same : asked = name
              · exact .inr (by simpa [same] using known)
              · exact .inl (by simp [known, same])
            · left
              rw [if_neg known]
              by_cases same : asked = name <;> simp [same]
        | _ => exact .inl rfl
  rw [stock, List.find?_append]
  cases before : packages.find? fun package => package.name = name with
  | some package => rfl
  | none => simpa [before] using added

theorem first_kind_of_stock (requests : List Request) (name : String) :
    ((stockOf requests).find? fun package => package.name = name).map Package.isManaged =
      firstKind? name requests := by
  induction requests using List.reverseRecOn with
  | nil => rfl
  | append_singleton requests request ih =>
      rw [stock_of_snoc, find_stock, ih, firstKind?, firstKind?, List.findSome?_append]
      simp

/-- A graph whose packages are these, in the order of the slots. -/
structure Shelved (g : TypeGraph) (packages : List Package) : Prop where
  free : g.packages.free = []
  slots : g.packages.slots = packages.map fun package => ⟨0, some package⟩

variable {g next : TypeGraph} {packages : List Package} {name : String}

def packageAt (place : Nat) : PackageRef := ⟨UInt32.ofNat place, 0⟩

theorem shelved_initial : Shelved initial [] := ⟨rfl, rfl⟩

theorem Shelved.kept (shelved : g.Shelved packages) (same : next.packages = g.packages) :
    next.Shelved packages := by
  constructor
  · rw [same, shelved.free]
  · rw [same, shelved.slots]

theorem Shelved.add (shelved : g.Shelved packages) (package : Package) :
    (g.addPackage package).1 = packageAt packages.length ∧
      (g.addPackage package).2.Shelved (packages ++ [package]) := by
  have added := SlotTable.insert_of_no_free shelved.free package
  have length : g.packages.slots.length = packages.length := by
    rw [shelved.slots, List.length_map]
  simp only [addPackage, added]
  exact ⟨by rw [length]; rfl, rfl, by simp [shelved.slots]⟩

theorem Shelved.listing (shelved : g.Shelved packages) :
    g.packages.toList = packages.zipIdx.map fun entry => (packageAt entry.2, entry.1) := by
  rw [SlotTable.toList, shelved.slots, List.zipIdx_map, List.filterMap_map, ← List.filterMap_eq_map]
  rfl

/-- Where a name leads: to the package behind `before`, the first one that bears it. -/
structure Leads (packages : List Package) (name : String) (managed : Bool)
    (before : List Package) : Prop where
  there : ∃ after, packages = before ++ ⟨name, managed⟩ :: after
  first : ∀ package ∈ before, package.name ≠ name

variable {managed : Bool} {before : List Package}

theorem Leads.append (leads : Leads packages name managed before) (more : List Package) :
    Leads (packages ++ more) name managed before := by
  obtain ⟨⟨after, rfl⟩, first⟩ := leads
  exact ⟨⟨after ++ more, by simp⟩, first⟩

theorem Leads.listed (leads : Leads packages name managed before) (shelved : g.Shelved packages) :
    ∃ after, g.packages.toList = (before.zipIdx.map fun entry => (packageAt entry.2, entry.1)) ++
      (packageAt before.length, ⟨name, managed⟩) :: after := by
  obtain ⟨⟨after, rfl⟩, _⟩ := leads
  rw [shelved.listing, List.zipIdx_append, List.map_append, List.zipIdx_cons, List.map_cons,
    Nat.zero_add]
  exact ⟨_, rfl⟩

theorem find_in_unnamed (unnamed : ∀ package ∈ before, package.name ≠ name) :
    (before.zipIdx.map fun entry => (packageAt entry.2, entry.1)).find?
      (fun pair => pair.2.name = name) = none := by
  rw [List.find?_eq_none]
  intro pair member
  obtain ⟨⟨package, place⟩, entry, rfl⟩ := List.mem_map.mp member
  simpa using unnamed package (List.fst_mem_of_mem_zipIdx entry)

theorem Leads.found (leads : Leads packages name managed before) (shelved : g.Shelved packages) :
    g.findPackage? name = some (packageAt before.length) := by
  obtain ⟨after, listed⟩ := leads.listed shelved
  simp [findPackage?, listed, List.find?_append, find_in_unnamed leads.first]

theorem Shelved.not_found (shelved : g.Shelved packages)
    (unnamed : ∀ package ∈ packages, package.name ≠ name) : g.findPackage? name = none := by
  simp [findPackage?, shelved.listing, find_in_unnamed unnamed]

theorem Leads.live (leads : Leads packages name managed before) (shelved : g.Shelved packages)
    (short : g.packages.slots.length < UInt32.size) :
    g.package? (packageAt before.length) = some ⟨name, managed⟩ := by
  obtain ⟨after, listed⟩ := leads.listed shelved
  rw [package?, ← SlotTable.mem_to_list_iff short, listed]
  simp

/-- Asking for a name leads to the package that came first under it, or to a managed one that is
added. -/
theorem Shelved.ensure (shelved : g.Shelved packages) (name : String) :
    (g.ensurePackage name).2.Shelved (packages ++ (missing? packages name).toList) ∧
      ∃ before, (g.ensurePackage name).1 = packageAt before.length ∧
        Leads (packages ++ (missing? packages name).toList) name
          (((packages.find? fun package => package.name = name).map Package.isManaged).getD true)
          before := by
  cases found : packages.find? fun package => package.name = name with
  | none =>
      have unnamed : ∀ package ∈ packages, package.name ≠ name := by simpa using found
      have absent : missing? packages name = some ⟨name, true⟩ := by
        simpa [missing?] using unnamed
      obtain ⟨place, grown⟩ := shelved.add ⟨name, true⟩
      rw [absent, ensurePackage, shelved.not_found unnamed]
      exact ⟨grown, packages, place, ⟨[], rfl⟩, unnamed⟩
  | some package =>
      obtain ⟨named, before, after, split, unnamed⟩ := List.find?_eq_some_iff_append.mp found
      have named : package.name = name := of_decide_eq_true named
      subst named
      have present : missing? packages package.name = none := by simp [missing?, split]
      have leads : Leads packages package.name package.isManaged before :=
        ⟨⟨after, split⟩, by simpa using unnamed⟩
      rw [present, ensurePackage, leads.found shelved, Option.toList_none, List.append_nil]
      exact ⟨shelved, before, rfl, leads⟩

inductive Lodging (t : SlotTable .blueprint Blueprint) : SlotTable .blueprint Blueprint → Prop where
  | kept : Lodging t t
  | added (blueprint : Blueprint) : Lodging t (t.insert blueprint).2
  | removed (ref : BlueprintRef) : Lodging t (t.remove ref).2
  | changed (ref : BlueprintRef) (f : Blueprint → Blueprint)
      (stays : ∀ blueprint, (f blueprint).package = blueprint.package) : Lodging t (t.modify ref f)

namespace Lodging

variable {t next : SlotTable .blueprint Blueprint}

theorem sound (lodging : Lodging t next) (sound : t.Sound) : next.Sound := by
  cases lodging with
  | kept => exact sound
  | added blueprint => exact sound.insert blueprint
  | removed ref => exact sound.remove ref
  | changed ref f => exact sound.modify ref f

theorem length_le (lodging : Lodging t next) : t.slots.length ≤ next.slots.length := by
  cases lodging with
  | kept => exact Nat.le_refl _
  | added blueprint => exact (t.length_insert_le blueprint).1
  | removed ref => exact Nat.le_of_eq (t.length_remove ref).symm
  | changed ref f => exact Nat.le_of_eq (t.length_modify ref f).symm

theorem package_eq (lodging : Lodging t next) (sound : t.Sound) {ref : BlueprintRef}
    {was now : Blueprint} (before : t.get? ref = some was) (after : next.get? ref = some now) :
    now.package = was.package := by
  cases lodging with
  | kept =>
      rw [before] at after
      cases after
      rfl
  | added blueprint =>
      rcases sound.get_insert_cases blueprint with same | ⟨fresh, lookup⟩
      · rw [same, before] at after
        cases after
        rfl
      · have elsewhere : ref ≠ (t.insert blueprint).1 := by
          rintro rfl
          exact fresh (SlotTable.issued_of_contains (SlotTable.contains_iff.mpr ⟨was, before⟩))
        rw [lookup, if_neg elsewhere, before] at after
        cases after
        rfl
  | removed gone =>
      rw [SlotTable.get_remove] at after
      split at after
      · cases after
      · rw [before] at after
        cases after
        rfl
  | changed changed f stays =>
      rw [SlotTable.get_modify] at after
      split at after
      · next same =>
          subst same
          rw [before] at after
          cases after
          exact stays was
      · rw [before] at after
        cases after
        rfl

end Lodging

structure Settled (g next : TypeGraph) : Prop where
  packages : next.packages = g.packages
  blueprints : Lodging g.blueprints next.blueprints

theorem Settled.refl (g : TypeGraph) : Settled g g := ⟨rfl, .kept⟩

theorem attempted_settled {ε α : Type} {result : Except ε (α × TypeGraph)}
    (made : ∀ answer next, result = .ok (answer, next) → Settled g next) :
    Settled g (g.attempted result) := by
  cases result with
  | error e => exact .refl g
  | ok pair => exact made pair.1 pair.2 rfl

theorem place_class_elsewhere {name : TypeName} {parent ref : ClassRef}
    (placed : g.placeClass name parent = .ok (ref, next)) :
    next.packages = g.packages ∧ next.blueprints = g.blueprints := by
  rcases place_class_ok placed with ⟨_, _, same⟩ | ⟨_, _, _, _, rfl⟩
  · cases same
    exact ⟨rfl, rfl⟩
  · exact ⟨rfl, rfl⟩

theorem bind_settled {owner : BlueprintRef} {ref : ClassRef}
    (bound : g.bind owner ref = .ok next) : Settled g next := by
  obtain ⟨_, _, rfl⟩ := bind_ok bound
  exact ⟨rfl, .changed owner _ fun _ => rfl⟩

theorem generate_settled (g : TypeGraph) (d : ClassDefinition) : Settled g (g.generate d).2 := by
  obtain ⟨answer, next, run⟩ : ∃ answer next, g.generate d = (answer, next) := ⟨_, _, rfl⟩
  rw [run]
  cases generate_cases run with
  | orphan | misplaced => exact .refl g
  | unowned _ placing | unbound _ placing =>
      obtain ⟨packages, blueprints⟩ := place_class_elsewhere placing
      exact ⟨packages, blueprints ▸ .kept⟩
  | bound _ placing _ binding =>
      obtain ⟨packages, blueprints⟩ := place_class_elsewhere placing
      have settled := bind_settled binding
      exact ⟨settled.packages.trans packages, blueprints ▸ settled.blueprints⟩

structure Stocked (next : TypeGraph) (packages : List Package)
    (blueprints : SlotTable .blueprint Blueprint) : Prop where
  shelved : next.Shelved packages
  lodging : Lodging blueprints next.blueprints

theorem Settled.stocked (settled : Settled g next) (shelved : g.Shelved packages) :
    Stocked next (packages ++ (none : Option Package).toList) g.blueprints := by
  rw [Option.toList_none, List.append_nil]
  exact ⟨shelved.kept settled.packages, settled.blueprints⟩

theorem edit_stocked (shelved : g.Shelved packages) (edit : Session.GraphEdit) :
    Stocked (g.perform (.edit edit)) (stock packages (.edit edit)) g.blueprints := by
  cases edit with
  | ensurePackage name =>
      refine ⟨(shelved.ensure name).1, ?_⟩
      simp only [perform, Session.GraphEdit.apply, ensurePackage]
      split <;> exact .kept
  | addPackage package => exact ⟨(shelved.add package).2, .kept⟩
  | createBlueprint package name =>
      apply Settled.stocked _ shelved
      simp only [perform, Session.GraphEdit.apply, createBlueprint]
      cases g.package? package with
      | none => exact .refl g
      | some _ => exact ⟨rfl, .added ⟨name, .managed, some package, none⟩⟩
  | addBlueprint blueprint => exact Settled.stocked ⟨rfl, .added blueprint⟩ shelved
  | removeBlueprint ref | destroyBlueprint ref => exact Settled.stocked ⟨rfl, .removed ref⟩ shelved
  | editClass | setEnumReferences => exact Settled.stocked ⟨rfl, .kept⟩ shelved
  | removeClass ref =>
      obtain ⟨classNames, same⟩ := g.remove_class_frame ref
      have after : g.perform (.edit (.removeClass ref)) = (g.removeClass ref).2 := rfl
      rw [after, same]
      exact Settled.stocked ⟨rfl, .kept⟩ shelved
  | bind owner ref =>
      apply Settled.stocked _ shelved
      simp only [perform, Session.GraphEdit.apply, edit_or_graph]
      apply attempted_settled
      intro _ _ changed
      obtain ⟨_, bound, same⟩ := map_eq_ok changed
      cases same
      exact bind_settled bound
  | addClass c =>
      apply Settled.stocked _ shelved
      simp only [perform, Session.GraphEdit.apply, edit_or_graph]
      apply attempted_settled
      intro _ _ added
      obtain ⟨_, _, _, rfl⟩ := add_class_ok added
      exact ⟨rfl, .kept⟩
  | setSuper ref parent =>
      apply Settled.stocked _ shelved
      simp only [perform, Session.GraphEdit.apply, edit_or_graph]
      apply attempted_settled
      intro _ _ changed
      obtain ⟨_, moved, same⟩ := map_eq_ok changed
      cases same
      obtain ⟨_, _, _, rfl⟩ := set_super_ok moved
      exact ⟨rfl, .kept⟩
  | addStruct s =>
      apply Settled.stocked _ shelved
      simp only [perform, Session.GraphEdit.apply, edit_or_graph]
      apply attempted_settled
      intro _ _ added
      obtain ⟨_, _, rfl⟩ := add_struct_ok added
      exact ⟨rfl, .kept⟩
  | addEnum e =>
      apply Settled.stocked _ shelved
      simp only [perform, Session.GraphEdit.apply, edit_or_graph]
      apply attempted_settled
      intro _ _ added
      obtain ⟨_, _, rfl⟩ := add_enum_ok added
      exact ⟨rfl, .kept⟩
  | setStructReferences ref refs =>
      apply Settled.stocked _ shelved
      simp only [perform, Session.GraphEdit.apply, edit_or_graph]
      apply attempted_settled
      intro _ _ changed
      obtain ⟨_, replaced, same⟩ := map_eq_ok changed
      cases same
      obtain ⟨_, rfl⟩ := set_struct_references_ok replaced
      exact ⟨rfl, .kept⟩

theorem perform_stocked (shelved : g.Shelved packages) (request : Request) :
    Stocked (g.perform request) (stock packages request) g.blueprints := by
  cases request with
  | edit edit => exact edit_stocked shelved edit
  | generate d => exact (g.generate_settled d).stocked shelved
  | defineStruct s =>
      apply Settled.stocked _ shelved
      apply attempted_settled
      intro _ _ defined
      obtain ⟨structs, structNames, rfl⟩ := define_struct_frame defined
      exact ⟨rfl, .kept⟩
  | defineEnum e =>
      apply Settled.stocked _ shelved
      apply attempted_settled
      intro _ _ defined
      obtain ⟨enums, enumNames, rfl⟩ := define_enum_frame defined
      exact ⟨rfl, .kept⟩

/-- A graph with these packages, whose blueprints lie in a sound table. -/
structure Kept (g : TypeGraph) (packages : List Package) : Prop where
  shelved : g.Shelved packages
  blueprints : g.blueprints.Sound

theorem Kept.perform (kept : g.Kept packages) (request : Request) :
    (g.perform request).Kept (stock packages request) where
  shelved := (perform_stocked kept.shelved request).shelved
  blueprints := (perform_stocked kept.shelved request).lodging.sound kept.blueprints

theorem kept_after (requests : List Request) :
    (initial.performAll requests).Kept (stockOf requests) := by
  induction requests using List.reverseRecOn with
  | nil => exact ⟨shelved_initial, SlotTable.sound_empty⟩
  | append_singleton requests request ih =>
      rw [perform_all_append, stock_of_snoc]
      exact ih.perform request

theorem Kept.perform_all (kept : g.Kept packages) (requests : List Request) :
    ∃ more, (g.performAll requests).Kept (packages ++ more) := by
  induction requests generalizing g packages with
  | nil => exact ⟨[], by rwa [List.append_nil]⟩
  | cons request rest ih =>
      obtain ⟨more, later⟩ := ih (kept.perform request)
      rw [stock, List.append_assoc] at later
      exact ⟨_, later⟩

theorem Kept.length_le (kept : g.Kept packages) (requests : List Request) :
    g.blueprints.slots.length ≤ (g.performAll requests).blueprints.slots.length := by
  induction requests generalizing g packages with
  | nil => exact Nat.le_refl _
  | cons request rest ih =>
      have first := (perform_stocked kept.shelved request).lodging.length_le
      exact Nat.le_trans first (ih (kept.perform request))

def Stays (g : TypeGraph) (ref : BlueprintRef) (requests : List Request) : Prop :=
  ∀ early, early <+: requests → (g.performAll early).blueprints.contains ref = true

theorem Kept.stays_in (kept : g.Kept packages) {ref : BlueprintRef} {blueprint : Blueprint}
    (lies : g.blueprint? ref = some blueprint) (requests : List Request)
    (stays : g.Stays ref requests) :
    ∃ now, (g.performAll requests).blueprint? ref = some now ∧
      now.package = blueprint.package := by
  induction requests generalizing g packages blueprint with
  | nil => exact ⟨blueprint, lies, rfl⟩
  | cons request rest ih =>
      obtain ⟨next, there⟩ := SlotTable.contains_iff.mp (stays [request] ⟨rest, rfl⟩)
      have lodging := (perform_stocked kept.shelved request).lodging
      have same := lodging.package_eq kept.blueprints lies there
      have later : (g.perform request).Stays ref rest := by
        intro early prefixed
        exact stays (request :: early) (List.prefix_cons_inj request |>.mpr prefixed)
      obtain ⟨now, found, lodged⟩ := ih (kept.perform request) there later
      exact ⟨now, found, lodged.trans same⟩

/-- Whether the slots of packages and blueprints can be numbered, one number left over. -/
structure Numbered (g : TypeGraph) : Prop where
  packages : g.packages.slots.length < UInt32.size
  blueprints : g.blueprints.slots.length < UInt32.size

theorem count_flatMap_of_own {contents : PackageRef → List BlueprintRef} {ref : BlueprintRef}
    {package : PackageRef}
    (own : ∀ other, (contents other).count ref = if other = package then 1 else 0)
    (refs : List PackageRef) : (refs.flatMap contents).count ref = refs.count package := by
  induction refs with
  | nil => rfl
  | cons other rest ih =>
      rw [List.flatMap_cons, List.count_append, own, ih, List.count_cons, Nat.add_comm]
      simp

theorem count_managed_blueprints (numbered : g.Numbered) {ref : BlueprintRef}
    {blueprint : Blueprint} {package : PackageRef} (live : g.blueprint? ref = some blueprint)
    (lies : blueprint.package = some package) :
    (Intake.managedBlueprints g).count ref = g.managedPackages.count package := by
  apply count_flatMap_of_own
  intro other
  have count : (g.blueprintsIn other).count ref =
      if decide (blueprint.package = some other) then 1 else 0 :=
    SlotTable.count_listed numbered.blueprints live fun held => held.package = some other
  rw [count, lies]
  simp [eq_comm]

/-- The package that a name leads to, here and now. -/
structure FoundAgain (now : TypeGraph) (name : String) (ref : PackageRef) (managed : Bool) :
    Prop where
  live : now.package? ref = some ⟨name, managed⟩
  again : now.ensurePackage name = (ref, now)
  listed : now.managedPackages.count ref = if managed then 1 else 0
  /-- What is created in it is visited once if the package is a managed one, and never if not, at
  every later moment as long as it is there. -/
  visited : ∀ title, ∃ blueprint made, now.createBlueprint ref title = .ok (blueprint, made) ∧
    ∀ later, made.Stays blueprint later → (made.performAll later).Numbered →
      (Intake.managedBlueprints (made.performAll later)).count blueprint = if managed then 1 else 0

theorem Leads.listed_count (leads : Leads packages name managed before) (kept : g.Kept packages)
    (numbered : g.Numbered) :
    g.managedPackages.count (packageAt before.length) = if managed then 1 else 0 :=
  SlotTable.count_listed numbered.packages (leads.live kept.shelved numbered.packages)
    Package.isManaged

/-- A blueprint that was just created in a package is visited as often as the package is listed, as
long as it is there. -/
theorem Leads.visited (leads : Leads packages name managed before) (kept : g.Kept packages)
    {blueprint : Blueprint} (lies : blueprint.package = some (packageAt before.length))
    (later : List Request)
    (stays : (g.addBlueprint blueprint).2.Stays (g.addBlueprint blueprint).1 later)
    (numbered : ((g.addBlueprint blueprint).2.performAll later).Numbered) :
    (Intake.managedBlueprints ((g.addBlueprint blueprint).2.performAll later)).count
      (g.addBlueprint blueprint).1 = if managed then 1 else 0 := by
  have added : (g.addBlueprint blueprint).2.Kept packages :=
    List.append_nil packages ▸ kept.perform (.edit (.addBlueprint blueprint))
  obtain ⟨more, grown⟩ := added.perform_all later
  have short := Nat.lt_of_le_of_lt (added.length_le later) numbered.blueprints
  have lookup := (kept.blueprints.get_insert_of_short blueprint short).2
  have placed : (g.addBlueprint blueprint).2.blueprint? (g.addBlueprint blueprint).1 =
      some blueprint := (lookup _).trans (if_pos rfl)
  obtain ⟨now, found, lodged⟩ := added.stays_in placed later stays
  rw [count_managed_blueprints numbered found (lodged.trans lies)]
  exact (leads.append more).listed_count grown numbered

theorem Leads.found_again (leads : Leads packages name managed before) (kept : g.Kept packages)
    (numbered : g.Numbered) : FoundAgain g name (packageAt before.length) managed where
  live := leads.live kept.shelved numbered.packages
  again := by rw [ensurePackage, leads.found kept.shelved]
  listed := leads.listed_count kept numbered
  visited title := by
    have created : g.createBlueprint (packageAt before.length) title =
        .ok (g.addBlueprint ⟨title, .managed, some (packageAt before.length), none⟩) := by
      rw [createBlueprint, leads.live kept.shelved numbered.packages]
    exact ⟨_, _, created, leads.visited kept rfl⟩

/-- What is asked for by name is the package that came first under it, at every later moment: a
managed one, unless the first was put in as a native one. -/
theorem package_found_again (requests later : List Request) (name : String)
    (numbered : (((initial.performAll requests).ensurePackage name).2.performAll later).Numbered) :
    FoundAgain (((initial.performAll requests).ensurePackage name).2.performAll later) name
      ((initial.performAll requests).ensurePackage name).1
      ((firstKind? name requests).getD true) := by
  obtain ⟨_, before, place, leads⟩ := (kept_after requests).shelved.ensure name
  have asked := (kept_after requests).perform (.edit (.ensurePackage name))
  obtain ⟨more, kept⟩ := asked.perform_all later
  rw [place, ← first_kind_of_stock]
  exact (leads.append more).found_again kept numbered

def rivals : List Request :=
  [.edit (.addPackage ⟨"/Script/Engine", false⟩), .edit (.addPackage ⟨"/Script/Game", true⟩),
    .edit (.addPackage ⟨"/Script/Game", false⟩)]

def errands : List Request :=
  [.edit (.ensurePackage "/Script/Late"), .edit (.createBlueprint ⟨1, 0⟩ "BP_Door"),
    .edit (.destroyBlueprint ⟨0, 0⟩), .edit (.createBlueprint ⟨2, 0⟩ "BP_Window")]

theorem rival_package_found_again :
    let asked := (initial.performAll rivals).ensurePackage "/Script/Game"
    (asked.2.performAll errands).Numbered ∧ asked.1 = ⟨1, 0⟩ ∧
      firstKind? "/Script/Game" rivals = some true ∧
      FoundAgain (asked.2.performAll errands) "/Script/Game" asked.1 true := by
  have numbered : (((initial.performAll rivals).ensurePackage "/Script/Game").2.performAll
      errands).Numbered := ⟨by decide +kernel, by decide +kernel⟩
  exact ⟨numbered, by decide +kernel, by decide +kernel,
    package_found_again rivals errands "/Script/Game" numbered⟩

def squatted : List Request :=
  [.edit (.addPackage ⟨"/Script/Game", false⟩), .edit (.ensurePackage "/Script/Game"),
    .edit (.createBlueprint ⟨0, 0⟩ "BP_Door"),
    .generate { name := ⟨"Game", "", "Door"⟩, blueprint := some ⟨0, 0⟩ }]

/-- The native package is handed out, and no visit comes to the door. -/
theorem native_package_handed_out :
    ((initial.performAll (squatted.take 1)).ensurePackage "/Script/Game").1 = ⟨0, 0⟩ ∧
      (initial.performAll squatted).package? ⟨0, 0⟩ = some ⟨"/Script/Game", false⟩ ∧
      (initial.performAll squatted).managedPackages = [] ∧
      (initial.performAll squatted).blueprintsIn ⟨0, 0⟩ = [⟨0, 0⟩] ∧
      (initial.performAll squatted).generatedClass? ⟨0, 0⟩ = some ⟨2, 0⟩ ∧
      Intake.managedBlueprints (initial.performAll squatted) = [] := by
  refine ⟨?_, ?_, ?_, ?_, ?_, ?_⟩ <;> decide +kernel

end TypeGraph

end BlueprintBridge
