import BlueprintBridge.Proofs.Graph.Bonds
import Mathlib.Data.List.Induction

/-!
# When partners agree on each other

The two links between blueprints and classes are inverse to each other as long as no partner is
bound away from a living one: a bond writes both links of the new pair and takes back neither of the
old ones. A blueprint that is bound to a second class leaves the first one behind, which still names
it; and a class that is bound to a second blueprint is still named by the first. Nothing else that
fits breaks the agreement.
-/

namespace BlueprintBridge.TypeGraph

set_option autoImplicit false

variable {g next : TypeGraph} {made : List Bond} {request : Request} {owner : BlueprintRef}
  {ref : ClassRef}

/-- Whether each live blueprint generates the live class that it owns, and no other. -/
def Reciprocal (g : TypeGraph) : Prop :=
  ∀ owner ref, g.blueprints.contains owner = true → g.classes.contains ref = true →
    (g.generatedClass? owner = some ref ↔ g.ownerOf? ref = some owner)

/-- Whether neither of two has a partner other than the other one. -/
def Unattached (g : TypeGraph) (owner : BlueprintRef) (ref : ClassRef) : Prop :=
  (∀ other, g.generatedClass? owner = some other → other = ref) ∧
    ∀ other, g.ownerOf? ref = some other → other = owner

theorem live_of_owner (owned : g.ownerOf? ref = some owner) :
    g.blueprints.contains owner = true ∧ g.classes.contains ref = true := by
  obtain ⟨held, live⟩ := Option.filter_eq_some_iff.mp owned
  obtain ⟨c, found, _⟩ := Option.bind_eq_some_iff.mp held
  exact ⟨live, SlotTable.contains_iff.mpr ⟨c, found⟩⟩

theorem live_of_generated_class (generates : g.generatedClass? owner = some ref) :
    g.blueprints.contains owner = true ∧ g.classes.contains ref = true := by
  obtain ⟨held, live⟩ := Option.filter_eq_some_iff.mp generates
  obtain ⟨blueprint, found, _⟩ := Option.bind_eq_some_iff.mp held
  exact ⟨SlotTable.contains_iff.mpr ⟨blueprint, found⟩, live⟩

theorem reciprocal_iff : g.Reciprocal ↔
    ∀ owner ref, g.generatedClass? owner = some ref ↔ g.ownerOf? ref = some owner := by
  constructor
  · intro reciprocal owner ref
    constructor
    · intro generates
      obtain ⟨live, liveToo⟩ := live_of_generated_class generates
      exact (reciprocal owner ref live liveToo).mp generates
    · intro owned
      obtain ⟨live, liveToo⟩ := live_of_owner owned
      exact (reciprocal owner ref live liveToo).mpr owned
  · intro inverse owner ref _ _
    exact inverse owner ref

theorem SamePartners.reciprocal (same : SamePartners g next) (reciprocal : g.Reciprocal) :
    next.Reciprocal := by
  rw [reciprocal_iff] at reciprocal ⊢
  intro owner ref
  rw [same.1, same.2]
  exact reciprocal owner ref

theorem SamePartners.unattached (same : SamePartners g next) :
    next.Unattached owner ref ↔ g.Unattached owner ref := by
  unfold Unattached
  rw [same.1, same.2]

theorem reciprocal_of_class_removed (reciprocal : g.Reciprocal) {gone : ClassRef}
    (classes : next.classes = (g.classes.remove gone).2)
    (blueprints : next.blueprints = g.blueprints) : next.Reciprocal := by
  rw [reciprocal_iff] at reciprocal ⊢
  intro owner ref
  have before := reciprocal owner ref
  rw [owner_eq_follow, generated_class_eq_follow] at before ⊢
  rw [classes, blueprints, SlotTable.follow_remove, SlotTable.follow_remove_other,
    Option.filter_eq_some_iff, before]
  by_cases same : ref = gone <;> simp [same]

theorem reciprocal_of_blueprint_removed (reciprocal : g.Reciprocal) {gone : BlueprintRef}
    (classes : next.classes = g.classes)
    (blueprints : next.blueprints = (g.blueprints.remove gone).2) : next.Reciprocal := by
  rw [reciprocal_iff] at reciprocal ⊢
  intro owner ref
  have before := reciprocal owner ref
  rw [owner_eq_follow, generated_class_eq_follow] at before ⊢
  rw [classes, blueprints, SlotTable.follow_remove, SlotTable.follow_remove_other,
    Option.filter_eq_some_iff, ← before]
  by_cases same : owner = gone <;> simp [same]

theorem bind_owner (binding : g.bind owner ref = .ok next) (other : ClassRef) :
    next.ownerOf? other = if other = ref then some owner else g.ownerOf? other := by
  obtain ⟨live, owned, rfl⟩ := bind_ok binding
  rw [owner_eq_follow, owner_eq_follow, SlotTable.follow_modify_other]
  exact SlotTable.follow_join live owned (fun _ => rfl) other

theorem bind_generated_class (binding : g.bind owner ref = .ok next) (other : BlueprintRef) :
    next.generatedClass? other = if other = owner then some ref else g.generatedClass? other := by
  obtain ⟨live, owned, rfl⟩ := bind_ok binding
  rw [generated_class_eq_follow, generated_class_eq_follow, SlotTable.follow_modify_other]
  exact SlotTable.follow_join owned live (fun _ => rfl) other

/-- A bond keeps the agreement exactly if it takes nobody away from another. -/
theorem bind_reciprocal_iff (reciprocal : g.Reciprocal) (binding : g.bind owner ref = .ok next) :
    next.Reciprocal ↔ g.Unattached owner ref := by
  rw [reciprocal_iff] at reciprocal ⊢
  constructor
  · intro after
    constructor
    · intro other generates
      by_contra apart
      -- The class that was left still names the blueprint, which names another one.
      have owned := (reciprocal owner other).mp generates
      have still : next.ownerOf? other = some owner := by
        rw [bind_owner binding, if_neg apart, owned]
      have named := (after owner other).mpr still
      rw [bind_generated_class binding, if_pos rfl] at named
      exact apart (Option.some.inj named).symm
    · intro other owned
      by_contra apart
      have generates := (reciprocal other ref).mpr owned
      have still : next.generatedClass? other = some ref := by
        rw [bind_generated_class binding, if_neg apart, generates]
      have named := (after other ref).mp still
      rw [bind_owner binding, if_pos rfl] at named
      exact apart (Option.some.inj named).symm
  · rintro ⟨noClass, noOwner⟩ first second
    have before := reciprocal first second
    rw [bind_owner binding, bind_generated_class binding]
    by_cases sameOwner : first = owner
    · by_cases sameClass : second = ref
      · simp [sameOwner, sameClass]
      · rw [if_pos sameOwner, if_neg sameClass, ← before, sameOwner]
        apply iff_of_false
        · intro same
          exact sameClass (Option.some.inj same).symm
        · intro generates
          exact sameClass (noClass second generates)
    · by_cases sameClass : second = ref
      · rw [if_neg sameOwner, if_pos sameClass, before, sameClass]
        apply iff_of_false
        · intro owned
          exact sameOwner (noOwner first owned)
        · intro same
          exact sameOwner (Option.some.inj same).symm
      · rw [if_neg sameOwner, if_neg sameClass, before]

/-- A request keeps the agreement exactly if the bond it makes, if any, takes nobody away from
another. -/
theorem perform_reciprocal_iff (bonded : g.Bonded [] made) (fits : g.Fits request)
    (reciprocal : g.Reciprocal) :
    (g.perform request).Reciprocal ↔
      ∀ bond, g.bond? request = some bond → g.Unattached bond.owner bond.ref := by
  have pairing := perform_pairing fits
  generalize g.perform request = next, g.bond? request = bond at pairing ⊢
  cases pairing with
  | tended tending =>
      apply iff_of_true
      · exact (bonded.same_partners tending).reciprocal reciprocal
      · simp
  | classRemoved gone unwrapped classes blueprints =>
      apply iff_of_true
      · exact reciprocal_of_class_removed reciprocal classes blueprints
      · simp
  | blueprintRemoved gone unwrapped classes blueprints =>
      apply iff_of_true
      · exact reciprocal_of_blueprint_removed reciprocal classes blueprints
      · simp
  | bound tending binding =>
      have same := bonded.same_partners tending
      rw [bind_reciprocal_iff (same.reciprocal reciprocal) binding, same.unattached]
      simp

theorem fit_all_append {first second : List Request} :
    g.FitAll (first ++ second) ↔ g.FitAll first ∧ (g.performAll first).FitAll second := by
  induction first generalizing g with
  | nil => exact (and_iff_right trivial).symm
  | cons request rest ih =>
      change g.Fits request ∧ (g.perform request).FitAll (rest ++ second) ↔ _
      rw [ih, ← and_assoc]
      rfl

theorem reciprocal_initial : initial.Reciprocal := by
  rw [reciprocal_iff]
  intro owner ref
  have unowned := bonded_initial.owner_iff ref owner
  have bare := bonded_initial.class_iff owner ref
  rw [unowned, bare]
  simp [lastOwner?, lastClass?, SlotTable.lastLink?]

/-- All along a history partners agree on each other exactly if each bond of it was between two that
had no other partner. -/
theorem partners_reciprocal_iff_bonds_unattached (history : List Request)
    (fit : initial.FitAll history) :
    (∀ before after, history = before ++ after → (initial.performAll before).Reciprocal) ↔
      ∀ before request after bond, history = before ++ request :: after →
        (initial.performAll before).bond? request = some bond →
        (initial.performAll before).Unattached bond.owner bond.ref := by
  have step (before : List Request) (request : Request) (after : List Request)
      (split : history = before ++ request :: after)
      (reciprocal : (initial.performAll before).Reciprocal) :
      (initial.performAll (before ++ [request])).Reciprocal ↔
        ∀ bond, (initial.performAll before).bond? request = some bond →
          (initial.performAll before).Unattached bond.owner bond.ref := by
    rw [split, fit_all_append] at fit
    rw [perform_all_append]
    obtain ⟨early, bare⟩ := fit.1.beside_presets
    have bonded := perform_all_bonded bonded_initial early
    rw [bare] at bonded
    exact perform_reciprocal_iff bonded fit.2.1 reciprocal
  constructor
  · intro reciprocal before request after bond split
    have next : history = before ++ [request] ++ after := by simpa using split
    have here := reciprocal before (request :: after) split
    exact (step before request after split here).mp (reciprocal _ after next) bond
  · intro unattached before
    induction before using List.reverseRecOn with
    | nil => exact fun _ _ => reciprocal_initial
    | append_singleton before request ih =>
        intro after split
        have split : history = before ++ request :: after := by simpa using split
        have here := ih (request :: after) split
        exact (step before request after split here).mpr
          fun bond => unattached before request after bond split

def refurbished : List Request :=
  [.edit (.addBlueprint ⟨"BP_Door", .managed, none, none⟩),
    .generate { name := ⟨"Game", "", "Door"⟩, blueprint := some ⟨0, 0⟩ },
    .edit (.removeClass ⟨2, 0⟩),
    .generate { name := ⟨"Game", "", "Window"⟩, blueprint := some ⟨0, 0⟩ }]

theorem refurbished_partners_reciprocal_iff :
    initial.FitAll refurbished ∧
    ((∀ before after, refurbished = before ++ after → (initial.performAll before).Reciprocal) ↔
      ∀ before request after bond, refurbished = before ++ request :: after →
        (initial.performAll before).bond? request = some bond →
        (initial.performAll before).Unattached bond.owner bond.ref) := by
  have fit : initial.FitAll refurbished := ⟨rfl, trivial, fun _ => by decide, trivial, trivial⟩
  exact ⟨fit, partners_reciprocal_iff_bonds_unattached refurbished fit⟩

def overbooked : List Request :=
  [.edit (.addBlueprint ⟨"BP_Door", .managed, none, none⟩),
    .generate { name := ⟨"Game", "", "Door"⟩, blueprint := some ⟨0, 0⟩ },
    .generate { name := ⟨"Game", "", "Window"⟩, blueprint := some ⟨0, 0⟩ }]

/-- The door still names the blueprint, which names the window. -/
theorem overbooked_partners_disagree :
    initial.FitAll overbooked ∧
    (initial.performAll overbooked).blueprints.contains ⟨0, 0⟩ = true ∧
    (initial.performAll overbooked).classes.contains ⟨2, 0⟩ = true ∧
    (initial.performAll overbooked).ownerOf? ⟨2, 0⟩ = some ⟨0, 0⟩ ∧
    (initial.performAll overbooked).generatedClass? ⟨0, 0⟩ = some ⟨3, 0⟩ ∧
    ¬ (initial.performAll overbooked).Reciprocal := by
  have live : (initial.performAll overbooked).blueprints.contains ⟨0, 0⟩ = true := by
    decide +kernel
  have liveToo : (initial.performAll overbooked).classes.contains ⟨2, 0⟩ = true := by
    decide +kernel
  have owned : (initial.performAll overbooked).ownerOf? ⟨2, 0⟩ = some ⟨0, 0⟩ := by decide +kernel
  have generates : (initial.performAll overbooked).generatedClass? ⟨0, 0⟩ = some ⟨3, 0⟩ := by
    decide +kernel
  refine ⟨⟨rfl, trivial, trivial, trivial⟩, live, liveToo, owned, generates, ?_⟩
  intro reciprocal
  have named := (reciprocal ⟨0, 0⟩ ⟨2, 0⟩ live liveToo).mpr owned
  rw [generates] at named
  exact absurd named (by decide)

end BlueprintBridge.TypeGraph
