import BlueprintBridge.Proofs.Graph.Ancestry
import BlueprintBridge.Proofs.Graph.Generation
import BlueprintBridge.Proofs.Graph.Names
import BlueprintBridge.Session.Queries

/-!
# Moving a class under another parent

A move is refused exactly if one of the two classes is not live or the new parent is reached from
the class's own descendants, that is if the new link would close a cycle. A move that succeeds
redirects one link: the old ways up remain that do not use the class's link, and every way up to
the class goes on along the ways up from its new parent.
-/

namespace BlueprintBridge.TypeGraph

set_option autoImplicit false

variable {g next : TypeGraph} {ref parent x y : ClassRef}

/-- A graph that operations of any kind lead to, and whose links close no cycle: every graph that
checked operations lead to. An unchecked edit can close one, and then a climb may never end. -/
structure Tended (g : TypeGraph) : Prop where
  attainable : Attainable g
  acyclic : g.Acyclic

theorem Reachable.tended (reachable : Reachable g) : g.Tended where
  attainable := Relation.ReflTransGen.mono (fun _ _ => .change) _ _ reachable
  acyclic := reachable.rooted.acyclic

theorem Tended.derives_iff (tended : g.Tended) (ref base : ClassRef) :
    g.derivesFrom ref base = true ↔ g.Ascends ref base :=
  tended.acyclic.derives_iff tended.attainable.sound ref base

theorem Tended.component_iff (tended : g.Tended) (live : g.classes.contains ref = true) :
    g.isComponent ref = true ↔ g.Ascends ref g.componentClass := by
  rw [isComponent, live, Bool.true_and, tended.derives_iff]

/-- Where each parent lies in an earlier slot no cycle closes; it is enough to ask the classes that
are listed. -/
theorem acyclic_of_listed (earlier : ∀ pair ∈ g.classes.toList, ∀ parent ∈ pair.2.superClass,
    parent.index < pair.1.index) : g.Acyclic := by
  have up {ref above : ClassRef} (path : Relation.TransGen g.Link ref above) :
      above.index < ref.index := by
    have link (ref parent : ClassRef) : g.Link ref parent → parent.index < ref.index := by
      rintro ⟨c, found, named⟩
      exact earlier _ (SlotTable.mem_to_list found) parent named
    induction path with
    | single last => exact link _ _ last
    | tail _ last ih => exact UInt32.lt_trans (link _ _ last) ih
  exact fun ref cycle => UInt32.lt_irrefl _ (up cycle)

def LinkBeside (g : TypeGraph) (moved ref parent : ClassRef) : Prop :=
  ref ≠ moved ∧ g.Link ref parent

/-- Whether links of classes other than `moved` lead up from a class to an ancestor. -/
abbrev AscendsBeside (g : TypeGraph) (moved : ClassRef) : ClassRef → ClassRef → Prop :=
  Relation.ReflTransGen (g.LinkBeside moved)

theorem AscendsBeside.ascends {moved : ClassRef} (path : g.AscendsBeside moved x y) :
    g.Ascends x y :=
  Relation.ReflTransGen.mono (fun _ _ link => link.2) _ _ path

theorem ascends_to_beside (path : g.Ascends x ref) : g.AscendsBeside ref x ref := by
  induction path using Relation.ReflTransGen.head_induction_on with
  | refl => exact .refl
  | @head below above link _ ih =>
      by_cases arrived : below = ref
      · rw [arrived]
      · exact .head ⟨arrived, link⟩ ih

theorem ascends_clear_beside (clear : ¬ g.Ascends x ref) (path : g.Ascends x y) :
    g.AscendsBeside ref x y := by
  induction path using Relation.ReflTransGen.head_induction_on with
  | refl => exact .refl
  | head link _ ih =>
      refine .head ⟨?_, link⟩ (ih fun later => clear (.head link later))
      rintro rfl
      exact clear .refl

theorem with_super_class (g : TypeGraph) (ref parent other : ClassRef) :
    (g.withSuper ref parent).class? other =
      if other = ref then (g.class? ref).map fun c => { c with superClass := some parent }
      else g.class? other :=
  SlotTable.get_modify _ _ _ _

theorem with_super_link (live : g.classes.contains ref = true) :
    (g.withSuper ref parent).Link x y ↔ x = ref ∧ y = parent ∨ g.LinkBeside ref x y := by
  obtain ⟨c, found⟩ := SlotTable.contains_iff.mp live
  have known : g.class? ref = some c := found
  unfold Link LinkBeside
  rw [with_super_class]
  by_cases same : x = ref
  · simp [same, known, eq_comm]
  · simp [same, Link]

theorem with_super_acyclic (live : g.classes.contains ref = true) (acyclic : g.Acyclic)
    (apart : ¬ g.Ascends parent ref) : (g.withSuper ref parent).Acyclic := by
  apply acyclic_of_moved acyclic apart
  intro below above link
  rcases (with_super_link live).mp link with new | ⟨_, old⟩
  · exact .inr new
  · exact .inl old

theorem AscendsBeside.with_super (live : g.classes.contains ref = true)
    (path : g.AscendsBeside ref x y) : (g.withSuper ref parent).Ascends x y :=
  Relation.ReflTransGen.mono (fun _ _ link => (with_super_link live).mpr (.inr link)) _ _ path

theorem with_super_new_link (live : g.classes.contains ref = true) :
    (g.withSuper ref parent).Link ref parent :=
  (with_super_link live).mpr (.inl ⟨rfl, rfl⟩)

/-- A parent that derives from the class would close a cycle, and no other parent does. -/
theorem ascends_iff_cyclic (live : g.classes.contains ref = true) (acyclic : g.Acyclic) :
    g.Ascends parent ref ↔ ¬ (g.withSuper ref parent).Acyclic := by
  constructor
  · intro path closed
    have down : (g.withSuper ref parent).Ascends parent ref :=
      (ascends_to_beside path).with_super live
    exact closed ref (.head' (with_super_new_link live) down)
  · intro cyclic
    by_contra apart
    exact cyclic (with_super_acyclic live acyclic apart)

/-- After a move a class ascends as before beside the old link, or to the moved class and on from
its new parent. -/
theorem with_super_ascends_iff (live : g.classes.contains ref = true)
    (apart : ¬ g.Ascends parent ref) :
    (g.withSuper ref parent).Ascends x y ↔
      g.AscendsBeside ref x y ∨ g.Ascends x ref ∧ g.Ascends parent y := by
  constructor
  · intro path
    induction path using Relation.ReflTransGen.head_induction_on with
    | refl => exact .inl .refl
    | head link _ ih =>
        rcases (with_super_link live).mp link with ⟨rfl, rfl⟩ | old
        · rcases ih with rest | ⟨back, _⟩
          · exact .inr ⟨.refl, rest.ascends⟩
          -- From the new parent no way leads back to the class that moved under it.
          · exact absurd back apart
        · rcases ih with rest | ⟨up, on⟩
          · exact .inl (.head old rest)
          · exact .inr ⟨.head old.2 up, on⟩
  · rintro (rest | ⟨up, on⟩)
    · exact rest.with_super live
    · have first : (g.withSuper ref parent).Ascends x ref := (ascends_to_beside up).with_super live
      have second : (g.withSuper ref parent).Ascends parent y :=
        (ascends_clear_beside apart on).with_super live
      exact first.trans (.head (with_super_new_link live) second)

/-- Why a class cannot be moved under a parent. -/
inductive MoveRefused (g : TypeGraph) (ref parent : ClassRef) : GraphError → Prop where
  | stale (gone : g.class? ref = none) : MoveRefused g ref parent (.staleReference .managedClass)
  | parentGone {c : ManagedClass} (found : g.class? ref = some c)
      (gone : g.classes.contains parent = false) :
      MoveRefused g ref parent (.invalidSuperClass c.name)
  | below {c : ManagedClass} (found : g.class? ref = some c)
      (live : g.classes.contains parent = true) (descends : g.Ascends parent ref) :
      MoveRefused g ref parent (.cyclicInheritance c.name)

theorem MoveRefused.set_super (tended : g.Tended) {e : GraphError}
    (refused : g.MoveRefused ref parent e) : g.setSuper ref parent = .error e := by
  cases refused with
  | stale gone => simp [setSuper, gone]
  | parentGone found gone => simp [setSuper, found, gone]
  | below found live descends =>
      have derives : g.derivesFrom parent ref = true := (tended.derives_iff parent ref).mpr descends
      simp [setSuper, found, live, derives]

theorem refused_or_movable (g : TypeGraph) (ref parent : ClassRef) :
    (∃ e, g.MoveRefused ref parent e) ∨
      g.classes.contains ref = true ∧ g.classes.contains parent = true ∧
        ¬ g.Ascends parent ref := by
  cases found : g.class? ref with
  | none => exact .inl ⟨_, .stale found⟩
  | some c =>
      cases live : g.classes.contains parent with
      | false => exact .inl ⟨_, .parentGone found live⟩
      | true =>
          by_cases descends : g.Ascends parent ref
          · exact .inl ⟨_, .below found live descends⟩
          · exact .inr ⟨SlotTable.contains_iff.mpr ⟨c, found⟩, rfl, descends⟩

theorem Tended.set_super_eq (tended : g.Tended) (live : g.classes.contains ref = true)
    (parentLive : g.classes.contains parent = true) (apart : ¬ g.Ascends parent ref) :
    g.setSuper ref parent = .ok (g.withSuper ref parent) := by
  apply TypeGraph.set_super_eq live parentLive
  rwa [← Bool.not_eq_true, tended.derives_iff]

theorem Tended.set_super_ok (tended : g.Tended) (moved : g.setSuper ref parent = .ok next) :
    g.classes.contains ref = true ∧ g.classes.contains parent = true ∧ ¬ g.Ascends parent ref ∧
      next = g.withSuper ref parent := by
  obtain ⟨live, parentLive, apart, same⟩ := TypeGraph.set_super_ok moved
  rw [← Bool.not_eq_true, tended.derives_iff] at apart
  exact ⟨live, parentLive, apart, same⟩

theorem Tended.set_super_error_iff (tended : g.Tended) {e : GraphError} :
    g.setSuper ref parent = .error e ↔ g.MoveRefused ref parent e := by
  refine ⟨fun failed => ?_, fun refused => refused.set_super tended⟩
  rcases g.refused_or_movable ref parent with ⟨other, refused⟩ | ⟨live, parentLive, apart⟩
  · rw [refused.set_super tended] at failed
    cases failed
    exact refused
  · rw [tended.set_super_eq live parentLive apart] at failed
    cases failed

/-- A graph and what one class's move under a parent makes of it. -/
structure Reparented (g : TypeGraph) (ref parent : ClassRef) (next : TypeGraph) : Prop where
  /-- One live entry of the table is rewritten; vacant slots and free list stay. -/
  graph : next = g.withSuper ref parent
  classes : ∀ other, next.class? other =
    if other = ref then (g.class? ref).map fun c => { c with superClass := some parent }
    else g.class? other
  acyclic : next.Acyclic
  derives : ∀ x y, next.derivesFrom x y = true ↔
    g.AscendsBeside ref x y ∨ g.derivesFrom x ref = true ∧ g.derivesFrom parent y = true

theorem Tended.reparented (tended : g.Tended) (live : g.classes.contains ref = true)
    (apart : ¬ g.Ascends parent ref) : g.Reparented ref parent (g.withSuper ref parent) where
  graph := rfl
  classes := g.with_super_class ref parent
  acyclic := with_super_acyclic live tended.acyclic apart
  derives x y := by
    have sound : (g.withSuper ref parent).classes.Sound := tended.attainable.sound.modify ref _
    rw [(with_super_acyclic live tended.acyclic apart).derives_iff sound, tended.derives_iff,
      tended.derives_iff]
    exact with_super_ascends_iff live apart

/-- In a graph without a cycle, as all that checked operations lead to, a move is made exactly if
both classes are live and no cycle closes; a refused one leaves the graph alone, and one that is
made redirects one link and does nothing else. -/
theorem reparenting_exact (tended : g.Tended) (ref parent : ClassRef) :
    ((∃ next, g.setSuper ref parent = .ok next) ↔
      g.classes.contains ref = true ∧ g.classes.contains parent = true ∧
        ¬ g.Ascends parent ref) ∧
    (g.classes.contains ref = true → g.classes.contains parent = true →
      (g.Ascends parent ref ↔ ¬ (g.withSuper ref parent).Acyclic)) ∧
    (∀ e, g.setSuper ref parent = .error e ↔ g.MoveRefused ref parent e) ∧
    (∀ e, g.setSuper ref parent = .error e →
      (Session.GraphEdit.setSuper ref parent).apply g = (.failed (.graph e), g)) ∧
    ∀ next, g.setSuper ref parent = .ok next →
      g.Reparented ref parent next ∧
        (Session.GraphEdit.setSuper ref parent).apply g = (.nothing, next) := by
  refine ⟨⟨?_, ?_⟩, ?_, fun e => tended.set_super_error_iff, ?_, ?_⟩
  · rintro ⟨next, moved⟩
    obtain ⟨live, parentLive, apart, _⟩ := tended.set_super_ok moved
    exact ⟨live, parentLive, apart⟩
  · rintro ⟨live, parentLive, apart⟩
    exact ⟨_, tended.set_super_eq live parentLive apart⟩
  · intro live _
    exact ascends_iff_cyclic live tended.acyclic
  · intro e failed
    simp [Session.GraphEdit.apply, failed, Except.map, Session.editOr]
  · intro next moved
    obtain ⟨live, _, apart, rfl⟩ := tended.set_super_ok moved
    refine ⟨tended.reparented live apart, ?_⟩
    simp [Session.GraphEdit.apply, moved, Except.map, Session.editOr]

/-- The player, still below the pawn that is gone, goes under the component base and takes the
rider along; it cannot go under the rider. -/
theorem moved_player_reparented :
    reusedSlot.Tended ∧
    reusedSlot.Reparented ⟨3, 0⟩ ⟨1, 0⟩ (reusedSlot.withSuper ⟨3, 0⟩ ⟨1, 0⟩) ∧
    (reusedSlot.withSuper ⟨3, 0⟩ ⟨1, 0⟩).derivesFrom ⟨2, 1⟩ ⟨1, 0⟩ = true ∧
    (reusedSlot.withSuper ⟨3, 0⟩ ⟨1, 0⟩).derivesFrom ⟨2, 1⟩ ⟨2, 0⟩ = false ∧
    reusedSlot.setSuper ⟨3, 0⟩ ⟨2, 1⟩ = .error (.cyclicInheritance ⟨"Game", "", "Player"⟩) := by
  have tended := reused_slot_reachable.tended
  obtain ⟨_, _, _, _, moved⟩ := reparenting_exact tended ⟨3, 0⟩ ⟨1, 0⟩
  obtain ⟨_, _, refused, _, _⟩ := reparenting_exact tended ⟨3, 0⟩ ⟨2, 1⟩
  have made : reusedSlot.setSuper ⟨3, 0⟩ ⟨1, 0⟩ =
      .ok (reusedSlot.withSuper ⟨3, 0⟩ ⟨1, 0⟩) :=
    TypeGraph.set_super_eq (by decide +kernel) (by decide +kernel) (by decide +kernel)
  have below : reusedSlot.Ascends ⟨2, 1⟩ ⟨3, 0⟩ :=
    (tended.derives_iff _ _).mp (by decide +kernel)
  have player : reusedSlot.class? ⟨3, 0⟩ =
      some { name := ⟨"Game", "", "Player"⟩, superClass := some ⟨2, 0⟩ } := by decide +kernel
  exact ⟨tended, (moved _ made).1, by decide +kernel, by decide +kernel,
    (refused _).mpr (.below player (by decide +kernel) below)⟩

end BlueprintBridge.TypeGraph
