import BlueprintBridge.Proofs.Graph.Names
import BlueprintBridge.Proofs.Graph.Reciprocity
import BlueprintBridge.Proofs.Host.Settling

/-!
# What trials make of the class of a name

Only definitions of its own name touch the parent and the owner of a class. So trials leave it under
the parent that the last of them put it under, and with the blueprint that the last of them bound it
to; what none of them gave stays as it was. A trial gives a parent as soon as it places its class,
also if it cannot bind it then.
-/

namespace BlueprintBridge

set_option autoImplicit false

namespace Trial

def parent? (trial : Trial) : Option ClassRef :=
  (trial.before.parentFor? trial.definition).filter fun parent =>
    (trial.before.placeClass trial.definition.name parent).isOk

def owner? (trial : Trial) : Option BlueprintRef :=
  trial.made.bind fun _ => trial.definition.blueprint

def last? {β : Type} (name : TypeName) (given : Trial → Option β) (trials : List Trial) :
    Option β :=
  ((trials.filter fun trial => trial.definition.name = name).filterMap given).getLast?

variable {β : Type} {given : Trial → Option β} {name : TypeName}

theorem last_append (early late : List Trial) :
    last? name given (early ++ late) = (last? name given late).or (last? name given early) := by
  simp [last?, List.getLast?_append]

theorem last_singleton (trial : Trial) :
    last? name given [trial] = if trial.definition.name = name then given trial else none := by
  unfold last?
  by_cases own : trial.definition.name = name
  · cases gave : given trial <;> simp [own, gave]
  · simp [own]

end Trial

namespace TypeGraph

variable {g next : TypeGraph} {d : ClassDefinition} {name other : TypeName}
  {ref made parent : ClassRef}

theorem slots_le_of_changes (changes : Relation.ReflTransGen Change g next) :
    g.classes.slots.length ≤ next.classes.slots.length := by
  induction changes with
  | refl => exact Nat.le_refl _
  | tail _ change ih => exact Nat.le_trans ih change.filing.refiling.slots_le

theorem Indexed.of_changes (indexed : g.Indexed) (changes : Relation.ReflTransGen Change g next)
    (short : next.classes.slots.length < UInt32.size) : next.Indexed := by
  rw [indexed_iff] at indexed ⊢
  apply SlotTable.filed_of_operations _ changes indexed short
  exact fun _ _ change => change.filing.refiling

theorem changes_of_successive {trials : List Trial} {first last : TypeGraph}
    (successive : Trial.Successive first trials last) :
    Relation.ReflTransGen Change first last := by
  induction trials generalizing first with
  | nil =>
      cases successive
      exact .refl
  | cons trial rest ih =>
      obtain ⟨_, run, later⟩ := successive
      have changes := first.generate_changes trial.definition
      rw [run] at changes
      exact changes.trans (ih later)

theorem owner_with_super (g : TypeGraph) (below above ref : ClassRef) :
    (g.withSuper below above).ownerOf? ref = g.ownerOf? ref := by
  rw [owner_eq_follow, owner_eq_follow]
  apply SlotTable.follow_modify
  exact fun _ => rfl

theorem parent_with_super (live : g.classes.contains ref = true) (other : ClassRef) :
    (g.withSuper ref parent).parent? other =
      if other = ref then some parent else g.parent? other := by
  obtain ⟨c, found⟩ := SlotTable.contains_iff.mp live
  have known : g.class? ref = some c := found
  rw [parent_modify rfl, known]
  rfl

theorem class_with_class (table : g.classes.Sound)
    (short : (g.withClass name parent).2.classes.slots.length < UInt32.size) :
    (∀ ref, g.classes.contains ref = true → ref ≠ (g.withClass name parent).1) ∧
      ∀ ref, (g.withClass name parent).2.class? ref =
        if ref = (g.withClass name parent).1 then some { name, superClass := some parent }
        else g.class? ref := by
  obtain ⟨fresh, lookup⟩ := table.get_insert_of_short _ short
  refine ⟨?_, lookup⟩
  rintro ref live rfl
  exact fresh (SlotTable.issued_of_contains live)

structure Placed (g : TypeGraph) (name : TypeName) (ref : ClassRef) (other : TypeName)
    (parent made : ClassRef) (next : TypeGraph) : Prop where
  named : next.findClass? name = some ref
  own : made = ref ↔ other = name
  parent : next.parent? ref = if other = name then some parent else g.parent? ref
  owner : next.ownerOf? ref = g.ownerOf? ref

theorem placed_with_class (indexed : g.Indexed) (registered : g.findClass? name = some ref)
    (free : g.findClass? other = none)
    (short : (g.withClass other parent).2.classes.slots.length < UInt32.size) :
    Placed g name ref other parent (g.withClass other parent).1 (g.withClass other parent).2 := by
  obtain ⟨fresh, lookup⟩ := class_with_class indexed.table short
  have apart : name ≠ other := by
    rintro rfl
    rw [registered] at free
    cases free
  have old := fresh ref (indexed.live registered)
  constructor
  · exact (Catalog.get?_insert_of_ne _ _ apart).trans registered
  · exact iff_of_false old.symm apart.symm
  · rw [if_neg apart.symm, parent?, lookup, if_neg old, parent?]
  · rw [owner_eq_follow, owner_eq_follow]
    exact indexed.table.follow_insert rfl ref

theorem placed_with_super (indexed : g.Indexed) (registered : g.findClass? name = some ref)
    (moved : g.findClass? other = some made) :
    Placed g name ref other parent made (g.withSuper made parent) := by
  have own : made = ref ↔ other = name := by
    constructor
    · rintro rfl
      obtain ⟨c, live, rfl⟩ := (indexed.named _ _).mp registered
      obtain ⟨_, same, rfl⟩ := (indexed.named _ _).mp moved
      rw [Option.some.inj (live.symm.trans same)]
    · rintro rfl
      exact Option.some.inj (moved.symm.trans registered)
  constructor
  · exact registered
  · exact own
  · rw [parent_with_super (indexed.live moved)]
    exact if_congr (eq_comm.trans own) rfl rfl
  · exact owner_with_super g made parent ref

theorem place_class_placed (indexed : g.Indexed) (registered : g.findClass? name = some ref)
    (placing : g.placeClass other parent = .ok (made, next))
    (short : next.classes.slots.length < UInt32.size) :
    Placed g name ref other parent made next := by
  rcases place_class_ok placing with ⟨free, _, same⟩ | ⟨moved, _, _, _, rfl⟩
  · cases same
    exact placed_with_class indexed registered free short
  · exact placed_with_super indexed registered moved

theorem bind_names {owner : BlueprintRef} (binding : g.bind owner ref = .ok next)
    (name : TypeName) : next.findClass? name = g.findClass? name := by
  obtain ⟨_, _, rfl⟩ := bind_ok binding
  rfl

theorem bind_slots {owner : BlueprintRef} (binding : g.bind owner ref = .ok next) :
    next.classes.slots.length = g.classes.slots.length := by
  obtain ⟨_, _, rfl⟩ := bind_ok binding
  exact SlotTable.length_modify ..

theorem placed_stands (indexed : g.Indexed) (placing : g.placeClass name parent = .ok (ref, next))
    (short : next.classes.slots.length < UInt32.size) :
    next.findClass? name = some ref ∧ next.parent? ref = some parent := by
  rcases place_class_ok placing with ⟨_, _, same⟩ | ⟨registered, live, _, _, rfl⟩
  · obtain ⟨rfl, rfl⟩ := Prod.ext_iff.mp same
    obtain ⟨_, lookup⟩ := class_with_class indexed.table short
    refine ⟨Catalog.get?_insert_self .., ?_⟩
    rw [parent?, lookup, if_pos rfl]
    rfl
  · refine ⟨registered, ?_⟩
    rw [parent_with_super live, if_pos rfl]

/-- A definition that gives a class registers it, under the parent that it resolved and with the
blueprint that it names. -/
theorem made_stands (indexed : g.Indexed) (run : g.generate d = (.ok (some ref), next))
    (short : next.classes.slots.length < UInt32.size) :
    next.findClass? d.name = some ref ∧ next.parent? ref = g.parentFor? d ∧
      ∀ owner, d.blueprint = some owner → next.ownerOf? ref = some owner := by
  cases generate_cases run with
  | unowned resolved placing unowned =>
      obtain ⟨named, parent⟩ := placed_stands indexed placing short
      refine ⟨named, parent.trans resolved.symm, ?_⟩
      rw [unowned]
      rintro _ ⟨⟩
  | bound resolved placing named binding =>
      rw [bind_slots binding] at short
      obtain ⟨registered, parent⟩ := placed_stands indexed placing short
      refine ⟨?_, ?_, ?_⟩
      · rw [bind_names binding, registered]
      · rw [bind_parents binding, parent, resolved]
      · intro owner same
        rw [bind_owner binding, if_pos rfl, ← same, named]

end TypeGraph

namespace Trial

variable {g next first middle last : TypeGraph} {d : ClassDefinition} {name : TypeName}
  {ref parent : ClassRef} {answer : Except GraphError (Option ClassRef)}

/-- What trials tell of the class of a name. -/
structure Retold (name : TypeName) (ref : ClassRef) (first : TypeGraph) (trials : List Trial)
    (last : TypeGraph) : Prop where
  indexed : last.Indexed
  named : last.findClass? name = some ref
  parent : last.parent? ref = (last? name parent? trials).or (first.parent? ref)
  owner : last.ownerOf? ref = (last? name owner? trials).or (first.ownerOf? ref)

theorem Retold.trans {early late : List Trial} (before : Retold name ref first early middle)
    (after : Retold name ref middle late last) : Retold name ref first (early ++ late) last where
  indexed := after.indexed
  named := after.named
  parent := by rw [after.parent, before.parent, last_append, Option.or_assoc]
  owner := by rw [after.owner, before.owner, last_append, Option.or_assoc]

theorem parent_eq_none (orphan : g.parentFor? d = none) : parent? ⟨d, g, answer, next⟩ = none := by
  simp [parent?, orphan]

theorem parent_of_misplaced {e : GraphError} (resolved : g.parentFor? d = some parent)
    (misplaced : g.placeClass d.name parent = .error e) :
    parent? ⟨d, g, answer, next⟩ = none := by
  simp [parent?, resolved, misplaced, Except.isOk, Except.toBool]

theorem parent_of_placed {placed : ClassRef × TypeGraph} (resolved : g.parentFor? d = some parent)
    (placing : g.placeClass d.name parent = .ok placed) :
    parent? ⟨d, g, answer, next⟩ = some parent := by
  simp [parent?, resolved, placing, Except.isOk, Except.toBool]

theorem retold_of_generate (indexed : g.Indexed) (registered : g.findClass? name = some ref)
    (run : g.generate d = (answer, next)) (short : next.classes.slots.length < UInt32.size) :
    Retold name ref g [⟨d, g, answer, next⟩] next := by
  have changes := g.generate_changes d
  rw [run] at changes
  have later := indexed.of_changes changes short
  -- Placing a class tells its parent, also where binding fails; only binding tells its owner.
  cases TypeGraph.generate_cases run with
  | orphan orphan =>
      constructor
      · exact later
      · exact registered
      · simp [last_singleton, parent_eq_none orphan]
      · simp [last_singleton, owner?, made]
  | misplaced resolved misplaced =>
      constructor
      · exact later
      · exact registered
      · simp [last_singleton, parent_of_misplaced resolved misplaced]
      · simp [last_singleton, owner?, made]
  | unowned resolved placing unowned =>
      have placed := TypeGraph.place_class_placed indexed registered placing short
      constructor
      · exact later
      · exact placed.named
      · rw [placed.parent, last_singleton, parent_of_placed resolved placing]
        split <;> rfl
      · simp [last_singleton, owner?, made, unowned, placed.owner]
  | unbound resolved placing =>
      have placed := TypeGraph.place_class_placed indexed registered placing short
      constructor
      · exact later
      · exact placed.named
      · rw [placed.parent, last_singleton, parent_of_placed resolved placing]
        split <;> rfl
      · simp [last_singleton, owner?, made, placed.owner]
  | bound resolved placing named binding =>
      rw [TypeGraph.bind_slots binding] at short
      have placed := TypeGraph.place_class_placed indexed registered placing short
      constructor
      · exact later
      · rw [TypeGraph.bind_names binding, placed.named]
      · rw [TypeGraph.bind_parents binding, placed.parent, last_singleton,
          parent_of_placed resolved placing]
        split <;> rfl
      · rw [TypeGraph.bind_owner binding, eq_comm, placed.owner, last_singleton]
        simp only [eq_comm (a := ref), placed.own, owner?, made, Option.bind_some, named]
        split <;> rfl

/-- Trials one after the other leave the class with what the last of its name gave. -/
theorem Successive.retold {trials : List Trial} (successive : Successive first trials last)
    (indexed : first.Indexed) (registered : first.findClass? name = some ref)
    (short : last.classes.slots.length < UInt32.size) : Retold name ref first trials last := by
  -- Along the trials: each finds the class under its name, whatever the ones before it told.
  induction trials generalizing first with
  | nil =>
      cases successive
      exact ⟨indexed, registered, rfl, rfl⟩
  | cons trial rest ih =>
      obtain ⟨definition, before, answer, after⟩ := trial
      obtain ⟨rfl, run, later⟩ := successive
      have grown := TypeGraph.slots_le_of_changes (TypeGraph.changes_of_successive later)
      have told := retold_of_generate indexed registered run (Nat.lt_of_le_of_lt grown short)
      exact told.trans (ih later told.indexed told.named)

end Trial

end BlueprintBridge
