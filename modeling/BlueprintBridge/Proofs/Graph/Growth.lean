import BlueprintBridge.Host.Parking
import BlueprintBridge.Proofs.Graph.Planting
import BlueprintBridge.Proofs.Splits
import Mathlib.Data.List.Nodup

/-!
# Growing a graph by definitions

New definitions, given in any order, are made one by one as soon as their parents are there. Which
of them are ever made does not depend on the order: those whose chain of parent names ends at a
registered class or at no parent. The invariant is a stage: what was made so far, in order, what
still waits, and how the graph came out of the one at the start.
-/

namespace BlueprintBridge.TypeGraph

set_option autoImplicit false

variable {g₀ g next : TypeGraph} {ds : List ClassDefinition} {d : ClassDefinition}

def Under (ds : List ClassDefinition) (d above : ClassDefinition) : Prop :=
  above ∈ ds ∧ d.superName = some above.name

def Grounded (g : TypeGraph) (d : ClassDefinition) : Prop :=
  ∀ name, d.superName = some name → (g.findClass? name).isSome = true

/-- The chain of parent names, led through some definitions, ends at a registered class or at no
parent. -/
def Resolvable (g : TypeGraph) (ds : List ClassDefinition) (d : ClassDefinition) : Prop :=
  ∃ top, Relation.ReflTransGen (Under ds) d top ∧ g.Grounded top

theorem Grounded.resolvable (grounded : g.Grounded d) : g.Resolvable ds d := ⟨d, .refl, grounded⟩

theorem Resolvable.below {above : ClassDefinition} (resolvable : g.Resolvable ds above)
    (under : Under ds d above) : g.Resolvable ds d := by
  obtain ⟨top, chain, grounded⟩ := resolvable
  exact ⟨top, chain.head under, grounded⟩

theorem resolvable_perm {others : List ClassDefinition} (perm : ds.Perm others) :
    g.Resolvable ds d ↔ g.Resolvable others d := by
  have same : Under ds = Under others := by
    funext below above
    rw [Under, Under, perm.mem_iff]
  rw [Resolvable, Resolvable, same]

theorem parent_for_none : g.parentFor? d = none ↔ ¬ g.Grounded d := by
  unfold parentFor? Grounded
  cases d.superName with
  | none => simp
  | some name => simp

def parentName? (g : TypeGraph) (name : TypeName) : Option TypeName :=
  (((g.findClass? name).bind g.parent?).bind g.class?).map (·.name)

theorem parent_name_of_free {name : TypeName} (free : g.findClass? name = none) :
    g.parentName? name = none := by
  rw [parentName?, free]
  rfl

def rootedName? (g : TypeGraph) (d : ClassDefinition) : Option TypeName :=
  match d.superName with
  | some name => some name
  | none => (g.class? g.objectClass).map (·.name)

/-- New definitions for a graph: distinct free names, no dead blueprint, and slots enough. -/
structure Fresh (g : TypeGraph) (ds : List ClassDefinition) : Prop where
  indexed : g.Indexed
  root : g.classes.contains g.objectClass = true
  names : (ds.map (·.name)).Nodup
  free : ∀ d ∈ ds, g.findClass? d.name = none
  owned : ∀ d ∈ ds, ∀ owner ∈ d.blueprint, g.blueprints.contains owner = true
  short : g.classes.slots.length + ds.length < UInt32.size

theorem Fresh.perm {others : List ClassDefinition} (fresh : Fresh g ds) (perm : ds.Perm others) :
    Fresh g others where
  indexed := fresh.indexed
  root := fresh.root
  names := (perm.map (·.name)).nodup_iff.mp fresh.names
  free d member := fresh.free d (perm.mem_iff.mpr member)
  owned d member := fresh.owned d (perm.mem_iff.mpr member)
  short := perm.length_eq ▸ fresh.short

structure Stage (g₀ : TypeGraph) (ds : List ClassDefinition)
    (made : List (ClassDefinition × ClassRef)) (waiting : List ClassDefinition) (g : TypeGraph) :
    Prop where
  indexed : g.Indexed
  dealt : (made.map Prod.fst ++ waiting).Perm ds
  names : ∀ name ref, g.findClass? name = some ref ↔
    g₀.findClass? name = some ref ∨ ∃ d, (d, ref) ∈ made ∧ d.name = name
  kept : ∀ ref c, g₀.class? ref = some c → g.class? ref = some c
  placed : ∀ d ref, (d, ref) ∈ made → ∃ parent, g.parentFor? d = some parent ∧
    g.class? ref = some ⟨d.name, some parent, d.blueprint⟩
  resolvable : ∀ entry ∈ made, g₀.Resolvable ds entry.1
  ordered : ∀ before d ref after, made = before ++ (d, ref) :: after →
    ∀ above, Under ds d above → above ∈ before.map Prod.fst
  blueprints : ∀ owner, g.blueprints.contains owner = g₀.blueprints.contains owner
  root : g.objectClass = g₀.objectClass
  slots : g.classes.slots.length ≤ g₀.classes.slots.length + made.length

variable {made : List (ClassDefinition × ClassRef)} {waiting before after : List ClassDefinition}

theorem Fresh.above_unique (fresh : Fresh g ds) {above other : ClassDefinition}
    (under : Under ds d above) (again : Under ds d other) : above = other := by
  have sameName : above.name = other.name := Option.some.inj (under.2.symm.trans again.2)
  exact List.inj_on_of_nodup_map fresh.names under.1 again.1 sameName

theorem Fresh.not_grounded (fresh : Fresh g ds) {above : ClassDefinition}
    (under : Under ds d above) : ¬ g.Grounded d := by
  intro grounded
  have registered := grounded above.name under.2
  rw [fresh.free above under.1] at registered
  cases registered

theorem Fresh.resolvable_above (fresh : Fresh g ds) {above : ClassDefinition}
    (resolvable : g.Resolvable ds d) (chain : Relation.ReflTransGen (Under ds) d above) :
    g.Resolvable ds above := by
  induction chain with
  | refl => exact resolvable
  | tail _ under ih =>
      obtain ⟨top, up, grounded⟩ := ih
      rcases up.cases_head with rfl | ⟨other, link, rest⟩
      · exact absurd grounded (fresh.not_grounded under)
      · rw [fresh.above_unique under link]
        exact ⟨top, rest, grounded⟩

theorem Fresh.missing_not_resolvable (fresh : Fresh g ds) {low : ClassDefinition}
    {name : TypeName} (chain : Relation.ReflTransGen (Under ds) d low)
    (asked : low.superName = some name) (unregistered : g.findClass? name = none)
    (undefined : ∀ other ∈ ds, other.name ≠ name) : ¬ g.Resolvable ds d := by
  intro resolvable
  obtain ⟨top, up, grounded⟩ := fresh.resolvable_above resolvable chain
  rcases up.cases_head with rfl | ⟨above, under, _⟩
  · have registered := grounded name asked
    rw [unregistered] at registered
    cases registered
  · exact undefined above under.1 (Option.some.inj (under.2.symm.trans asked))

/-- Whatever a cycle leads to is on the cycle. -/
theorem Fresh.cycle_returns (fresh : Fresh g ds) (cycle : Relation.TransGen (Under ds) d d)
    {above : ClassDefinition} (chain : Relation.ReflTransGen (Under ds) d above) :
    Relation.TransGen (Under ds) above d := by
  induction chain with
  | refl => exact cycle
  | tail _ under ih =>
      obtain ⟨other, link, rest⟩ := Relation.TransGen.head'_iff.mp ih
      rw [fresh.above_unique under link]
      rcases Relation.reflTransGen_iff_eq_or_transGen.mp rest with rfl | path
      · exact cycle
      · exact path

theorem Fresh.cycle_not_resolvable (fresh : Fresh g ds)
    (cycle : Relation.TransGen (Under ds) d d) : ¬ g.Resolvable ds d := by
  rintro ⟨top, chain, grounded⟩
  obtain ⟨above, under, _⟩ := Relation.TransGen.head'_iff.mp (fresh.cycle_returns cycle chain)
  exact fresh.not_grounded under grounded

theorem Fresh.stage (fresh : Fresh g ds) : Stage g ds [] ds g where
  indexed := fresh.indexed
  dealt := .refl _
  names name ref := by simp
  kept _ _ found := found
  placed _ _ member := by cases member
  resolvable _ member := by cases member
  ordered before _ _ _ split := by simp at split
  blueprints _ := rfl
  root := rfl
  slots := Nat.le_refl _

namespace Stage

theorem made_of_mem (stage : Stage g₀ ds made waiting g) {entry : ClassDefinition × ClassRef}
    (member : entry ∈ made) : entry.1 ∈ ds :=
  stage.dealt.subset (List.mem_append_left _ (List.mem_map_of_mem member))

theorem waiting_of_mem (stage : Stage g₀ ds made waiting g) (member : d ∈ waiting) : d ∈ ds :=
  stage.dealt.subset (List.mem_append_right _ member)

theorem names_nodup (stage : Stage g₀ ds made waiting g) (fresh : Fresh g₀ ds) :
    ((made.map Prod.fst ++ waiting).map (·.name)).Nodup :=
  (stage.dealt.map (·.name)).nodup_iff.mpr fresh.names

theorem apart (stage : Stage g₀ ds made waiting g) (fresh : Fresh g₀ ds) (member : d ∈ waiting)
    {entry : ClassDefinition × ClassRef} (earlier : entry ∈ made) : entry.1.name ≠ d.name := by
  have nodup := stage.names_nodup fresh
  rw [List.map_append, List.nodup_append] at nodup
  exact nodup.2.2 _ (List.mem_map_of_mem (List.mem_map_of_mem earlier)) _
    (List.mem_map_of_mem member)

theorem free (stage : Stage g₀ ds made waiting g) (fresh : Fresh g₀ ds) (member : d ∈ waiting) :
    g.findClass? d.name = none := by
  cases found : g.findClass? d.name with
  | none => rfl
  | some ref =>
      rcases (stage.names d.name ref).mp found with old | ⟨other, earlier, same⟩
      · rw [fresh.free d (stage.waiting_of_mem member)] at old
        cases old
      · exact absurd same (stage.apart fresh member earlier)

theorem parent_live (stage : Stage g₀ ds made waiting g) (fresh : Fresh g₀ ds)
    {parent : ClassRef} (resolved : g.parentFor? d = some parent) :
    g.classes.contains parent = true := by
  unfold parentFor? at resolved
  split at resolved
  · exact stage.indexed.live resolved
  · cases resolved
    obtain ⟨c, root⟩ := SlotTable.contains_iff.mp fresh.root
    rw [stage.root]
    exact SlotTable.contains_iff.mpr ⟨c, stage.kept _ c root⟩

/-- A definition whose parent is there asks for none, or for one that was registered at the start,
or for one that was made. -/
theorem parent_cases (stage : Stage g₀ ds made waiting g) {parent : ClassRef}
    (resolved : g.parentFor? d = some parent) :
    g₀.Grounded d ∨ ∃ entry ∈ made, Under ds d entry.1 := by
  cases asked : d.superName with
  | none => exact .inl fun name named => by rw [asked] at named; cases named
  | some name =>
      have found : g.findClass? name = some parent := by
        unfold parentFor? at resolved
        rwa [asked] at resolved
      rcases (stage.names name parent).mp found with old | ⟨above, earlier, rfl⟩
      · left
        intro other named
        rw [asked] at named
        cases named
        rw [old]
        rfl
      · exact .inr ⟨_, earlier, stage.made_of_mem earlier, asked⟩

theorem room (stage : Stage g₀ ds made (before ++ d :: after) g) (fresh : Fresh g₀ ds) :
    g.classes.slots.length + 1 < UInt32.size := by
  have slots := stage.slots
  have short := fresh.short
  have count := stage.dealt.length_eq
  simp only [List.length_append, List.length_map, List.length_cons] at count
  omega

theorem planted_names (stage : Stage g₀ ds made (before ++ d :: after) g) (fresh : Fresh g₀ ds)
    {parent ref : ClassRef} (plant : Planted g ⟨d.name, some parent, d.blueprint⟩ ref next)
    (name : TypeName) (other : ClassRef) : next.findClass? name = some other ↔
      g₀.findClass? name = some other ∨
        ∃ e, (e, other) ∈ made ++ [(d, ref)] ∧ e.name = name := by
  have unused := stage.free fresh (d := d) (by simp)
  have old := stage.names name other
  simp only [List.mem_append, List.mem_singleton, or_and_right, exists_or, plant.names]
  split
  · next same =>
      subst same
      rw [unused] at old
      constructor
      · intro found
        cases found
        exact .inr (.inr ⟨d, rfl, rfl⟩)
      · rintro (earlier | earlier | ⟨_, same, _⟩)
        · cases old.mpr (.inl earlier)
        · cases old.mpr (.inr earlier)
        · cases same
          rfl
  · next apart =>
      rw [old]
      constructor
      · rintro (earlier | earlier)
        · exact .inl earlier
        · exact .inr (.inl earlier)
      · rintro (earlier | earlier | ⟨_, same, sameName⟩)
        · exact .inl earlier
        · exact .inr earlier
        · cases same
          exact absurd sameName.symm apart

/-- Making one of the waiting definitions leads to the next stage. -/
theorem planted (stage : Stage g₀ ds made (before ++ d :: after) g) (fresh : Fresh g₀ ds)
    {parent ref : ClassRef} (resolved : g.parentFor? d = some parent)
    (plant : Planted g ⟨d.name, some parent, d.blueprint⟩ ref next) :
    Stage g₀ ds (made ++ [(d, ref)]) (before ++ after) next := by
  have unused := stage.free fresh (d := d) (by simp)
  have origin := stage.parent_cases resolved
  exact {
    indexed := plant.indexed
    dealt := by
      refine .trans ?_ stage.dealt
      simp only [List.map_append, List.map_cons, List.map_nil, List.append_assoc]
      have middle : (d :: (before ++ after)).Perm (before ++ d :: after) :=
        List.perm_middle.symm
      exact middle.append_left _
    names := stage.planted_names fresh plant
    kept := fun other c found => plant.class_of_some (stage.kept other c found)
    placed := by
      intro other otherRef member
      rcases List.mem_append.mp member with earlier | last
      · obtain ⟨above, found, c⟩ := stage.placed other otherRef earlier
        exact ⟨above, plant.parent_for_of_some unused found, plant.class_of_some c⟩
      · cases List.mem_singleton.mp last
        exact ⟨parent, plant.parent_for_of_some unused resolved,
          by rw [plant.classes, if_pos rfl]⟩
    resolvable := by
      intro entry member
      rcases List.mem_append.mp member with earlier | last
      · exact stage.resolvable entry earlier
      · cases List.mem_singleton.mp last
        rcases origin with grounded | ⟨above, earlier, under⟩
        · exact grounded.resolvable
        · exact (stage.resolvable above earlier).below under
    ordered := by
      intro earlier other otherRef later split above under
      -- The new definition is the last, or it comes after the one in question.
      rcases snoc_eq_split.mp split with ⟨rfl, same, _⟩ | ⟨rest, _, rfl⟩
      · cases same
        rcases origin with grounded | ⟨entry, member, link⟩
        · exact absurd grounded (fresh.not_grounded under)
        · exact fresh.above_unique link under ▸ List.mem_map_of_mem member
      · exact stage.ordered earlier other otherRef rest rfl above under
    blueprints := fun owner => (plant.blueprints owner).trans (stage.blueprints owner)
    root := plant.root.trans stage.root
    slots := by
      have grown := plant.slots
      have slots := stage.slots
      rw [List.length_append, List.length_singleton]
      omega }

theorem generate (stage : Stage g₀ ds made (before ++ d :: after) g) (fresh : Fresh g₀ ds) :
    (g.parentFor? d = none ∧ g.generate d = (.ok none, g)) ∨
    ∃ ref next, g.generate d = (.ok (some ref), next) ∧
      Stage g₀ ds (made ++ [(d, ref)]) (before ++ after) next := by
  cases resolved : g.parentFor? d with
  | none => exact .inl ⟨rfl, generate_orphan resolved⟩
  | some parent =>
      have waits : d ∈ before ++ d :: after := by simp
      have owned (owner : BlueprintRef) (named : owner ∈ d.blueprint) :
          g.blueprints.contains owner = true := by
        rw [stage.blueprints]
        exact fresh.owned d (stage.waiting_of_mem waits) owner named
      obtain ⟨ref, next, run, plant⟩ := generate_new stage.indexed resolved
        (stage.parent_live fresh resolved) (stage.free fresh waits) owned (stage.room fresh)
      exact .inr ⟨ref, next, run, stage.planted fresh resolved plant⟩

structure Advance (g₀ : TypeGraph) (ds : List ClassDefinition)
    (made : List (ClassDefinition × ClassRef)) (skipped tried : List ClassDefinition)
    (pass : Pass) (more : List (ClassDefinition × ClassRef)) : Prop where
  stage : Stage g₀ ds (made ++ more) (skipped ++ pass.parked) pass.graph
  generated : pass.generated = more.map Prod.snd
  parked : pass.parked.Sublist tried

theorem retry {skipped tried : List ClassDefinition}
    (stage : Stage g₀ ds made (skipped ++ tried) g) (fresh : Fresh g₀ ds) :
    ∃ more, Advance g₀ ds made skipped tried (g.retry tried).value more ∧
      (more = [] → (g.retry tried).value.graph = g ∧
        ∀ d ∈ (g.retry tried).value.parked, g.parentFor? d = none) := by
  induction tried generalizing g made skipped with
  | nil =>
      refine ⟨[], ⟨by simpa [TypeGraph.retry] using stage, rfl, List.Sublist.slnil⟩,
        fun _ => ⟨rfl, ?_⟩⟩
      intro d member
      cases member
  | cons d rest ih =>
      rcases stage.generate fresh with ⟨orphan, run⟩ | ⟨ref, next, run, later⟩
      · have again : Stage g₀ ds made ((skipped ++ [d]) ++ rest) g := by simpa using stage
        obtain ⟨more, advance, stuck⟩ := ih again
        simp only [TypeGraph.retry, run]
        refine ⟨more, ⟨by simpa using advance.stage, advance.generated,
          advance.parked.cons_cons d⟩, fun none => ⟨(stuck none).1, ?_⟩⟩
        intro other member
        rcases List.mem_cons.mp member with rfl | further
        · exact orphan
        · exact (stuck none).2 other further
      · obtain ⟨more, advance, _⟩ := ih later
        simp only [TypeGraph.retry, run]
        refine ⟨(d, ref) :: more, ⟨by simpa using advance.stage, by simp [advance.generated],
          advance.parked.cons d⟩, fun none => ?_⟩
        cases none

/-- The passes stop when no parent of a parked definition is there. -/
theorem settle {tried : List ClassDefinition} (stage : Stage g₀ ds made tried g)
    (fresh : Fresh g₀ ds) :
    ∃ more, Advance g₀ ds made [] tried (g.settle tried).value more ∧
      ∀ d ∈ (g.settle tried).value.parked, (g.settle tried).value.graph.parentFor? d = none := by
  induction g, tried using TypeGraph.settle.induct generalizing made with
  | case1 g tried =>
      next first progress ih =>
        have start : Stage g₀ ds made ([] ++ tried) g := stage
        obtain ⟨early, advance, _⟩ := start.retry fresh
        obtain ⟨late, further, stuck⟩ := ih advance.stage
        rw [TypeGraph.settle, dif_pos progress]
        refine ⟨early ++ late, ⟨?_, ?_, further.parked.trans advance.parked⟩, stuck⟩
        · rw [← List.append_assoc]
          exact further.stage
        · rw [List.map_append, ← advance.generated, ← further.generated]
  | case2 g tried =>
      next first ended =>
        have start : Stage g₀ ds made ([] ++ tried) g := stage
        obtain ⟨more, advance, stuck⟩ := start.retry fresh
        rw [TypeGraph.settle, dif_neg ended]
        refine ⟨more, advance, fun d member => ?_⟩
        -- Something is parked, so the pass left as much as it found: it made nothing.
        have some : (g.retry tried).value.parked ≠ [] := List.ne_nil_of_mem member
        have same : (g.retry tried).value.parked.length = tried.length := by
          by_contra fewer
          exact ended ⟨fewer, some⟩
        have before := stage.dealt.length_eq
        have later := advance.stage.dealt.length_eq
        simp only [List.length_append, List.length_map, List.length_nil] at before later
        have none : more = [] := by
          apply List.eq_nil_of_length_eq_zero
          omega
        rw [(stuck none).1]
        exact (stuck none).2 d member

/-- When no parent is there for what waits, exactly the resolvable definitions were made. -/
theorem made_iff (stage : Stage g₀ ds made waiting g)
    (stuck : ∀ d ∈ waiting, g.parentFor? d = none) (d : ClassDefinition) :
    d ∈ made.map Prod.fst ↔ d ∈ ds ∧ g₀.Resolvable ds d := by
  constructor
  · intro member
    obtain ⟨entry, earlier, rfl⟩ := List.mem_map.mp member
    exact ⟨stage.made_of_mem earlier, stage.resolvable entry earlier⟩
  · rintro ⟨member, top, chain, grounded⟩
    -- Down the chain from its top, each definition was made or found its parent.
    induction chain using Relation.ReflTransGen.head_induction_on with
    | refl =>
        rcases List.mem_append.mp (stage.dealt.symm.subset member) with here | waits
        · exact here
        · refine absurd ?_ (parent_for_none.mp (stuck _ waits))
          intro name named
          obtain ⟨ref, found⟩ := Option.isSome_iff_exists.mp (grounded name named)
          rw [(stage.names name ref).mpr (.inl found)]
          rfl
    | @head below above under _ ih =>
        obtain ⟨entry, earlier, same⟩ := List.mem_map.mp (ih under.1)
        rcases List.mem_append.mp (stage.dealt.symm.subset member) with here | waits
        · exact here
        · refine absurd ?_ (parent_for_none.mp (stuck _ waits))
          intro name named
          have asked : above.name = name := Option.some.inj (under.2.symm.trans named)
          rw [(stage.names name entry.2).mpr (.inr ⟨entry.1, earlier, by rw [same, asked]⟩)]
          rfl

theorem registered_iff (stage : Stage g₀ ds made waiting g)
    (stuck : ∀ d ∈ waiting, g.parentFor? d = none) (name : TypeName) :
    (g.findClass? name).isSome = true ↔ (g₀.findClass? name).isSome = true ∨
      ∃ d ∈ ds, g₀.Resolvable ds d ∧ d.name = name := by
  simp only [Option.isSome_iff_exists, stage.names, exists_or]
  refine or_congr Iff.rfl ⟨?_, ?_⟩
  · rintro ⟨ref, d, member, named⟩
    obtain ⟨given, resolvable⟩ := (stage.made_iff stuck d).mp (List.mem_map_of_mem member)
    exact ⟨d, given, resolvable, named⟩
  · rintro ⟨d, given, resolvable, named⟩
    have made := (stage.made_iff stuck d).mpr ⟨given, resolvable⟩
    obtain ⟨entry, member, rfl⟩ := List.mem_map.mp made
    exact ⟨entry.2, entry.1, member, named⟩

theorem waiting_iff (stage : Stage g₀ ds made waiting g) (fresh : Fresh g₀ ds)
    (stuck : ∀ d ∈ waiting, g.parentFor? d = none) (d : ClassDefinition) :
    d ∈ waiting ↔ d ∈ ds ∧ ¬ g₀.Resolvable ds d := by
  have split : d ∈ ds ↔ d ∈ made.map Prod.fst ∨ d ∈ waiting := by
    rw [← stage.dealt.mem_iff, List.mem_append]
  constructor
  · intro waits
    refine ⟨split.mpr (.inr waits), fun resolvable => ?_⟩
    have done := (stage.made_iff stuck d).mpr ⟨split.mpr (.inr waits), resolvable⟩
    obtain ⟨entry, earlier, rfl⟩ := List.mem_map.mp done
    exact stage.apart fresh waits earlier rfl
  · rintro ⟨member, stays⟩
    rcases split.mp member with done | waits
    · exact absurd ((stage.made_iff stuck d).mp done).2 stays
    · exact waits

theorem refs_nodup (stage : Stage g₀ ds made waiting g) (fresh : Fresh g₀ ds) :
    (made.map Prod.snd).Nodup := by
  have names := stage.names_nodup fresh
  rw [List.map_append, List.nodup_append, List.map_map] at names
  refine List.Nodup.of_map (fun ref => (g.class? ref).map (·.name)) ?_
  have same : (made.map Prod.snd).map (fun ref => (g.class? ref).map (·.name)) =
      (made.map ((·.name) ∘ Prod.fst)).map some := by
    rw [List.map_map, List.map_map]
    apply List.map_congr_left
    intro entry member
    obtain ⟨parent, _, found⟩ := stage.placed entry.1 entry.2 member
    simp [found]
  rw [same]
  exact names.1.map fun _ _ => Option.some.inj

theorem parent_name (stage : Stage g₀ ds made waiting g) (fresh : Fresh g₀ ds)
    {entry : ClassDefinition × ClassRef} (member : entry ∈ made) :
    g.parentName? entry.1.name = g₀.rootedName? entry.1 := by
  obtain ⟨parent, resolved, found⟩ := stage.placed entry.1 entry.2 member
  have named := (stage.names entry.1.name entry.2).mpr (.inr ⟨entry.1, member, rfl⟩)
  have link : g.parent? entry.2 = some parent := by
    rw [parent?, found]
    rfl
  have reached : g.parentName? entry.1.name = (g.class? parent).map (·.name) := by
    rw [parentName?, named, Option.bind_some, link, Option.bind_some]
  cases asked : entry.1.superName with
  | some name =>
      simp only [parentFor?, asked] at resolved
      obtain ⟨c, live, rfl⟩ := (stage.indexed.named name parent).mp resolved
      simp only [reached, live, rootedName?, asked, Option.map_some]
  | none =>
      simp only [parentFor?, asked, Option.some_inj] at resolved
      obtain ⟨c, root⟩ := SlotTable.contains_iff.mp fresh.root
      have old : g₀.class? g₀.objectClass = some c := root
      have kept : g.class? g₀.objectClass = some c := stage.kept _ c root
      simp only [reached, ← resolved, stage.root, kept, old, rootedName?, asked]

theorem resolvable_parent_name (stage : Stage g₀ ds made waiting g) (fresh : Fresh g₀ ds)
    (stuck : ∀ d ∈ waiting, g.parentFor? d = none) (given : d ∈ ds)
    (resolvable : g₀.Resolvable ds d) : g.parentName? d.name = g₀.rootedName? d := by
  obtain ⟨entry, member, rfl⟩ := List.mem_map.mp ((stage.made_iff stuck d).mpr ⟨given, resolvable⟩)
  exact stage.parent_name fresh member

end Stage

end BlueprintBridge.TypeGraph
